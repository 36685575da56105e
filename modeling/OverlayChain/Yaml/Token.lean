/-!
# Tokens of YAML

## Main definitions

- `Yaml.Tag`: a tag as it is written, by handle and suffix.
- `Yaml.Token`: the tokens, among them those that mark where a block begins and ends.
-/

namespace OverlayChain.Yaml

/-- A tag as it is written. An empty handle says that the suffix is the whole tag. -/
structure Tag where
  handle : List Char
  suffix : List Char
  deriving DecidableEq

/-- A token of a stream. -/
inductive Token where
  | streamEnd
  /-- A directive that names the version. -/
  | version (major minor : Nat)
  /-- A directive that says what a tag handle stands for. -/
  | tagDirective (handle opening : List Char)
  | documentStart
  | documentEnd
  | blockSequenceStart
  | blockMappingStart
  | blockEnd
  | flowSequenceStart
  | flowSequenceEnd
  | flowMappingStart
  | flowMappingEnd
  | blockEntry
  | flowEntry
  | key
  | value
  | alias (name : List Char)
  | anchor (name : List Char)
  | tag (tag : Tag)
  | scalar (text : List Char) (plain : Bool)
  deriving DecidableEq

end OverlayChain.Yaml
