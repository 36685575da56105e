import OverlayChain.Error
import OverlayChain.Yaml.Document

/-!
# Overlay files

The fields of an overlay file that the chain looks at. Other fields may be there and are ignored.

## Main definitions

- `Overlay.File`: bases, resources, namespace and labels.
- `Overlay.File.parse`: the reading of a file's content.
-/

namespace OverlayChain.Overlay

/-- The fields of an overlay file that the chain looks at. -/
structure File where
  bases : List String
  resources : List String
  namespaceName : Option String
  /-- The common labels, in the order of their keys, each key once. -/
  labels : List (String × String)
  deriving DecidableEq

namespace File

/-- An overlay that declares nothing. -/
def empty : File := ⟨[], [], none, []⟩

/-- Set a label in a list that is ordered by key. -/
def setLabel (key value : String) : List (String × String) → List (String × String)
  | [] => [(key, value)]
  | (k, v) :: rest =>
    if key < k then (key, value) :: (k, v) :: rest
    else if key = k then (k, value) :: rest
    else (k, v) :: setLabel key value rest

section Reading

open Yaml (Node Document)

/-- The tag that only null has. -/
def nullTag : List Char := "tag:yaml.org,2002:null".toList

/-- A text that stands for null. -/
def isNullText (text : List Char) : Bool :=
  ["null", "Null", "NULL", "~"].any fun spelling => spelling.toList = text

/-- Whether a node is nothing rather than something; `none` if its tag says null and its text does
not. Only plain scalars can be nothing. -/
def isNothing? (node : Node) : Option Bool :=
  match node with
  | .scalar text tag true =>
    match tag with
    | none => some (text.isEmpty || isNullText text)
    | some tag =>
      if tag = nullTag then (if isNullText text then some true else none) else some false
  | _ => some false

/-- An empty plain scalar, which can stand for an empty collection. -/
def isBare : Node → Bool
  | .scalar [] _ true => true
  | _ => false

/-- The text of a scalar, whatever it looks like. -/
def text? (doc : Document) (node : Node) : Option String :=
  match doc.resolve node with
  | .scalar text _ _ => some (String.ofList text)
  | _ => none

/-- A list of texts. -/
def texts? (doc : Document) (node : Node) : Option (List String) :=
  match doc.resolve node with
  | .sequence items => items.mapM (text? doc)
  | node => if isBare node then some [] else none

/-- A text or nothing. -/
def optionalText? (doc : Document) (node : Node) : Option (Option String) := do
  if ← isNothing? (doc.resolve node) then return none
  return some (← text? doc node)

/-- A mapping of texts; of two values for a key the last counts. -/
def labels? (doc : Document) (node : Node) : Option (List (String × String)) :=
  match doc.resolve node with
  | .mapping pairs =>
    pairs.foldlM (fun labels pair => do
      return setLabel (← text? doc pair.1) (← text? doc pair.2) labels) []
  | node => if isBare node then some [] else none

/-- The fields seen so far. -/
structure Fields where
  bases : Option (List String)
  resources : Option (List String)
  namespaceName : Option (Option String)
  labels : Option (List (String × String))

/-- Read one field of an overlay. A known field may stand there once. -/
def field? (doc : Document) (fields : Fields) (key : String) (value : Node) : Option Fields :=
  match key with
  | "bases" => do
    if fields.bases.isSome then none
    return { fields with bases := some (← texts? doc value) }
  | "resources" => do
    if fields.resources.isSome then none
    return { fields with resources := some (← texts? doc value) }
  | "namespace" => do
    if fields.namespaceName.isSome then none
    return { fields with namespaceName := some (← optionalText? doc value) }
  | "commonLabels" => do
    if fields.labels.isSome then none
    return { fields with labels := some (← labels? doc value) }
  | _ => some fields

/-- Read the fields of an overlay. -/
def ofPairs? (doc : Document) (pairs : List (Node × Node)) : Option File := do
  let fields ← pairs.foldlM (fun fields pair => do
    field? doc fields (← text? doc pair.1) pair.2) (⟨none, none, none, none⟩ : Fields)
  return ⟨fields.bases.getD [], fields.resources.getD [], fields.namespaceName.getD none,
    fields.labels.getD []⟩

/-- Read a document as an overlay. A document that is nothing is an empty overlay. -/
def ofDocument? (doc : Document) : Option File := do
  let root := doc.resolve doc.root
  if ← isNothing? root then return empty
  match root with
  | .mapping pairs => ofPairs? doc pairs
  | root => if isBare root then return empty else none

end Reading

/-- A byte that is blank in ASCII. -/
def isBlankByte (b : UInt8) : Bool := b == 0x20 || b == 0x09 || b == 0x0a || b == 0x0c || b == 0x0d

/-- Read the content of an overlay file. A blank file declares nothing. -/
def parse (content : ByteArray) : Except Error File :=
  if content.toList.all isBlankByte then .ok empty
  else
    match Yaml.document? content with
    | none => .error .malformedOverlay
    | some none => .ok empty
    | some (some doc) =>
      match ofDocument? doc with
      | some file => .ok file
      | none => .error .malformedOverlay

end File

end OverlayChain.Overlay
