import OverlayChain.Yaml.Node
import OverlayChain.Yaml.Tokens

/-!
# Documents

The tokens of a stream are put together to the nodes of its document. A stream holds at most one
document. An alias has to come after its anchor.

An anchor gets a slot by the number of different names before it, so a name that is used again
may share the slot of a later one.

## Main definitions

- `Yaml.Parse`: what is left of the tokens, with tag handles and anchors.
- `Yaml.Parse.node`: the node at a place.
- `Yaml.document?`: the document of a stream.
-/

namespace OverlayChain.Yaml

/-- What is left of the tokens, and what was declared before them. -/
structure Parse.State where
  rest : List Token
  handles : List (List Char × List Char)
  /-- The slot of each anchor name. -/
  names : List (List Char × Nat)
  /-- How many anchors there were. -/
  count : Nat
  anchored : List Anchored

/-- Reading tokens, which may fail. -/
abbrev Parse := StateT Parse.State Option

namespace Parse

/-- The next token. -/
def peek : Parse Token := do
  match (← get).rest with
  | token :: _ => return token
  | [] => failure

/-- Step over the next token. -/
def skip : Parse Unit := modify fun s => { s with rest := s.rest.drop 1 }

/-- Step over one token, which has to be the given one. -/
def expect (token : Token) : Parse Unit := do
  if (← peek) = token then skip else failure

/-- The slot of an alias. -/
def slotOf (name : List Char) : Parse Nat := do
  match (← get).names.lookup name with
  | some slot => return slot
  | none => failure

/-- Give an anchor a slot. -/
def anchor (name : List Char) : Parse (Nat × Nat) := do
  let s ← get
  let slot := s.names.length
  let others := s.names.filter fun entry => entry.1 != name
  set { s with names := (name, slot) :: others, count := s.count + 1 }
  return (slot, s.count)

/-- Keep an anchored node. -/
def keep (entry : Anchored) : Parse Unit :=
  modify fun s => { s with anchored := entry :: s.anchored }

/-- The full form of a tag. Its handle has to be declared. -/
def fullTag (tag : Tag) : Parse (List Char) := do
  if tag.handle.isEmpty then return tag.suffix
  match (← get).handles.lookup tag.handle with
  | some opening => return opening ++ tag.suffix
  | none => failure

/-- The anchor and the tag before a node, in either order. -/
def properties : Parse (Option (List Char) × Option Tag) := do
  match ← peek with
  | .anchor name =>
    skip
    match ← peek with
    | .tag tag => skip; return (some name, some tag)
    | _ => return (some name, none)
  | .tag tag =>
    skip
    match ← peek with
    | .anchor name => skip; return (some name, some tag)
    | _ => return (none, some tag)
  | _ => return (none, none)

/-- Read a node unless one of the tokens comes next, which stand for an empty one. -/
def orEmpty (ends : List Token) (node : Parse Node) : Parse Node := do
  if ends.contains (← peek) then return .empty else node

mutual

/-- The node at a place. In a block it may be a block collection, and after a key or a value also a
sequence that is not indented. -/
def node : (fuel : Nat) → (block loose : Bool) → Parse Node
  | 0, _, _ => failure
  | fuel + 1, block, loose => do
    match ← peek with
    | .alias name =>
      skip
      return .alias (← slotOf name)
    | _ =>
      let (name, tag) ← properties
      let full ← tag.mapM fullTag
      let place ← name.mapM anchor
      let found ← content fuel block loose (name.isSome || tag.isSome) full
      match place with
      | some (slot, order) => keep ⟨slot, order, found⟩
      | none => pure ()
      return found

/-- The node after its anchor and its tag. -/
def content : (fuel : Nat) → (block loose marked : Bool) → (tag : Option (List Char)) → Parse Node
  | 0, _, _, _, _ => failure
  | fuel + 1, block, loose, marked, tag => do
    match ← peek with
    | .scalar text plain =>
      skip
      return .scalar text (tag.filter (· != ['!'])) plain
    | .flowSequenceStart =>
      skip
      return .sequence (← flowItems fuel true)
    | .flowMappingStart =>
      skip
      return .mapping (← flowPairs fuel true)
    | token =>
      if loose && token = .blockEntry then return .sequence (← looseItems fuel)
      else if block && token = .blockSequenceStart then
        skip
        return .sequence (← blockItems fuel)
      else if block && token = .blockMappingStart then
        skip
        return .mapping (← blockPairs fuel)
      else if marked then return .scalar [] tag true
      else failure

/-- The items of a block sequence. -/
def blockItems : (fuel : Nat) → Parse (List Node)
  | 0 => failure
  | fuel + 1 => do
    match ← peek with
    | .blockEntry =>
      skip
      let item ← orEmpty [.blockEntry, .blockEnd] (node fuel true false)
      return item :: (← blockItems fuel)
    | .blockEnd =>
      skip
      return []
    | _ => failure

/-- The items of a sequence that is not indented. -/
def looseItems : (fuel : Nat) → Parse (List Node)
  | 0 => failure
  | fuel + 1 => do
    match ← peek with
    | .blockEntry =>
      skip
      let item ← orEmpty [.blockEntry, .key, .value, .blockEnd] (node fuel true false)
      return item :: (← looseItems fuel)
    | _ => return []

/-- The pairs of a block mapping. -/
def blockPairs : (fuel : Nat) → Parse (List (Node × Node))
  | 0 => failure
  | fuel + 1 => do
    match ← peek with
    | .key =>
      skip
      let ends : List Token := [.key, .value, .blockEnd]
      let key ← orEmpty ends (node fuel true true)
      let value ←
        if (← peek) = .value then do
          skip
          orEmpty ends (node fuel true true)
        else pure .empty
      return (key, value) :: (← blockPairs fuel)
    | .blockEnd =>
      skip
      return []
    | _ => failure

/-- The items of a flow sequence. A pair among them is a mapping of its own. -/
def flowItems : (fuel : Nat) → (first : Bool) → Parse (List Node)
  | 0, _ => failure
  | fuel + 1, first => do
    if (← peek) = .flowSequenceEnd then
      skip
      return []
    if !first then expect .flowEntry
    match ← peek with
    | .flowSequenceEnd =>
      skip
      return []
    | .key =>
      skip
      let pair ← flowPair fuel
      return .mapping [pair] :: (← flowItems fuel false)
    | _ =>
      let item ← node fuel false false
      return item :: (← flowItems fuel false)

/-- A pair among the items of a flow sequence. A token that stands for an empty key is lost. -/
def flowPair : (fuel : Nat) → Parse (Node × Node)
  | 0 => failure
  | fuel + 1 => do
    let ends : List Token := [.flowEntry, .flowSequenceEnd]
    let key ←
      if (.value :: ends).contains (← peek) then do
        skip
        pure .empty
      else node fuel false false
    let value ←
      if (← peek) = .value then do
        skip
        orEmpty ends (node fuel false false)
      else pure .empty
    return (key, value)

/-- The pairs of a flow mapping. -/
def flowPairs : (fuel : Nat) → (first : Bool) → Parse (List (Node × Node))
  | 0, _ => failure
  | fuel + 1, first => do
    if (← peek) = .flowMappingEnd then
      skip
      return []
    if !first then expect .flowEntry
    let ends : List Token := [.flowEntry, .flowMappingEnd]
    match ← peek with
    | .flowMappingEnd =>
      skip
      return []
    | .key =>
      skip
      let key ← orEmpty (.value :: ends) (node fuel false false)
      let value ←
        if (← peek) = .value then do
          skip
          orEmpty ends (node fuel false false)
        else pure .empty
      return (key, value) :: (← flowPairs fuel false)
    | _ =>
      let key ← node fuel false false
      return (key, .empty) :: (← flowPairs fuel false)

end

/-- The tag handles that need no declaration. -/
def standardHandles : List (List Char × List Char) :=
  [("!".toList, "!".toList), ("!!".toList, "tag:yaml.org,2002:".toList)]

/-- The directives before a document: at most one version, and each handle declared once. -/
def directives : (fuel : Nat) → (versioned : Bool) → (declared : List (List Char × List Char)) →
    Parse (List (List Char × List Char))
  | 0, _, _ => failure
  | fuel + 1, versioned, declared => do
    match ← peek with
    | .version major minor =>
      if versioned || major != 1 || !(minor == 1 || minor == 2) then failure
      skip
      directives fuel true declared
    | .tagDirective handle opening =>
      if (declared.lookup handle).isSome then failure
      skip
      directives fuel versioned (declared ++ [(handle, opening)])
    | _ => return declared

/-- The tokens that may follow the start of a document without content. -/
def endsDocument : Token → Bool
  | .version .. | .tagDirective .. | .documentStart | .documentEnd | .streamEnd => true
  | _ => false

/-- The only document of a stream, `none` for a stream without one. -/
def stream (fuel : Nat) : Parse (Option Document) := do
  if (← peek) = .streamEnd then return none
  let explicit := match ← peek with
    | .version .. | .tagDirective .. | .documentStart => true
    | _ => false
  let root ←
    if explicit then do
      let declared ← directives fuel false []
      modify fun s => { s with handles := declared ++ standardHandles }
      expect .documentStart
      if endsDocument (← peek) then pure .empty else node fuel true false
    else node fuel true false
  modify fun s => { s with rest := s.rest.dropWhile (· = .documentEnd) }
  expect .streamEnd
  return some ⟨root, (← get).anchored⟩

end Parse

/-- The document of a stream: the inner `none` says that there is none, the outer that the stream is
malformed. -/
def document? (bytes : ByteArray) : Option (Option Document) := do
  let cs ← characters? bytes
  let tokens ← tokens? cs
  let (document, _) ←
    (Parse.stream (4 * tokens.length + 8)).run ⟨tokens, Parse.standardHandles, [], 0, []⟩
  return document

end OverlayChain.Yaml
