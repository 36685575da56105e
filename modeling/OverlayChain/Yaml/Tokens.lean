import OverlayChain.Yaml.Property
import OverlayChain.Yaml.Scalar.Block
import OverlayChain.Yaml.Scalar.Plain
import OverlayChain.Yaml.Scalar.Quoted

/-!
# The tokens of a stream

Indentation and the one-line keys of mappings are turned into tokens here. Where a key begins is
only known at the colon after it, so its place is remembered, one for each open collection; it is
forgotten at the end of the line and after 1024 characters.

## Main definitions

- `Yaml.Tokens`: the tokens so far, with indentation and remembered keys.
- `Yaml.tokens?`: all tokens of a stream.
-/

namespace OverlayChain.Yaml

/-- A place where a key may have begun. -/
structure PossibleKey where
  /-- How many tokens stood before it. -/
  position : Nat
  /-- Whether nothing but a key can stand there. -/
  required : Bool
  index : Nat
  line : Nat
  column : Nat

/-- The tokens so far, and what decides how they go on. -/
structure Tokens where
  tokens : Array Token
  cursor : Cursor
  /-- One more than the column of the innermost block, zero outside of blocks. -/
  margin : Nat
  /-- The margins around the innermost block. -/
  outer : List Nat
  /-- Whether a key may begin here. -/
  keyAllowed : Bool
  /-- Where a key may have begun at the innermost level. -/
  possibleKey : Option PossibleKey
  /-- The same for the flow collections around it. -/
  outerKeys : List (Option PossibleKey)

namespace Tokens

/-- Before the first token. -/
def start (cs : List Char) : Tokens := ⟨#[], .start cs, 0, [], true, none, []⟩

/-- Whether a flow collection is open. -/
def inFlow (ts : Tokens) : Bool := !ts.outerKeys.isEmpty

/-- One more token. -/
def push (ts : Tokens) (token : Token) : Tokens := { ts with tokens := ts.tokens.push token }

/-- One more token, and the place after its one character. -/
def pushIndicator (ts : Tokens) (token : Token) : Tokens :=
  { ts.push token with cursor := ts.cursor.skip 1 }

/-- A token before the token at a position. -/
def insert (ts : Tokens) (position : Nat) (token : Token) : Tokens :=
  { ts with tokens := ts.tokens.take position ++ #[token] ++ ts.tokens.drop position }

/-- Open a block in a column, if it is further right than the innermost one. -/
def openBlock (ts : Tokens) (column position : Nat) (token : Token) : Tokens :=
  if ts.inFlow || column < ts.margin then ts
  else { ts.insert position token with margin := column + 1, outer := ts.margin :: ts.outer }

/-- Close the blocks whose margin is greater. -/
def closeBlocks (margin : Nat) : List Nat → Tokens → Tokens
  | [], ts => ts
  | above :: outer, ts =>
    if margin < ts.margin then
      closeBlocks margin outer { ts.push .blockEnd with margin := above, outer := outer }
    else ts

/-- Close the blocks that begin further right than the margin says; flow collections keep them
open. -/
def unindent (ts : Tokens) (margin : Nat) : Tokens :=
  if ts.inFlow then ts else closeBlocks margin ts.outer ts

/-- Forget the place of a key, unless a key is required there. -/
def forgetKey? (ts : Tokens) : Option Tokens :=
  if ts.possibleKey.any PossibleKey.required then none else some { ts with possibleKey := none }

/-- Remember this place as the place of a key. -/
def rememberKey? (ts : Tokens) : Option Tokens :=
  if ts.keyAllowed then
    ts.forgetKey?.map fun ts => { ts with
      possibleKey := some {
        position := ts.tokens.size
        required := !ts.inFlow && ts.margin = ts.cursor.column + 1
        index := ts.cursor.index
        line := ts.cursor.line
        column := ts.cursor.column } }
  else some ts

/-- Whether a place is too far behind for a key. -/
def isStale (cur : Cursor) (key : PossibleKey) : Bool :=
  key.line < cur.line || key.index + 1024 < cur.index

/-- Forget places that are too far behind, unless a key is required there. -/
def dropStale? (ts : Tokens) : Option Tokens :=
  let stale (key : Option PossibleKey) : Bool := key.any (isStale ts.cursor)
  if (ts.possibleKey :: ts.outerKeys).any fun key => stale key && key.any PossibleKey.required then
    none
  else
    let keep (key : Option PossibleKey) : Option PossibleKey := if stale key then none else key
    some { ts with possibleKey := keep ts.possibleKey, outerKeys := ts.outerKeys.map keep }

/-- Step over blanks, comments and line breaks. A tab is a blank only where no key may begin. -/
def skipSpace : Nat → Tokens → Tokens
  | 0, ts => ts
  | fuel + 1, ts =>
    let cur := ts.cursor
    let cur := if cur.column == 0 && cur.rest.head? == some '\ufeff' then cur.skip 1 else cur
    let tabs := ts.inFlow || !ts.keyAllowed
    let cur := cur.skipWhile fun c => c == ' ' || (tabs && c == '\t')
    let cur := if cur.rest.head? == some '#' then cur.skipLine else cur
    match cur.takeBreak? with
    | some (_, next) =>
      skipSpace fuel { ts with cursor := next, keyAllowed := ts.keyAllowed || !ts.inFlow }
    | none => { ts with cursor := cur }

/-- The end of the stream. -/
def finish? (ts : Tokens) : Option Tokens := do
  let ts ← (ts.unindent 0).forgetKey?
  return ts.push .streamEnd

/-- A directive at the start of a line. -/
def directive? (ts : Tokens) : Option Tokens := do
  let ts ← (ts.unindent 0).forgetKey?
  let (token, cursor) ← Yaml.directive? ts.cursor
  return { ts.push token with cursor := cursor, keyAllowed := false }

/-- The line that begins or ends a document. -/
def documentMarker? (ts : Tokens) (token : Token) : Option Tokens := do
  let ts ← (ts.unindent 0).forgetKey?
  return { ts.push token with cursor := ts.cursor.skip 3, keyAllowed := false }

/-- The start of a flow collection, which may be a key itself. -/
def openFlow? (ts : Tokens) (token : Token) : Option Tokens := do
  let ts ← ts.rememberKey?
  return { ts.pushIndicator token with
    keyAllowed := true
    possibleKey := none
    outerKeys := ts.possibleKey :: ts.outerKeys }

/-- The end of a flow collection. -/
def closeFlow? (ts : Tokens) (token : Token) : Option Tokens := do
  let ts ← ts.forgetKey?
  let ts := { ts.pushIndicator token with keyAllowed := false }
  match ts.outerKeys with
  | [] => return ts
  | key :: keys => return { ts with possibleKey := key, outerKeys := keys }

/-- A comma between the entries of a flow collection. -/
def flowEntry? (ts : Tokens) : Option Tokens := do
  let ts ← ts.forgetKey?
  return { ts.pushIndicator .flowEntry with keyAllowed := true }

/-- A hyphen before the entry of a block sequence. -/
def blockEntry? (ts : Tokens) : Option Tokens := do
  if !ts.inFlow && !ts.keyAllowed then none
  let ts := ts.openBlock ts.cursor.column ts.tokens.size .blockSequenceStart
  let ts ← ts.forgetKey?
  return { ts.pushIndicator .blockEntry with keyAllowed := true }

/-- A question mark before a key. -/
def key? (ts : Tokens) : Option Tokens := do
  if !ts.inFlow && !ts.keyAllowed then none
  let ts := ts.openBlock ts.cursor.column ts.tokens.size .blockMappingStart
  let ts ← ts.forgetKey?
  return { ts.pushIndicator .key with keyAllowed := !ts.inFlow }

/-- A colon before a value. If a key began at a remembered place, it is marked there. -/
def value? (ts : Tokens) : Option Tokens :=
  match ts.possibleKey with
  | some key =>
    let ts := (ts.insert key.position .key).openBlock key.column key.position .blockMappingStart
    some { ts.pushIndicator .value with possibleKey := none, keyAllowed := false }
  | none =>
    if !ts.inFlow && !ts.keyAllowed then none
    else
      let ts := ts.openBlock ts.cursor.column ts.tokens.size .blockMappingStart
      some { ts.pushIndicator .value with keyAllowed := !ts.inFlow }

/-- A token that may be a key or a part of one. -/
def word? (ts : Tokens) (scan : Tokens → Option (Token × Cursor)) : Option Tokens := do
  let ts ← ts.rememberKey?
  let (token, cursor) ← scan ts
  return { ts.push token with cursor := cursor, keyAllowed := false }

/-- An alias. -/
def alias? (ts : Tokens) : Option Tokens :=
  ts.word? fun ts => (anchorName? ts.cursor).map fun (name, cur) => (.alias name, cur)

/-- An anchor. -/
def anchor? (ts : Tokens) : Option Tokens :=
  ts.word? fun ts => (anchorName? ts.cursor).map fun (name, cur) => (.anchor name, cur)

/-- A tag. -/
def tag? (ts : Tokens) : Option Tokens :=
  ts.word? fun ts => (Yaml.tag? ts.inFlow ts.cursor).map fun (tag, cur) => (.tag tag, cur)

/-- A scalar between quotes. -/
def quoted? (ts : Tokens) (quote : Char) : Option Tokens :=
  ts.word? fun ts => (Quoted.scan quote ts.cursor).map fun (text, cur) => (.scalar text false, cur)

/-- A block scalar, which cannot be a one-line key. -/
def block? (ts : Tokens) (folded : Bool) : Option Tokens := do
  let ts ← ts.forgetKey?
  let (text, cursor) ← Block.scan folded ts.margin ts.cursor
  return { ts.push (.scalar text false) with cursor := cursor, keyAllowed := true }

/-- A plain scalar. -/
def plain? (ts : Tokens) : Option Tokens := do
  let ts ← ts.rememberKey?
  let scalar ← Plain.scan ts.inFlow ts.margin ts.cursor
  return { ts.push (.scalar scalar.text true) with cursor := scalar.next, keyAllowed := scalar.broken }

/-- Whether a plain scalar may begin here. -/
def startsPlain (ts : Tokens) : Bool :=
  match ts.cursor.rest with
  | [] => false
  | c :: rest =>
    let special := ['-', '?', ':', ',', '[', ']', '\x7b', '\x7d', '#', '&', '*', '!', '|', '>', '\x27',
      '"', '%', '@', '\x60'].contains c
    (!isSpace c && !special) || (c == '-' && !rest.head?.any isBlank) ||
      (!ts.inFlow && (c == '?' || c == ':') && !endsWord rest)

/-- The token that begins with a character. -/
def tokenAt? (ts : Tokens) (c : Char) (rest : List Char) : Option Tokens :=
  if ts.cursor.column == 0 && c == '%' then ts.directive?
  else if ts.cursor.atMarker '-' then ts.documentMarker? .documentStart
  else if ts.cursor.atMarker '.' then ts.documentMarker? .documentEnd
  else if c == '[' then ts.openFlow? .flowSequenceStart
  else if c == '\x7b' then ts.openFlow? .flowMappingStart
  else if c == ']' then ts.closeFlow? .flowSequenceEnd
  else if c == '\x7d' then ts.closeFlow? .flowMappingEnd
  else if c == ',' then ts.flowEntry?
  else if c == '-' && endsWord rest then ts.blockEntry?
  else if c == '?' && (ts.inFlow || endsWord rest) then ts.key?
  else if c == ':' && (ts.inFlow || endsWord rest) then ts.value?
  else if c == '*' then ts.alias?
  else if c == '&' then ts.anchor?
  else if c == '!' then ts.tag?
  else if c == '|' && !ts.inFlow then ts.block? false
  else if c == '>' && !ts.inFlow then ts.block? true
  else if c == '\x27' || c == '"' then ts.quoted? c
  else if ts.startsPlain then ts.plain?
  else none

/-- All tokens up to the end of the stream. -/
def scan : Nat → Tokens → Option Tokens
  | 0, _ => none
  | fuel + 1, ts => do
    let ts ← (skipSpace (ts.cursor.rest.length + 1) ts).dropStale?
    let ts := ts.unindent (ts.cursor.column + 1)
    match ts.cursor.rest with
    | [] => ts.finish?
    | c :: rest => scan fuel (← ts.tokenAt? c rest)

end Tokens

/-- All tokens of a stream. Each takes at least one character. -/
def tokens? (cs : List Char) : Option (List Token) :=
  (Tokens.scan (cs.length + 1) (.start cs)).map fun ts => ts.tokens.toList

end OverlayChain.Yaml
