import OverlayChain.Yaml.Cursor
import OverlayChain.Yaml.Token

/-!
# Anchors, tags and directives

## Main definitions

- `Yaml.anchorName?`: the name after the indicator of an anchor or an alias.
- `Yaml.tag?`: the tag at a place.
- `Yaml.directive?`: the directive at a place.
-/

namespace OverlayChain.Yaml

/-- The name after an indicator; what follows it has to end the name. -/
def anchorName? (cur : Cursor) : Option (List Char × Cursor) :=
  let (name, next) := (cur.skip 1).span isWordChar
  let ends := endsWord next.rest ||
    next.rest.head?.any fun c => ['?', ':', ',', ']', '\x7d', '%', '@', '\x60'].contains c
  if !name.isEmpty && ends then some (name, next) else none

/-- A character of a tag; a verbatim tag may also hold some flow indicators. -/
def isTagChar (verbatim : Bool) (c : Char) : Bool :=
  isWordChar c ||
    [';', '/', '?', ':', '@', '&', '=', '+', '$', '.', '%', '!', '~', '*', '\x27', '(', ')'].contains c ||
    (verbatim && [',', '[', ']'].contains c)

/-- The number of bytes of the character that a leading byte opens. -/
def byteCount? (lead : Nat) : Option Nat :=
  if lead < 0x80 then some 1
  else if 0xc0 ≤ lead && lead < 0xe0 then some 2
  else if 0xe0 ≤ lead && lead < 0xf0 then some 3
  else if 0xf0 ≤ lead && lead < 0xf8 then some 4
  else none

/-- One escaped byte: a percent sign and two hexadecimal digits. -/
def escapedByte? : List Char → Option Nat
  | '%' :: a :: b :: _ =>
    match Text.hexValue? a, Text.hexValue? b with
    | some high, some low => some (16 * high + low)
    | _, _ => none
  | _ => none

/-- Further escaped bytes of a character, as code points. -/
def continuation? : Nat → List Char → Option (List Char)
  | 0, _ => some []
  | n + 1, cs => do
    let byte ← escapedByte? cs
    if 0x80 ≤ byte && byte < 0xc0 then
      let rest ← continuation? n (cs.drop 3)
      return Char.ofNat byte :: rest
    else none

/-- The bytes of one escaped character, each as a code point, and how much text they take. -/
def escapedChar? (cs : List Char) : Option (List Char × Nat) := do
  let lead ← escapedByte? cs
  let count ← byteCount? lead
  let rest ← continuation? (count - 1) (cs.drop 3)
  return (Char.ofNat lead :: rest, 3 * count)

/-- The text of a tag: what it stands for, and how much is used. -/
def tagText? (verbatim : Bool) : Nat → List Char → Option (List Char × Nat)
  | 0, _ => none
  | fuel + 1, cs =>
    match cs with
    | [] => some ([], 0)
    | c :: rest =>
      if !isTagChar verbatim c then some ([], 0)
      else if c == '%' then do
        let (bytes, used) ← escapedChar? cs
        let (text, length) ← tagText? verbatim fuel (cs.drop used)
        return (bytes ++ text, length + used)
      else do
        let (text, length) ← tagText? verbatim fuel rest
        return (c :: text, length + 1)

/-- The text of a tag at a place. -/
def tagTextAt? (verbatim : Bool) (cur : Cursor) : Option (List Char × Cursor) :=
  (tagText? verbatim (cur.rest.length + 1) cur.rest).map fun (text, used) => (text, cur.skip used)

/-- The exclamation mark at a place, the name after it, and a closing mark if there is one. -/
def handle? (cur : Cursor) : Option (List Char × Cursor) :=
  if cur.rest.head? != some '!' then none
  else
    let (name, next) := (cur.skip 1).span isWordChar
    if next.rest.head? == some '!' then some ('!' :: name ++ ['!'], next.skip 1)
    else some ('!' :: name, next)

/-- Whether a handle has a mark at both ends. -/
def isClosed (handle : List Char) : Bool := 1 < handle.length && handle.getLast? == some '!'

/-- A tag between angle brackets. -/
def verbatimTag? (cur : Cursor) : Option (Tag × Cursor) := do
  let (text, next) ← tagTextAt? true (cur.skip 2)
  if text.isEmpty || next.rest.head? != some '>' then none
  return (⟨[], text⟩, next.skip 1)

/-- A tag with a handle. -/
def shortTag? (cur : Cursor) : Option (Tag × Cursor) := do
  let (handle, next) ← handle? cur
  let (text, next) ← tagTextAt? false next
  if isClosed handle then
    if text.isEmpty then none
    return (⟨handle, text⟩, next)
  else
    let suffix := handle.drop 1 ++ text
    return (if suffix.isEmpty then ⟨[], ['!']⟩ else ⟨['!'], suffix⟩, next)

/-- The tag at a place. A blank, a break or, in a flow collection, a comma ends it. -/
def tag? (inFlow : Bool) (cur : Cursor) : Option (Tag × Cursor) := do
  let (tag, next) ←
    if (cur.rest.drop 1).head? == some '<' then verbatimTag? cur else shortTag? cur
  if (inFlow && next.rest.head? == some ',') || endsWord next.rest then return (tag, next)
  none

/-- A number of at most nine digits. -/
def versionNumber? (cur : Cursor) : Option (Nat × Cursor) :=
  let (digits, next) := cur.span Text.isDigit
  if digits.isEmpty || 9 < digits.length then none
  else some (digits.foldl (fun n d => 10 * n + (d.toNat - '0'.toNat)) 0, next)

/-- The value of a directive that names the version. -/
def versionDirective? (cur : Cursor) : Option (Token × Cursor) := do
  let (major, cur) ← versionNumber? (cur.skipWhile isBlank)
  if cur.rest.head? != some '.' then none
  let (minor, cur) ← versionNumber? (cur.skip 1)
  return (.version major minor, cur)

/-- The value of a directive that says what a tag handle stands for. -/
def tagDirective? (cur : Cursor) : Option (Token × Cursor) := do
  let (handle, cur) ← handle? (cur.skipWhile isBlank)
  if handle != ['!'] && !isClosed handle then none
  if !cur.rest.head?.any isBlank then none
  let (opening, cur) ← tagTextAt? true (cur.skipWhile isBlank)
  if opening.isEmpty || !endsWord cur.rest then none
  return (.tagDirective handle opening, cur)

/-- The directive at a place. -/
def directive? (cur : Cursor) : Option (Token × Cursor) := do
  let (name, cur) := (cur.skip 1).span isWordChar
  if name.isEmpty || !endsWord cur.rest then none
  let (token, cur) ←
    if name = "YAML".toList then versionDirective? cur
    else if name = "TAG".toList then tagDirective? cur
    else none
  let cur ← cur.endLine?
  return (token, cur)

end OverlayChain.Yaml
