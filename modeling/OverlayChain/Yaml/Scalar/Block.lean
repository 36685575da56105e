import OverlayChain.Yaml.Cursor

/-!
# Block scalars

A block scalar is made of whole lines, indented more than what holds it. Its header says whether
lines are kept or folded, what happens to the breaks at the end, and how far it is indented.

## Main definitions

- `Yaml.Block.Header`: what the header says.
- `Yaml.Block.scan`: the block scalar at a place.
-/

namespace OverlayChain.Yaml.Block

/-- What happens to the line breaks at the end of a scalar. -/
inductive Chomping where
  | strip
  | clip
  | keep
  deriving DecidableEq

/-- What the header of a block scalar says. -/
structure Header where
  chomping : Chomping
  /-- The indentation relative to what holds the scalar, if the header gives it. -/
  indent : Option Nat

/-- The meaning of a chomping indicator. -/
def chomping? (c : Char) : Option Chomping :=
  if c == '+' then some .keep else if c == '-' then some .strip else none

/-- Read an optional indentation indicator, which is not zero. -/
def indent? (cur : Cursor) : Option (Option Nat × Cursor) :=
  match cur.rest with
  | c :: _ =>
    if c == '0' then none
    else if Text.isDigit c then some (some (c.toNat - '0'.toNat), cur.skip 1)
    else some (none, cur)
  | [] => some (none, cur)

/-- Read an optional chomping indicator. -/
def chomp (cur : Cursor) : Option Chomping × Cursor :=
  match cur.rest.head?.bind chomping? with
  | some chomping => (some chomping, cur.skip 1)
  | none => (none, cur)

/-- Read the two indicators in either order. -/
def header? (cur : Cursor) : Option (Header × Cursor) := do
  let (before, cur) := chomp cur
  let (indent, cur) ← indent? cur
  let (after, cur) := if before.isNone && indent.isSome then chomp cur else (before, cur)
  return (⟨after.getD .clip, indent⟩, cur)

/-- Step over empty lines and indentation up to the column `limit`, or over all blanks if it is
not known yet: the breaks, the widest indentation seen, and the place after them. A tab cannot
indent. -/
def breaks (limit : Option Nat) : Nat → Nat → Cursor → Option (List Char × Nat × Cursor)
  | 0, _, _ => none
  | fuel + 1, widest, cur =>
    let run := (cur.rest.takeWhile (· == ' ')).length
    let cur := cur.skip (match limit with
      | none => run
      | some limit => min run (limit - cur.column))
    let widest := max widest cur.column
    let short := limit.all fun limit => cur.column < limit
    if short && cur.rest.head? == some '\t' then none
    else
      match cur.takeBreak? with
      | none => some ([], widest, cur)
      | some (lineBreak, next) =>
        (breaks limit fuel widest next).map fun (text, widest, cur) => (lineBreak ++ text, widest, cur)

/-- What is carried from one line of a scalar to the next. -/
structure Carry where
  /-- The break at the end of the last line. -/
  first : List Char
  /-- The breaks of the empty lines after it. -/
  others : List Char
  /-- Whether the last line began with a blank. -/
  blank : Bool

/-- What the breaks between two lines count as. -/
def glue (folded blank : Bool) (carry : Carry) : List Char :=
  if folded && carry.first.head? == some '\n' && !carry.blank && !blank then
    if carry.others.isEmpty then [' '] else carry.others
  else carry.first ++ carry.others

/-- The lines of a scalar that begin in the column `indent`. -/
def lines (folded : Bool) (indent : Nat) : Nat → Carry → Cursor →
    Option (List Char × Carry × Cursor)
  | 0, _, _ => none
  | fuel + 1, carry, cur =>
    if cur.column != indent || cur.rest.isEmpty then some ([], carry, cur)
    else
      let blank := cur.rest.head?.any isBlank
      let (line, cur) := cur.span fun c => !isBreak c
      let (first, cur) := cur.takeBreak?.getD ([], cur)
      match breaks (some indent) (cur.rest.length + 1) 0 cur with
      | none => none
      | some (others, _, cur) =>
        (lines folded indent fuel ⟨first, others, blank⟩ cur).map fun (text, rest) =>
          (glue folded blank carry ++ line ++ text, rest)

/-- The block scalar at a place, and the place after it. What holds it begins in the column
before `margin`; a margin of zero stands for the document. -/
def scan (folded : Bool) (margin : Nat) (cur : Cursor) : Option (List Char × Cursor) := do
  let (header, cur) ← header? (cur.skip 1)
  let cur ← cur.endLine?
  let given := header.indent.map fun n => margin - 1 + n
  let (others, widest, cur) ← breaks given (cur.rest.length + 1) 0 cur
  let indent := given.getD (max 1 (max widest margin))
  let (text, carry, cur) ← lines folded indent (cur.rest.length + 1) ⟨[], others, false⟩ cur
  let tail := match header.chomping with
    | .strip => []
    | .clip => carry.first
    | .keep => carry.first ++ carry.others
  return (text ++ tail, cur)

end OverlayChain.Yaml.Block
