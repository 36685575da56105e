import OverlayChain.Text.Ascii

/-!
# Tables of code point ranges

A property of characters is given by the ranges of code points that have it. Tables are written
as text, one range of hexadecimal numbers after the other, and read once.

## Main definitions

- `RangeTable`: a set of code points as a list of ranges.
- `RangeTable.read`: the table that a text spells.
- `RangeTable.contains`: whether a character is in the set.
-/

namespace OverlayChain

/-- A set of code points: those between the two numbers of one of the pairs. -/
structure RangeTable where
  ranges : Array (Nat × Nat)

namespace RangeTable

/-- One range: `41-5a`, or `aa` for a single code point. -/
def readRange (cs : List Char) : Nat × Nat :=
  match cs.splitOn '-' with
  | [low, high] => (Text.hexNumber low, Text.hexNumber high)
  | _ => (Text.hexNumber cs, Text.hexNumber cs)

/-- The table that lines of ranges with blanks between them spell. -/
def read (lines : List String) : RangeTable :=
  ⟨(lines.flatMap fun line => (line.toList.splitOn ' ').map readRange).toArray⟩

/-- Whether a code point lies in one of the ranges. -/
def containsCode (table : RangeTable) (code : Nat) : Bool :=
  table.ranges.any fun range => range.1 ≤ code && code ≤ range.2

/-- Whether a character lies in one of the ranges. -/
def contains (table : RangeTable) (c : Char) : Bool := table.containsCode c.toNat

end RangeTable

end OverlayChain
