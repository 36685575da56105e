/-!
# ASCII letters and digits

Case folding and character classes that look at ASCII only. A character outside ASCII
is its own lower case and belongs to none of the classes.

## Main definitions

- `Text.lower`: lower-case every ASCII letter.
- `Text.sameIgnoringCase`: equality up to the case of ASCII letters.
- `Text.dropPrefixIgnoringCase?`: the rest after a pattern spelled in any case.
-/

namespace OverlayChain.Text

/-- Lower-case every ASCII letter; other characters stay. -/
def lower (cs : List Char) : List Char := cs.map Char.toLower

/-- Equality up to the case of ASCII letters. -/
def sameIgnoringCase (a b : List Char) : Bool := lower a == lower b

/-- The rest of `cs` after `pattern`, whatever the case of the letters in either. -/
def dropPrefixIgnoringCase? (pattern cs : List Char) : Option (List Char) :=
  if sameIgnoringCase (cs.take pattern.length) pattern then some (cs.drop pattern.length) else none

@[simp] theorem lower_nil : lower [] = [] := rfl

@[simp] theorem lower_append (a b : List Char) : lower (a ++ b) = lower a ++ lower b := by
  simp [lower]

@[simp] theorem length_lower (cs : List Char) : (lower cs).length = cs.length := by simp [lower]

/-- An ASCII digit. -/
def isDigit (c : Char) : Bool := '0' ≤ c && c ≤ '9'

/-- An ASCII lower-case letter. -/
def isLowerLetter (c : Char) : Bool := 'a' ≤ c && c ≤ 'z'

/-- An ASCII letter of either case. -/
def isLetter (c : Char) : Bool := isLowerLetter c || ('A' ≤ c && c ≤ 'Z')

/-- The value of a hexadecimal digit. -/
def hexValue? (c : Char) : Option Nat :=
  if isDigit c then some (c.toNat - '0'.toNat)
  else if 'a' ≤ c && c ≤ 'f' then some (c.toNat - 'a'.toNat + 10)
  else if 'A' ≤ c && c ≤ 'F' then some (c.toNat - 'A'.toNat + 10)
  else none

/-- Read hexadecimal digits as a number; other characters count as zero. -/
def hexNumber (cs : List Char) : Nat := cs.foldl (fun n c => 16 * n + (hexValue? c).getD 0) 0

end OverlayChain.Text
