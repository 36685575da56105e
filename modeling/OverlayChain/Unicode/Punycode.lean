import OverlayChain.Text.Ascii

/-!
# Punycode

A text is written in ASCII as its ASCII characters, a hyphen, and numbers that say where the other
characters go. The other characters are taken in the order of their code points; each number counts
the places that are passed over since the one before it. Numbers are written in base 36, least
digit first, with digits that may end a number depending on how large the last numbers were.

## Main definitions

- `Unicode.Punycode.encode`, `Unicode.Punycode.decode?`: the two directions.
-/

namespace OverlayChain.Unicode.Punycode

/-- The digit of a value below 36: letters, then digits. -/
def digit (value : Nat) : Char :=
  if value < 26 then Char.ofNat ('a'.toNat + value) else Char.ofNat ('0'.toNat + (value - 26))

/-- The value of a digit. -/
def digitValue? (c : Char) : Option Nat :=
  let c := c.toLower
  if Text.isLowerLetter c then some (c.toNat - 'a'.toNat)
  else if Text.isDigit c then some (c.toNat - '0'.toNat + 26)
  else none

/-- A digit below the threshold ends a number; `place` is 36 for the first digit, 72 for the
second, and so on. -/
def threshold (bias place : Nat) : Nat := min 26 (max 1 (place - bias))

theorem threshold_pos (bias place : Nat) : 1 ≤ threshold bias place := by
  unfold threshold; omega

/-- Count how often a number can be divided until it is small. -/
def shrink (n count : Nat) : Nat × Nat :=
  if 455 < n then shrink (n / 35) (count + 1) else (n, count)
termination_by n
decreasing_by exact Nat.div_lt_self (by omega) (by omega)

/-- The bias after a number was written or read, with so many characters in place. -/
def adapt (number placed : Nat) (isFirst : Bool) : Nat :=
  let scaled := if isFirst then number / 700 else number / 2
  let (rest, count) := shrink (scaled + scaled / placed) 0
  36 * count + 36 * rest / (rest + 38)

/-- The digits of a number. -/
def writeNumber (bias place number : Nat) : List Char :=
  let t := threshold bias place
  if number < t then [digit number]
  else digit (t + (number - t) % (36 - t)) :: writeNumber bias (place + 36) ((number - t) / (36 - t))
termination_by number
decreasing_by
  have hpos := threshold_pos bias place
  have hle := Nat.div_le_self (number - threshold bias place) (36 - threshold bias place)
  omega

/-- Read the digits of a number, which may start with a total so far; the rest follows. -/
def readNumber? (bias : Nat) : (place weight total : Nat) → List Char → Option (Nat × List Char)
  | _, _, _, [] => none
  | place, weight, total, c :: rest =>
    match digitValue? c with
    | none => none
    | some value =>
      let t := threshold bias place
      let total := total + value * weight
      if value < t then some (total, rest)
      else readNumber? bias (place + 36) (weight * (36 - t)) total rest

/-- Reading a number uses up digits. -/
theorem length_lt_of_readNumber? {bias place weight total n : Nat} {cs rest : List Char}
    (h : readNumber? bias place weight total cs = some (n, rest)) : rest.length < cs.length := by
  induction cs generalizing place weight total with
  | nil => simp [readNumber?] at h
  | cons c cs ih =>
    unfold readNumber? at h
    split at h
    · cases h
    · simp only at h
      split at h
      · simp only [Option.some.injEq, Prod.mk.injEq] at h
        simp [h.2]
      · exact Nat.lt_succ_of_lt (ih h)

/-- The state of writing: the number under way, the bias, and how many characters are in place. -/
structure Writing where
  number : Nat
  bias : Nat
  placed : Nat
  output : List Char

/-- Pass over a character while the character `code` is put in place. -/
def Writing.pass (basic code : Nat) (w : Writing) (c : Char) : Writing :=
  if c.toNat < code then { w with number := w.number + 1 }
  else if c.toNat == code then
    { number := 0
      bias := adapt w.number (w.placed + 1) (w.placed == basic)
      placed := w.placed + 1
      output := w.output ++ writeNumber w.bias 36 w.number }
  else w

/-- Put the characters with the given code points in place, in ascending order; `next` is the
smallest code point that is not done. -/
def writeAll (cs : List Char) (basic next : Nat) (w : Writing) : List Nat → List Char
  | [] => w.output
  | code :: codes =>
    let start := { w with number := w.number + (code - next) * (w.placed + 1) }
    let passed := cs.foldl (Writing.pass basic code) start
    writeAll cs basic (code + 1) { passed with number := passed.number + 1 } codes

/-- A text in ASCII. -/
def encode (cs : List Char) : List Char :=
  let basic := cs.filter fun c => c.toNat < 128
  let codes := ((cs.map Char.toNat).filter (128 ≤ ·)).eraseDups.mergeSort
  let ending := writeAll cs basic.length 128 ⟨0, 72, basic.length, []⟩ codes
  if basic.isEmpty then ending else basic ++ '-' :: ending

/-- Put characters in place by the numbers that are left. `index` is the place of the next one at
the earliest, `code` its code point at the least. -/
def readAll (output : List Char) (code index bias : Nat) (isFirst : Bool) (cs : List Char) :
    Option (List Char) :=
  if cs.isEmpty then some output
  else
    match h : readNumber? bias 36 1 0 cs with
    | none => none
    | some (number, rest) =>
      let length := output.length + 1
      let code := code + (index + number) / length
      let index := (index + number) % length
      if Nat.isValidChar code then
        let output := output.take index ++ Char.ofNat code :: output.drop index
        readAll output code (index + 1) (adapt number length isFirst) false rest
      else none
termination_by cs.length
decreasing_by exact length_lt_of_readNumber? h

/-- The text that ASCII characters stand for. -/
def decode? (cs : List Char) : Option (List Char) :=
  let ending := (cs.reverse.takeWhile (· != '-')).reverse
  if cs.contains '-' then
    let basic := cs.take (cs.length - ending.length - 1)
    if basic.isEmpty then none else readAll basic 128 0 72 true ending
  else readAll [] 128 0 72 true ending

end OverlayChain.Unicode.Punycode
