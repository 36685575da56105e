import OverlayChain.Unicode.CombiningClass
import OverlayChain.Unicode.Composition

/-!
# Composed normal form

Texts that look alike are brought into one form: characters are taken apart, marks are put into the
order of their classes, and what can be composed is composed.

## Main definitions

- `Unicode.normalize`: the composed normal form.
-/

namespace OverlayChain.Unicode

/-- No character is composed of composed characters more often than this. -/
def maxNesting : Nat := 4

/-- A code point taken apart. -/
def decompose : (depth : Nat) → Nat → List Nat
  | 0, code => [code]
  | depth + 1, code =>
    match parts? code with
    | some (first, second) => decompose depth first ++ [second]
    | none => [code]

/-- Put a code point before others, but after the marks of a smaller class. -/
def insertMark (code : Nat) : List Nat → List Nat
  | [] => [code]
  | next :: rest =>
    if combiningClass next != 0 && combiningClass next < combiningClass code then
      next :: insertMark code rest
    else code :: next :: rest

/-- Put marks into the order of their classes. -/
def orderMarks (codes : List Nat) : List Nat := codes.foldr insertMark []

/-- Compose a text whose first character is `first`. Marks that could not be composed with it are
kept; the last of them, of class `last`, hides it from marks of the same or a smaller class. -/
def composeFrom (first : Nat) (kept : List Nat) (last : Nat) : List Nat → List Nat
  | [] => first :: kept
  | code :: rest =>
    let touches := kept.isEmpty || last < combiningClass code
    match if touches then composed? first code else none with
    | some whole => composeFrom whole kept last rest
    | none =>
      if combiningClass code == 0 then first :: kept ++ composeFrom code [] 0 rest
      else composeFrom first (kept ++ [code]) (combiningClass code) rest

/-- Compose what can be composed. -/
def compose : List Nat → List Nat
  | [] => []
  | code :: rest => composeFrom code [] 0 rest

/-- The composed normal form of a text. -/
def normalize (cs : List Char) : List Char :=
  let codes := (cs.map Char.toNat).flatMap (decompose maxNesting)
  (compose (orderMarks codes)).map Char.ofNat

end OverlayChain.Unicode
