import OverlayChain.Text.Search
import OverlayChain.Unicode.CombiningClass
import OverlayChain.Unicode.Direction
import OverlayChain.Unicode.Joining
import OverlayChain.Unicode.Mark
import OverlayChain.Unicode.Normalization
import OverlayChain.Unicode.Punycode
import OverlayChain.Url.DomainMapping

/-!
# Domain names beyond ASCII

A domain name of any script is mapped, normalized and cut into labels. A label that already is in
ASCII form has to be the form of a valid label. Joiners and letters that run from right to left are
admitted only where a reader can tell them apart.

## Main definitions

- `Url.labelOf?`: what a label of a mapped name stands for.
- `Url.joinersFit`, `Url.directionFits`: the rules for joiners and for the direction of labels.
- `Url.asciiForm?`: the ASCII form of a domain name.
-/

namespace OverlayChain.Url

open OverlayChain.Unicode

/-- An ASCII character. -/
def isAscii (c : Char) : Bool := c.toNat < 128

/-- What the ASCII form of a label begins with. -/
def asciiOpening : List Char := ['x', 'n', '-', '-']

/-- The most characters in a label outside ASCII, and in the rest of a label in ASCII form. -/
def maxLabelChars : Nat × Nat := (1000, 2000)

/-- A label that mapping and normalization leave as it is. -/
def isStable (label : List Char) : Bool :=
  label.all (fun c => mapped? c == some [c]) && normalize label == label

/-- What a label of a mapped name stands for. The ASCII form is no way to write a label of ASCII
characters, or one that could not have been written otherwise. -/
def labelOf? (label : List Char) : Option (List Char) :=
  match Text.dropPrefix? asciiOpening label with
  | none => some label
  | some coded =>
    if !coded.all isAscii || maxLabelChars.2 < coded.length then none
    else
      match Punycode.decode? coded with
      | none => none
      | some decoded =>
        let plain := decoded.all isAscii || asciiOpening.isPrefixOf decoded
        if plain || !isStable decoded then none else some decoded

/-- Whether a mark stands at the start of a label. -/
def startsWithMark (label : List Char) : Bool := label.head?.any isMark

/-- Whether a joiner may stand between two texts: after a mark that takes a vowel, and one that
parts letters also between letters that would be joined. The text before is given from its end. -/
def joinerFits (c : Char) (before after : List Char) : Bool :=
  before.head?.any isVirama ||
    (c == '\u200c' && (before.dropWhile passesJoin).head?.any joinsAfter &&
      (after.dropWhile passesJoin).head?.any joinsBefore)

/-- Whether every joiner of a label stands where it may. -/
def joinersFit (before : List Char) : List Char → Bool
  | [] => true
  | c :: after =>
    (!(c == '\u200c' || c == '\u200d') || joinerFits c before after) &&
      joinersFit (c :: before) after

/-- Whether a character makes a text run from right to left somewhere. -/
def runsLeft (c : Char) : Bool :=
  direction c ∈ [.rightToLeft, .arabicLetter, .arabicNumber]

/-- Whether the characters of a label leave no doubt about their order. -/
def directionFits (label : List Char) : Bool :=
  let classes := label.map direction
  let shared : List Direction :=
    [.europeanNumber, .separator, .commonSeparator, .terminator, .neutral, .boundary, .nonspacing]
  let last := (classes.reverse.dropWhile (· == .nonspacing)).head?
  match classes.head? with
  | none => true
  | some .leftToRight =>
    classes.all (fun d => d == .leftToRight || shared.contains d) &&
      last.any fun d => d == .leftToRight || d == .europeanNumber
  | some first =>
    (first == .rightToLeft || first == .arabicLetter) &&
      classes.all (fun d => d ∈ [.rightToLeft, .arabicLetter, .arabicNumber] || shared.contains d) &&
      last.any (fun d => d ∈ [.rightToLeft, .arabicLetter, .europeanNumber, .arabicNumber]) &&
      !(classes.contains .europeanNumber && classes.contains .arabicNumber)

/-- The ASCII form of a label. -/
def codedLabel? (label : List Char) : Option (List Char) :=
  if label.all isAscii then some label
  else if maxLabelChars.1 < label.length then none
  else some (asciiOpening ++ Punycode.encode label)

/-- The ASCII form of a domain name; `isForbidden` says which ASCII characters it may not hold. -/
def asciiForm? (isForbidden : Char → Bool) (name : List Char) : Option (List Char) := do
  let mapped := (← name.mapM mapped?).flatten
  if mapped.any isForbidden then none
  let labels ← ((normalize mapped).splitOn '.').mapM labelOf?
  if labels.any startsWithMark || !labels.all (joinersFit []) then none
  if labels.any (·.any runsLeft) && !labels.all directionFits then none
  return List.intercalate ['.'] (← labels.mapM codedLabel?)

end OverlayChain.Url
