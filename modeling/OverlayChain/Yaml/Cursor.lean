import OverlayChain.Text.Ascii

/-!
# Positions in a YAML stream

## Main definitions

- `Yaml.characters?`: the characters of a stream, if all of them may stand in one.
- `Yaml.Cursor`: what is left of the stream, with line and column.
- `Yaml.Cursor.takeBreak?`: step over a line break.
-/

namespace OverlayChain.Yaml

/-- A character that may stand in a stream. -/
def isPrintable (c : Char) : Bool :=
  let n := c.toNat
  n == 0x09 || n == 0x0a || n == 0x0d || (0x20 ≤ n && n ≤ 0x7e) || n == 0x85 ||
    (0xa0 ≤ n && n ≤ 0xd7ff) || (0xe000 ≤ n && n ≤ 0xfffd) || 0x10000 ≤ n

/-- The characters of a stream: UTF-8 without control characters. -/
def characters? (bytes : ByteArray) : Option (List Char) :=
  ((String.fromUTF8? bytes).map String.toList).filter fun cs => cs.all isPrintable

/-- A blank or a tab. -/
def isBlank (c : Char) : Bool := c == ' ' || c == '\t'

/-- A line break. -/
def isBreak (c : Char) : Bool :=
  c == '\r' || c == '\n' || c == '\x85' || c == '\u2028' || c == '\u2029'

/-- A blank, a tab or a line break. -/
def isSpace (c : Char) : Bool := isBlank c || isBreak c

/-- The text is at its end, or goes on with a blank, a tab or a line break. -/
def endsWord (cs : List Char) : Bool :=
  match cs with
  | [] => true
  | c :: _ => isSpace c

/-- A letter, a digit, a hyphen or an underscore of ASCII. -/
def isWordChar (c : Char) : Bool := Text.isLetter c || Text.isDigit c || c == '-' || c == '_'

/-- A character of the flow indicators `,[]{}`. -/
def isFlowIndicator (c : Char) : Bool := [',', '[', ']', '\x7b', '\x7d'].contains c

/-- What is left of a stream, and where in the stream that is. -/
structure Cursor where
  rest : List Char
  index : Nat
  line : Nat
  column : Nat

namespace Cursor

/-- The start of a stream. -/
def start (cs : List Char) : Cursor := ⟨cs, 0, 0, 0⟩

/-- The place `n` characters further on the same line. -/
def skip (cur : Cursor) (n : Nat) : Cursor :=
  { cur with rest := cur.rest.drop n, index := cur.index + n, column := cur.column + n }

/-- The place after `n` characters that end a line. -/
def newLine (cur : Cursor) (n : Nat) : Cursor :=
  ⟨cur.rest.drop n, cur.index + n, cur.line + 1, 0⟩

/-- The characters of the class at this place, and the place after them. They are on one line. -/
def span (inClass : Char → Bool) (cur : Cursor) : List Char × Cursor :=
  let run := cur.rest.takeWhile inClass
  (run, cur.skip run.length)

/-- The place after the characters of the class. -/
def skipWhile (inClass : Char → Bool) (cur : Cursor) : Cursor := (cur.span inClass).2

/-- The place after the rest of the line. -/
def skipLine (cur : Cursor) : Cursor := cur.skipWhile fun c => !isBreak c

/-- A line break, as it counts in a scalar, and the place after it. All breaks count as a line
feed, but for the two separators of Unicode. -/
def takeBreak? (cur : Cursor) : Option (List Char × Cursor) :=
  match cur.rest with
  | '\r' :: '\n' :: _ => some (['\n'], cur.newLine 2)
  | c :: _ =>
    if c == '\u2028' || c == '\u2029' then some ([c], cur.newLine 1)
    else if isBreak c then some (['\n'], cur.newLine 1)
    else none
  | [] => none

/-- The place after a line break, or the same place if there is none. -/
def afterBreak (cur : Cursor) : Cursor :=
  match cur.takeBreak? with
  | some (_, next) => next
  | none => cur

/-- The place after blanks and a comment, if the line ends there; the next line then. -/
def endLine? (cur : Cursor) : Option Cursor :=
  let cur := cur.skipWhile isBlank
  let cur := if cur.rest.head? == some '#' then cur.skipLine else cur
  match cur.rest with
  | [] => some cur
  | c :: _ => if isBreak c then some cur.afterBreak else none

/-- Three of a character at the start of a line, and the end of a word after them. -/
def atMarker (c : Char) (cur : Cursor) : Bool :=
  cur.column == 0 && [c, c, c].isPrefixOf cur.rest && endsWord (cur.rest.drop 3)

/-- The place is a line that begins or ends a document. -/
def atDocumentMarker (cur : Cursor) : Bool := cur.atMarker '-' || cur.atMarker '.'

end Cursor

end OverlayChain.Yaml
