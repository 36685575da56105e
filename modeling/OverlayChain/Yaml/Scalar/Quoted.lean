import OverlayChain.Yaml.Scalar.Gap

/-!
# Quoted scalars

Between single quotes, two quotes stand for one. Between double quotes, a backslash opens an
escape, and a backslash at the end of a line joins it to the next.

## Main definitions

- `Yaml.Quoted.escape?`: the character that an escape stands for.
- `Yaml.Quoted.scan`: the quoted scalar at a place.
-/

namespace OverlayChain.Yaml.Quoted

/-- The characters that a letter after the backslash stands for. -/
def shortEscapes : List (Char × Char) :=
  [('0', '\x00'), ('a', '\x07'), ('b', '\x08'), ('t', '\t'), ('\t', '\t'), ('n', '\n'),
   ('v', '\x0b'), ('f', '\x0c'), ('r', '\r'), ('e', '\x1b'), (' ', ' '), ('"', '"'), ('/', '/'),
   ('\\', '\\'), ('N', '\x85'), ('_', '\xa0'), ('L', '\u2028'), ('P', '\u2029')]

/-- The number of hexadecimal digits after an escape letter. -/
def codeLength? (c : Char) : Option Nat :=
  if c == 'x' then some 2 else if c == 'u' then some 4 else if c == 'U' then some 8 else none

/-- The character with a code point. -/
def charOf? (n : Nat) : Option Char :=
  if h : n.isValidChar then some (Char.ofNatAux n h) else none

/-- The character that the text after a backslash stands for, and how much of it is used. -/
def escape? : List Char → Option (Char × Nat)
  | [] => none
  | c :: rest =>
    match codeLength? c with
    | none => (shortEscapes.lookup c).map fun d => (d, 1)
    | some n =>
      let digits := rest.take n
      if digits.length = n && digits.all (fun d => (Text.hexValue? d).isSome) then
        (charOf? (Text.hexNumber digits)).map fun d => (d, n + 1)
      else none

/-- A run of characters without blanks and breaks between single quotes: what it stands for, and
how long it is. -/
def singleRun : List Char → List Char × Nat
  | '\x27' :: '\x27' :: rest =>
    let run := singleRun rest
    ('\x27' :: run.1, run.2 + 2)
  | c :: rest =>
    if c == '\x27' || isSpace c then ([], 0)
    else
      let run := singleRun rest
      (c :: run.1, run.2 + 1)
  | [] => ([], 0)

/-- A run of characters without blanks and breaks between double quotes: what it stands for, and
how long it is. It stops before a backslash at the end of a line. -/
def doubleRun : Nat → List Char → Option (List Char × Nat)
  | 0, _ => none
  | fuel + 1, cs =>
    match cs with
    | [] => some ([], 0)
    | '\\' :: rest =>
      if rest.head?.any isBreak then some ([], 0)
      else do
        let (c, used) ← escape? rest
        let (text, length) ← doubleRun fuel (rest.drop used)
        return (c :: text, length + used + 1)
    | c :: rest =>
      if c == '"' || isSpace c then some ([], 0)
      else do
        let (text, length) ← doubleRun fuel rest
        return (c :: text, length + 1)

/-- A run between quotes of one kind. -/
def run (quote : Char) (cs : List Char) : Option (List Char × Nat) :=
  if quote == '"' then doubleRun (cs.length + 1) cs else some (singleRun cs)

/-- Go on with a scalar up to its closing quote. -/
def scanFrom (quote : Char) : Nat → Cursor → Option (List Char × Cursor)
  | 0, _ => none
  | fuel + 1, cur =>
    if cur.atDocumentMarker || cur.rest.isEmpty then none
    else do
      let (text, length) ← run quote cur.rest
      let cur := cur.skip length
      let (gap, cur) := if cur.rest.head? == some '\\' then (Gap.joined, (cur.skip 1).afterBreak)
        else (Gap.empty, cur)
      if cur.rest.head? == some quote then return (text, cur.skip 1)
      let (gap, cur) ← Gap.scan 0 gap cur
      let (tail, cur) ← scanFrom quote fuel cur
      return (text ++ gap.text ++ tail, cur)

/-- The scalar between quotes at a place, and the place after it. -/
def scan (quote : Char) (cur : Cursor) : Option (List Char × Cursor) :=
  scanFrom quote (cur.rest.length + 1) (cur.skip 1)

end OverlayChain.Yaml.Quoted
