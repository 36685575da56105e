import OverlayChain.Yaml.Cursor

/-!
# Gaps between the words of a scalar

A scalar that goes over several lines is folded: a single line break counts as a blank, more
breaks count one less, and blanks around breaks do not count.

## Main definitions

- `Yaml.Gap`: the blanks and the breaks between two words.
- `Yaml.Gap.text`: what a gap counts as.
- `Yaml.Gap.scan`: the gap at a place.
-/

namespace OverlayChain.Yaml

/-- The blanks and the breaks between two words. -/
structure Gap where
  /-- Blanks, as long as no break was seen. -/
  blanks : List Char
  /-- The first break. -/
  first : List Char
  /-- The breaks after the first. -/
  others : List Char
  /-- Whether the gap goes over the end of a line. -/
  broken : Bool

namespace Gap

/-- No gap. -/
def empty : Gap := ⟨[], [], [], false⟩

/-- A gap that begins with a break that does not count. -/
def joined : Gap := ⟨[], [], [], true⟩

/-- What a gap counts as. -/
def text (gap : Gap) : List Char :=
  if !gap.broken then gap.blanks
  else if gap.first.head? == some '\n' then
    if gap.others.isEmpty then [' '] else gap.others
  else gap.first ++ gap.others

/-- The gap with one more blank. -/
def addBlank (gap : Gap) (c : Char) : Gap :=
  if gap.broken then gap else { gap with blanks := gap.blanks ++ [c] }

/-- The gap with one more break. -/
def addBreak (gap : Gap) (lineBreak : List Char) : Gap :=
  if gap.broken then { gap with others := gap.others ++ lineBreak }
  else ⟨[], lineBreak, [], true⟩

/-- Go on with a gap. A tab in a column below `margin` of a new line is not allowed. -/
def scanFrom (margin : Nat) : Nat → Gap → Cursor → Option (Gap × Cursor)
  | 0, _, _ => none
  | fuel + 1, gap, cur =>
    match cur.rest with
    | [] => some (gap, cur)
    | c :: _ =>
      if isBlank c then
        if gap.broken && c == '\t' && cur.column < margin then none
        else scanFrom margin fuel (gap.addBlank c) (cur.skip 1)
      else
        match cur.takeBreak? with
        | some (lineBreak, next) => scanFrom margin fuel (gap.addBreak lineBreak) next
        | none => some (gap, cur)

/-- The gap at a place, and the place after it. -/
def scan (margin : Nat) (gap : Gap) (cur : Cursor) : Option (Gap × Cursor) :=
  scanFrom margin (cur.rest.length + 1) gap cur

end Gap

end OverlayChain.Yaml
