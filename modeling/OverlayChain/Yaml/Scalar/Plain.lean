import OverlayChain.Yaml.Scalar.Gap

/-!
# Plain scalars

A plain scalar goes on until a colon that ends a word, a comment, a line that is indented too
little, or, in a flow collection, one of its indicators.

## Main definitions

- `Yaml.Plain`: a plain scalar and where it ends.
- `Yaml.Plain.scan`: the plain scalar at a place.
-/

namespace OverlayChain.Yaml

/-- A plain scalar and where it ends. -/
structure Plain where
  text : List Char
  next : Cursor
  /-- Whether a line ended after the last word. -/
  broken : Bool

namespace Plain

/-- The longest run of characters that belong to one word. A colon before a flow indicator is
not allowed in a flow collection. -/
def word? (inFlow : Bool) : List Char → Option (List Char)
  | [] => some []
  | c :: rest =>
    if isSpace c then some []
    else if inFlow && c == ':' && (rest.head?.any fun d => isFlowIndicator d || d == '?') then none
    else if (c == ':' && endsWord rest) || (inFlow && isFlowIndicator c) then some []
    else (word? inFlow rest).map (c :: ·)

/-- Go on with a scalar after a gap. -/
def scanFrom (inFlow : Bool) (margin : Nat) : Nat → Gap → Cursor → Option Plain
  | 0, _, _ => none
  | fuel + 1, gap, cur =>
    if cur.atDocumentMarker || cur.rest.head? == some '#' then some ⟨[], cur, gap.broken⟩
    else
      match word? inFlow cur.rest with
      | none => none
      | some [] => some ⟨[], cur, gap.broken⟩
      | some word =>
        match Gap.scan margin .empty (cur.skip word.length) with
        | none => none
        | some (after, next) =>
          if !inFlow && next.column < margin then some ⟨gap.text ++ word, next, after.broken⟩
          else
            (scanFrom inFlow margin fuel after next).map fun tail =>
              { tail with text := gap.text ++ word ++ tail.text }

/-- The plain scalar at a place. Its lines have to reach the column `margin`. -/
def scan (inFlow : Bool) (margin : Nat) (cur : Cursor) : Option Plain :=
  scanFrom inFlow margin (cur.rest.length + 1) .empty cur

end Plain

end OverlayChain.Yaml
