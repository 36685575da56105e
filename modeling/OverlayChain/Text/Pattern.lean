/-!
# Patterns of characters

A pattern is put together from characters of a class. It is matched against a whole text, from the
left: a part that may be left out or repeated is first taken, and only then left out.

## Main definitions

- `Text.Pattern`: a character of a class, a sequence, an option, a bounded repetition.
- `Text.Pattern.matchesThen`: a pattern at the start of a text, with a test for what follows.
- `Text.Pattern.covers`: a pattern and the whole of a text.
-/

namespace OverlayChain.Text

/-- A pattern of characters. -/
inductive Pattern where
  /-- One character of a class. -/
  | one (inClass : Char → Bool)
  /-- A pattern, and another one behind it. -/
  | andThen (first second : Pattern)
  /-- A pattern, or nothing. -/
  | optional (body : Pattern)
  /-- A pattern again and again, so many times at most. -/
  | atMost (count : Nat) (body : Pattern)

namespace Pattern

/-- Take a turn at most `count` times, and go on with what follows. -/
def repeatThen (turn : (List Char → Bool) → List Char → Bool) :
    (count : Nat) → (next : List Char → Bool) → List Char → Bool
  | 0, next, cs => next cs
  | count + 1, next, cs => turn (repeatThen turn count next) cs || next cs

/-- Whether the text begins with the pattern so that the rest passes the test. -/
def matchesThen : Pattern → (next : List Char → Bool) → List Char → Bool
  | one _, _, [] => false
  | one inClass, next, c :: rest => inClass c && next rest
  | andThen first second, next, cs => first.matchesThen (second.matchesThen next) cs
  | optional body, next, cs => body.matchesThen next cs || next cs
  | atMost count body, next, cs => repeatThen body.matchesThen count next cs

/-- Whether the pattern covers the text from its start to its end. -/
def covers (pattern : Pattern) (cs : List Char) : Bool := pattern.matchesThen List.isEmpty cs

end Pattern

end OverlayChain.Text
