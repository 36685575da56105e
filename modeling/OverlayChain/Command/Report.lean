import OverlayChain.Error

/-!
# Reports of failed commands

A report says what was tried and then lists the causes, the outermost first. A single cause stands
alone, several are numbered; further lines of a cause are set in below its first one.

## Main definitions

- `Command.causes`: the messages of a failure and of what caused it.
- `Command.report`: the report.
-/

namespace OverlayChain.Command

/-- The messages of a failure and of what caused it. -/
def causes (cause : Error) : List String :=
  match cause with
  | .io reason => [cause.message, reason.message]
  | .malformedOverlay => [cause.message, "the overlay file is not what it should be"]
  | _ => [cause.message]

/-- A text with an opening before its first line and a margin before all others. -/
def setIn (opening margin text : String) : String :=
  opening ++ String.ofList (text.toList.flatMap fun c =>
    if c == '\n' then '\n' :: margin.toList else [c])

/-- Messages with their numbers, from `n` on. -/
def numbered : (n : Nat) → List String → List String
  | _, [] => []
  | n, message :: rest => setIn s!"    {n}: " "       " message :: numbered (n + 1) rest

/-- The report of a failure in an attempt to do something. -/
def report (attempt : String) (cause : Error) : String :=
  let listed := match causes cause with
    | [message] => [setIn "    " "    " message]
    | messages => numbered 0 messages
  let list := String.intercalate "\n" listed
  s!"Error: {attempt}\n\nCaused by:\n{list}\n"

end OverlayChain.Command
