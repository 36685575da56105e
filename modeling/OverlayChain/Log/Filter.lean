import OverlayChain.Log.Record
import OverlayChain.Text.Blank
import OverlayChain.Text.Ascii
import OverlayChain.Text.Search

/-!
# Log filters

A filter is written as directives with commas between them: a level, the opening of the name of a
speaker, or both with `=` between them. Of the directives that concern a speaker the one with the
longest name decides. A phrase after `/` keeps only the messages that hold it.

## Main definitions

- `Log.Filter`: directives and a phrase.
- `Log.Filter.parse`: the filter that a text spells, with the complaints about it.
- `Log.Filter.admits`: whether a record passes.
- `Log.Record.line`: a record as it is written out.
-/

namespace OverlayChain.Log

/-- How much of what a speaker says passes. -/
structure Directive where
  /-- The opening of the names of the speakers that it concerns; `none` for all. -/
  scope : Option String
  /-- The most minute level that passes; `none` if nothing does. -/
  limit : Option Level
  deriving DecidableEq

/-- Which records pass. -/
structure Filter where
  /-- In the order of the lengths of their scopes. -/
  directives : List Directive
  /-- A phrase that messages have to hold; empty if there is none. -/
  phrase : String
  deriving DecidableEq

/-- The limit that a word names in any case of its letters; `off` admits nothing. -/
def limit? (word : List Char) : Option (Option Level) :=
  let levels : List (Option Level) :=
    [none, some .error, some .warn, some .info, some .debug, some .trace]
  levels.find? fun limit =>
    Text.sameIgnoringCase word ((limit.map Level.name).getD "OFF").toList

namespace Filter

/-- The directive that a text without commas spells. -/
def directive? (text : List Char) : Except (List Char) Directive :=
  match text.splitOn '=' with
  | [word] =>
    match limit? word with
    | some limit => .ok ⟨none, limit⟩
    | none => .ok ⟨some (String.ofList word), some .trace⟩
  | [scope, level] =>
    let level := Text.dropEnds Text.isWhite level
    if level.isEmpty then .ok ⟨some (String.ofList scope), some .trace⟩
    else
      match limit? level with
      | some limit => .ok ⟨some (String.ofList scope), limit⟩
      | none => .error level
  | _ => .error text

/-- Directives with one more, in the place of an older one for the same scope. -/
def add (directives : List Directive) (new : Directive) : List Directive :=
  if directives.any fun old => old.scope == new.scope then
    directives.map fun old => if old.scope == new.scope then new else old
  else directives ++ [new]

/-- Directives in the order of the lengths of their scopes; without any, only errors pass. -/
def arrange (directives : List Directive) : List Directive :=
  let length (d : Directive) : Nat := (d.scope.map String.utf8ByteSize).getD 0
  if directives.isEmpty then [⟨none, some .error⟩]
  else directives.mergeSort fun a b => length a ≤ length b

/-- The complaint about a part of a filter. -/
def complaint (part : List Char) (more : String) : String :=
  let shown := String.ofList part
  s!"warning: invalid logging spec '{shown}'{more}, ignoring it"

/-- The directives that texts spell, and the complaints about those that spell none. -/
def readDirectives (texts : List (List Char)) : List Directive × List String :=
  texts.foldl (fun (directives, complaints) text =>
    if text.isEmpty then (directives, complaints)
    else
      match directive? text with
      | .ok new => (add directives new, complaints)
      | .error part => (directives, complaints ++ [complaint part ""])) ([], [])

/-- The filter that a text spells, and the complaints about its parts. -/
def parse (text : String) : Filter × List String :=
  match text.toList.splitOn '/' with
  | directives :: phrases =>
    if 1 < phrases.length then
      (⟨arrange [], ""⟩, [complaint text.toList " (too many '/'s)"])
    else
      let texts := (directives.splitOn ',').map (Text.dropEnds Text.isWhite)
      let (read, complaints) := readDirectives texts
      (⟨arrange read, String.ofList (phrases.headD [])⟩, complaints)
  | [] => (⟨arrange [], ""⟩, [])

/-- Whether a record passes. -/
def admits (filter : Filter) (entry : Record) : Bool :=
  let concerns (d : Directive) : Bool :=
    d.scope.all fun scope => scope.toList.isPrefixOf entry.speaker.name.toList
  match filter.directives.reverse.find? concerns with
  | some ⟨_, some limit⟩ =>
    entry.level.rank ≤ limit.rank && Text.occurs filter.phrase.toList entry.message.toList
  | _ => false

end Filter

/-- A record on a line of its own; further lines of the message are set in. -/
def Record.line (entry : Record) : String :=
  let level := entry.level.name ++ String.ofList (List.replicate (5 - entry.level.name.length) ' ')
  let message := String.ofList <| entry.message.toList.flatMap fun c =>
    if c == '\n' then "\n    ".toList else [c]
  s!"[{level} {entry.speaker.name}] {message}\n"

end OverlayChain.Log
