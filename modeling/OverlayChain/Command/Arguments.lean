import OverlayChain.ReadPolicy

/-!
# The words of a command line

A command line names a task and its options. Words are read from left to right. The value of an
option is looked at only when the next known word or the end is reached, so of two faults an
unknown word right after a value is the one that counts.

## Main definitions

- `Command.Task`, `Command.Invocation`: what is asked for.
- `Command.Refusal`: why nothing is done.
- `Command.read`: the invocation that words spell.
-/

namespace OverlayChain.Command

/-- The kind of a task. -/
inductive Verb where
  | tree
  | load
  deriving DecidableEq

/-- What is asked for. -/
inductive Task where
  /-- Show the tree of overlays, down to a depth. -/
  | tree (depth : Option Nat)
  /-- Show a file. -/
  | load (file : Path)
  deriving DecidableEq

/-- A task with what holds for both kinds. -/
structure Invocation where
  task : Task
  /-- The root of the first loader. -/
  root : Path
  policy : ReadPolicy
  /-- Whether names and labels are held against the strict rules. -/
  strict : Bool
  /-- The filter of the log. -/
  logging : String
  deriving DecidableEq

/-- Why nothing is done. -/
inductive Refusal where
  /-- The words are no command. -/
  | misuse
  /-- The value of an option is refused. -/
  | invalid (cause : Error)
  /-- Help was asked for. -/
  | help
  /-- The version was asked for. -/
  | version
  deriving DecidableEq

/-- The words that take a value. -/
inductive Field where
  | root
  | policy
  | depth
  | logging
  | file
  deriving DecidableEq

/-- What has been read so far. -/
structure Draft where
  root : Option Path
  policy : Option ReadPolicy
  depth : Option Nat
  logging : Option String
  file : Option Path
  strict : Bool
  /-- A value that has not been looked at. -/
  pending : Option (Field × String)

namespace Draft

/-- Nothing has been read. -/
def blank : Draft := ⟨none, none, none, none, none, false, none⟩

/-- A path that is not empty. -/
def pathOf (text : String) : Except Refusal Path :=
  if text.isEmpty then .error .misuse else .ok ⟨text⟩

/-- A policy by its name. -/
def policyOf (text : String) : Except Refusal ReadPolicy :=
  (ReadPolicy.parse text).mapError .invalid

/-- The greatest depth that can be asked for: all 64 bits. -/
def maxDepth : Nat := 18446744073709551615

/-- A decimal number that is not too great; a plus sign may stand before it. -/
def depthOf (text : String) : Except Refusal Nat :=
  let digits := if text.toList.head? == some '+' then text.toList.tail else text.toList
  let value := digits.foldl (fun n c => 10 * n + (c.toNat - '0'.toNat)) 0
  if digits.isEmpty || !digits.all Char.isDigit || maxDepth < value then .error .misuse
  else .ok value

/-- Take the value of a word. Every word may have one value only. -/
def take (draft : Draft) (field : Field) (text : String) : Except Refusal Draft :=
  match field with
  | .root => do
    if draft.root.isSome then throw .misuse
    return { draft with root := some (← pathOf text) }
  | .policy => do
    if draft.policy.isSome then throw .misuse
    return { draft with policy := some (← policyOf text) }
  | .depth => do
    if draft.depth.isSome then throw .misuse
    return { draft with depth := some (← depthOf text) }
  | .logging => do
    if draft.logging.isSome then throw .misuse
    return { draft with logging := some text }
  | .file => do
    if draft.file.isSome then throw .misuse
    return { draft with file := some (← pathOf text) }

/-- Look at the value that is pending. -/
def settle (draft : Draft) : Except Refusal Draft :=
  match draft.pending with
  | some (field, text) => { draft with pending := none }.take field text
  | none => .ok draft

/-- Leave a value pending, after the one before it has been looked at. -/
def postpone (draft : Draft) (field : Field) (text : String) : Except Refusal Draft := do
  return { ← draft.settle with pending := some (field, text) }

end Draft

/-- What a word is. -/
inductive Word where
  /-- Two hyphens: all words after it are values. -/
  | divider
  /-- Two hyphens and a name, perhaps with a value after an equals sign. -/
  | long (name : String) (value : Option String)
  /-- A hyphen and letters. -/
  | short (letters : List Char)
  | plain (text : String)

/-- What a word is. -/
def wordOf (text : String) : Word :=
  match text.toList with
  | ['-', '-'] => .divider
  | '-' :: '-' :: name =>
    match name.span (· != '=') with
    | (name, _ :: value) => .long (String.ofList name) (some (String.ofList value))
    | (name, []) => .long (String.ofList name) none
  | ['-'] => .plain text
  | '-' :: letters => .short letters
  | _ => .plain text

/-- What a name after two hyphens stands for. -/
inductive Meaning where
  | value (field : Field)
  | strict
  | help
  | version

/-- What a name stands for; `verb` is the task that was named before, if any. -/
def meaning? (verb : Option Verb) (name : String) : Option Meaning :=
  match verb, name with
  | _, "help" => some .help
  | _, "log-level" => some (.value .logging)
  | none, "version" => some .version
  | none, _ => none
  | some _, "root" => some (.value .root)
  | some _, "load-restrictor" => some (.value .policy)
  | some _, "strict" => some .strict
  | some .tree, "depth" => some (.value .depth)
  | some _, _ => none

/-- Take a word that stands for itself. -/
def takeFlag (draft : Draft) : Meaning → Except Refusal Draft
  | .help => do let _ ← draft.settle; throw .help
  | .version => do let _ ← draft.settle; throw .version
  | _ => do
    let draft ← draft.settle
    if draft.strict then throw .misuse else return { draft with strict := true }

/-- Take letters after a single hyphen. The first one decides. -/
def takeLetters (verb : Option Verb) (draft : Draft) (letters : List Char) :
    Except Refusal Draft :=
  match verb, letters.head? with
  | _, some 'h' => takeFlag draft .help
  | none, some 'V' => takeFlag draft .version
  | _, _ => throw .misuse

/-- Take a word that is no option. -/
def takePlain (verb : Verb) (draft : Draft) (text : String) : Except Refusal Draft :=
  let taken := draft.file.isSome || draft.pending.any fun pending => pending.1 == .file
  if verb == .load && !taken then draft.postpone .file text else throw .misuse

/-- Read the words after the name of a task. -/
def readOptions (verb : Verb) (draft : Draft) : List String → Except Refusal Draft
  | [] => draft.settle
  | text :: rest =>
    match wordOf text with
    | .divider => do (← rest.foldlM (takePlain verb) draft).settle
    | .short letters => do readOptions verb (← takeLetters (some verb) draft letters) rest
    | .plain text => do readOptions verb (← takePlain verb draft text) rest
    | .long name value =>
      match meaning? (some verb) name, value with
      | none, _ => throw .misuse
      | some (.value field), some value => do
        readOptions verb (← (← draft.settle).take field value) rest
      | some (.value field), none => do
        let draft ← draft.settle
        match rest with
        | [] => throw .misuse
        | next :: rest =>
          match wordOf next with
          | .plain value => readOptions verb (← draft.postpone field value) rest
          | _ => throw .misuse
      | some _, some _ => throw .misuse
      | some flag, none => do readOptions verb (← takeFlag draft flag) rest

/-- The task with a name. -/
def verb? (name : String) : Option Verb :=
  match name with
  | "tree" => some .tree
  | "load" => some .load
  | _ => none

/-- The outcome of asking for help on some subject. -/
def helpOn : List String → Refusal
  | [] => .help
  | [subject] => if subject == "help" || (verb? subject).isSome then .help else .misuse
  | _ => .misuse

/-- Read the words before the name of a task; the answer is the task, the filter of the log if one
was given, and the words after the name. -/
def readTask (draft : Draft) : List String →
    Except Refusal (Verb × Option String × List String)
  | [] => do let _ ← draft.settle; throw .misuse
  | text :: rest =>
    match wordOf text with
    | .divider => throw .misuse
    | .short letters => do readTask (← takeLetters none draft letters) rest
    | .plain text =>
      if text == "help" then throw (helpOn rest)
      else
        match verb? text with
        | some verb => do
          let draft ← draft.settle
          return (verb, draft.logging, rest)
        | none => throw .misuse
    | .long name value =>
      match meaning? none name, value with
      | none, _ => throw .misuse
      | some (.value field), some value => do
        readTask (← (← draft.settle).take field value) rest
      | some (.value field), none => do
        let draft ← draft.settle
        match rest with
        | [] => throw .misuse
        | next :: rest =>
          match wordOf next with
          | .plain value => readTask (← draft.postpone field value) rest
          | _ => throw .misuse
      | some _, some _ => throw .misuse
      | some flag, none => do readTask (← takeFlag draft flag) rest

/-- The variables of the environment that a command looks at. -/
structure Variables where
  /-- The read policy, if the command line gives none. -/
  policy : Option String
  /-- The filter of the log, in the stead of the command line's. -/
  logging : Option String

/-- The variable for the read policy. -/
def policyVariable : String := "OVERLAY_LOAD_RESTRICTOR"

/-- The variable for the filter of the log. -/
def loggingVariable : String := "RUST_LOG"

/-- The policy of a draft: the one on the command line, else that of the environment. -/
def choosePolicy (settings : Variables) (draft : Draft) : Except Refusal ReadPolicy :=
  match draft.policy, settings.policy with
  | some policy, _ => .ok policy
  | none, some name => Draft.policyOf name
  | none, none => .ok .standard

/-- The invocation that words spell. -/
def read (settings : Variables) (words : List String) : Except Refusal Invocation := do
  let (verb, outer, rest) ← readTask .blank words
  let draft ← readOptions verb .blank rest
  let policy ← choosePolicy settings draft
  let task ← match verb, draft.file with
    | .tree, _ => pure (Task.tree draft.depth)
    | .load, some file => pure (Task.load file)
    | .load, none => throw .misuse
  let logging := settings.logging.getD ((draft.logging.orElse fun _ => outer).getD "warn")
  return ⟨task, draft.root.getD ⟨"."⟩, policy, draft.strict, logging⟩

end OverlayChain.Command
