import OverlayChain.Clone.Basic
import OverlayChain.Log.Record
import OverlayChain.Text.Utf8
import OverlayChain.Unicode.Alphanumeric

/-!
# Cloning with git

A fresh directory, and five commands in it: make a repository, name its source, fetch one
revision, check it out, bring its submodules. The first command that fails ends the attempt; the
directory of a failed attempt is removed.

## Main definitions

- `Git`: the host that makes fresh directories and runs the commands.
- `Git.steps`: the five commands.
- `Git.obtain`: the attempt.
- `Cloner.git`: the cloner.
-/

namespace OverlayChain

/-- How a command ended. -/
inductive Git.Outcome where
  /-- The program could not be started. -/
  | notStarted (reason : OsError)
  /-- The program ran. -/
  | exited (success : Bool) (stderr : ByteArray)

/-- A host on which git runs. -/
structure Git (σ : Type) where
  /-- Make a fresh directory whose name begins with the given text. -/
  freshDirectory : String → Action σ Path
  /-- Run a command in a directory. -/
  run : (dir : Path) → (args : List String) → σ → Git.Outcome × σ
  /-- Take note of a record. -/
  log : Log.Record → σ → σ

namespace Git

variable {σ : Type}

/-- A repository as part of a file name: separators become hyphens, and what is neither a letter
nor a digit nor one of `.`, `-`, `_` becomes an underscore. -/
def fileNameOf (text : String) : String :=
  String.ofList <| text.toList.map fun c =>
    if c == '/' || c == '\\' then '-'
    else if Unicode.isAlphanumeric c || c == '.' || c == '-' || c == '_' then c
    else '_'

/-- What the names of all clone directories begin with. -/
def directoryOpening : String := "overlay-loader-"

/-- The commands that fetch a reference. -/
def steps (ref : RemoteRef) : List (List String) :=
  [["init", "--quiet"],
   ["remote", "add", "origin", ref.cloneUrl],
   ["fetch", "--quiet", "--depth=1", "origin", ref.refOrHead],
   ["reset", "--quiet", "--hard", "FETCH_HEAD"],
   ["submodule", "update", "--init", "--recursive", "--depth=1"]]

/-- Reports of git that say that access was denied. -/
def denials : List String :=
  ["Authentication failed", "Permission denied", "Could not read from remote repository"]

/-- The error of a command that ended in some way; `none` if it succeeded. -/
def failure? (ref : RemoteRef) (command : String) : Outcome → Option Error
  | .notStarted reason =>
    some (.cloneFailed ref.cloneUrl ref.refOrHead reason.message
      (some "Make sure git is installed and on PATH"))
  | .exited true _ => none
  | .exited false stderr =>
    let report := Text.decodeLossy stderr
    if denials.any fun denial => Text.occurs denial.toList report.toList then
      some (.cloneFailed ref.cloneUrl ref.refOrHead report
        (some ("For private repos, ensure an SSH key is loaded in ssh-agent, " ++
          "git credentials are configured, or a personal access token is set up")))
    else some (.gitFailed command ref.cloneUrl report)

/-- Run one command in a directory. -/
def runStep (git : Git σ) (ref : RemoteRef) (dir : Path) (args : List String) : Action σ Unit := do
  let command := String.intercalate " " args
  Action.update (git.log ⟨.debug, .git, s!"git {command} (in {dir})"⟩)
  let outcome ← Action.transition fun s => let (outcome, s) := git.run dir args s; (.ok outcome, s)
  match failure? ref command outcome with
  | none => pure ()
  | some error => throw error

/-- Run commands one after the other, up to the first that fails. -/
def runSteps (git : Git σ) (ref : RemoteRef) (dir : Path) : List (List String) → Action σ Unit
  | [] => pure ()
  | args :: rest => do
    git.runStep ref dir args
    git.runSteps ref dir rest

/-- Fetch a reference into a fresh directory, and find that directory. After a failure the directory is
removed; the failure comes before one to remove it. -/
def obtain (git : Git σ) (fs : FileSystem σ) (ref : RemoteRef) : Action σ Directory := do
  let opening := directoryOpening ++ fileNameOf ref.repository ++ "-"
  let dir ← git.freshDirectory opening
  Action.update (git.log ⟨.debug, .git, s!"cloning '{ref.cloneUrl}' into {dir}"⟩)
  let fetched ← Action.attempt do
    git.runSteps ref dir (steps ref)
    fs.locateDirectory dir
  match fetched with
  | .ok confirmed => return confirmed
  | .error error =>
    match ← Action.attempt (fs.remove dir) with
    | .ok _ => throw error
    | .error removal =>
      Action.update (git.log ⟨.warn, .git, s!"failed to remove {dir}: {removal.message}"⟩)
      throw error

end Git

/-- The cloner that fetches with git into a fresh directory. -/
def Cloner.git {σ : Type} (git : Git σ) : Cloner σ := recording git.obtain

end OverlayChain
