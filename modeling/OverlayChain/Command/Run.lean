import OverlayChain.Command.Arguments
import OverlayChain.Command.Outline
import OverlayChain.Command.Report
import OverlayChain.Host.Basic
import OverlayChain.Log.Filter
import OverlayChain.Overlay.Resolve

/-!
# Running a command

A command opens the first loader of a chain at a root, and either resolves the overlay there and
draws its tree, or reads one file through the loader.

## Main definitions

- `Command.perform`: the task of an invocation, in any environment.
- `Command.Ending`: how a command ends.
- `Command.run`: a command line on a host.
-/

namespace OverlayChain.Command

/-- Why a task failed. -/
inductive Failure where
  /-- Something that was tried failed. -/
  | failed (attempt : String) (cause : Error)
  /-- The chain grew beyond its bound. -/
  | exhausted

variable {σ : Type}

/-- The drawing of a resolved overlay, under a title. -/
def drawing (root : Directory) (depth : Option Nat) (tree : Overlay.Tree) : String :=
  s!"🌳 Overlay tree for: {root}\n" ++ (Outline.ofTree depth tree).text

/-- Do a task with the first loader of a chain. -/
def performWith (env : Env σ) (bound : Nat) (loader : Loader) (task : Task) (s : σ) :
    Except Failure ByteArray × σ :=
  match task with
  | .tree depth =>
    match Overlay.resolve env bound loader s with
    | none => (.error .exhausted, s)
    | some (.ok tree, s) => (.ok (drawing loader.root depth tree).toUTF8, s)
    | some (.error cause, s) =>
      (.error (.failed s!"Failed to resolve overlay at {loader.root}" cause), s)
  | .load file =>
    let (result, s) := loader.load env file s
    (result.mapError (.failed s!"Failed to load {file}"), s)

/-- Do what an invocation asks for; the answer is what it puts out. -/
def perform (env : Env σ) (chainBound : σ → Nat) (invocation : Invocation) (s : σ) :
    Except Failure ByteArray × σ :=
  let validator := Validator.ofStrictness invocation.strict
  let root := invocation.root
  match Loader.origin env validator invocation.policy root s with
  | (.error cause, s) => (.error (.failed s!"Failed to open overlay root {root}" cause), s)
  | (.ok loader, s) => performWith env (chainBound s) loader invocation.task s

/-- How a command ends. -/
inductive Ending where
  /-- It did what was asked for. -/
  | done (output : ByteArray)
  | failed (failure : Failure)
  | refused (refusal : Refusal)

/-- How a command ends, with the log of its work. -/
structure Outcome where
  ending : Ending
  log : String

namespace Outcome

/-- The name and the version of the command. -/
def versionLine : String := "overlay-loader 0.1.0\n"

/-- How the command is used. -/
def usage : String :=
  "Usage: overlay-loader [--log-level LEVEL] tree [OPTIONS] [--depth NUM]\n" ++
  "       overlay-loader [--log-level LEVEL] load [OPTIONS] FILE\n" ++
  "Options: [--root DIR] [--load-restrictor POLICY] [--strict]\n"

/-- The exit code: zero if all went well, one for a failure, two for words that are no command. -/
def exitCode (outcome : Outcome) : Nat :=
  match outcome.ending with
  | .done _ | .refused .help | .refused .version => 0
  | .failed _ => 1
  | .refused _ => 2

/-- What a command puts out. -/
def output (outcome : Outcome) : ByteArray :=
  match outcome.ending with
  | .done output => output
  | .refused .help => usage.toUTF8
  | .refused .version => versionLine.toUTF8
  | _ => ByteArray.empty

/-- What a command reports: the log of its work, and why it failed. -/
def errorOutput (outcome : Outcome) : String :=
  outcome.log ++
    match outcome.ending with
    | .failed (.failed attempt cause) => report attempt cause
    | .refused (.invalid cause) => cause.message
    | _ => ""

end Outcome

/-- The log that a filter lets through, after the complaints about the filter. -/
def logText (logging : String) (journal : List Log.Record) : String :=
  let (filter, complaints) := Log.Filter.parse logging
  String.join (complaints.map (· ++ "\n") ++ (journal.filter filter.admits).map Log.Record.line)

/-- Run a command line on a host. -/
def run (settings : Variables) (words : List String) (host : Host) : Outcome × Host :=
  match read settings words with
  | .error refusal => (⟨.refused refusal, ""⟩, host)
  | .ok invocation =>
    let env := Host.env Host.fileSystem (Cloner.git (Host.git none))
    let (result, host) := perform env Host.chainBound invocation { host with journal := [] }
    let ending := match result with
      | .ok output => .done output
      | .error failure => .failed failure
    (⟨ending, logText invocation.logging host.journal⟩, host)

end OverlayChain.Command
