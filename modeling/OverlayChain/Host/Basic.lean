import OverlayChain.Clone.Git
import OverlayChain.Disk.FileSystem
import OverlayChain.Loader.Basic

/-!
# Hosts

A host is a disk on which the chain works, with a git that follows a script: it says which
commands fail, and which files a checkout of each repository brings. The host keeps the commands
that were run and the records that were logged.

## Main definitions

- `Host.Script`: what git does.
- `Host`: the disk, the script and what happened so far.
- `Host.freshDirectory`, `Host.runGit`: what cloning asks of a host.
- `Host.env`: the environment of a chain on a host.
-/

namespace OverlayChain

/-- What git does on a host. -/
structure Host.Script where
  /-- Why the program cannot be started; `none` if it can. -/
  obstacle : Option OsError
  /-- The subcommands that end early: whether they succeed, and what they report. -/
  endings : List (String × Bool × ByteArray)
  /-- The directory with the files of each known repository, by its URL. -/
  trees : List (String × Path)

/-- A command that was run, with the directory in which it ran. -/
structure Host.Call where
  dir : Path
  args : List String
  deriving DecidableEq

/-- A disk with a scripted git, and what happened on it so far. -/
structure Host where
  disk : Disk
  /-- Where temporary directories are made if nothing else is said. -/
  temporary : Path
  script : Host.Script
  /-- The number of temporary directories that were made. -/
  made : Nat
  /-- The commands that were run. -/
  calls : List Host.Call
  /-- The records that were logged. -/
  journal : List Log.Record
  /-- The paths that were asked for, the last first. -/
  requests : List Path

namespace Host

/-- Ask the disk about a path. -/
def ask {α : Type} (request : Path → Action Disk α) (path : Path) : Action Host α := fun host =>
  let (result, disk) := request path host.disk
  (result, { host with disk := disk, requests := path :: host.requests })

/-- Keep a record. -/
def record (entry : Log.Record) (host : Host) : Host :=
  { host with journal := host.journal ++ [entry] }

/-- The disk of the host as a file system of the chain. -/
def fileSystem : FileSystem Host where
  locate := ask Disk.fileSystem.locate
  read := ask Disk.fileSystem.read
  remove := ask Disk.fileSystem.remove

/-- The end of the name of a temporary directory: at least six digits. -/
def suffix (n : Nat) : String :=
  let digits := toString n
  String.ofList (List.replicate (6 - digits.length) '0') ++ digits

/-- Make a directory whose name has the given opening and the first free one of some endings. -/
def makeNumbered (disk : Disk) (parent : Path) (opening : String) :
    List Nat → Except IoError (Nat × Path × Disk)
  | [] => .error (.os .alreadyExists)
  | n :: rest =>
    let path := parent.join ⟨opening ++ suffix n⟩
    match disk.makeDirectory path with
    | .ok disk => .ok (n, path, disk)
    | .error .alreadyExists => makeNumbered disk parent opening rest
    | .error why => .error (.creating path why)

/-- The directory in which temporary directories are made: the given one or that of the host. A
relative one is taken from the working directory. -/
def temporaryIn (host : Host) (parent : Option Path) : Except IoError Path :=
  let parent := parent.getD host.temporary
  if parent.isAbsolute then .ok parent
  else
    match host.disk.workDir with
    | some dir => .ok (dir.path.join parent)
    | none => .error (.os .noEntry)

/-- Make a directory that has not been there before. -/
def freshDirectory (parent : Option Path) (opening : String) : Action Host Path :=
  Action.transition fun host =>
    let found := do
      let parent ← host.temporaryIn parent
      let candidates := (List.range (host.disk.entries.length + 1)).map (host.made + ·)
      makeNumbered host.disk parent opening candidates
    match found with
    | .ok (n, path, disk) => (.ok path, { host with disk := disk, made := n + 1 })
    | .error cause => (.error (.io cause), host)

/-- The repository that was named as a source last. -/
def lastOrigin? (host : Host) : Option String :=
  host.calls.reverse.findSome? fun call =>
    match call.args with
    | "remote" :: "add" :: "origin" :: url :: _ => some url
    | _ => none

/-- Bring the files of the repository that was named last into a directory. -/
def checkOut (host : Host) (dir : Location) : Host :=
  let source := do host.disk.findDirectory? (← host.script.trees.lookup (← host.lastOrigin?))
  match source with
  | some source => { host with disk := host.disk.copyTree source dir }
  | none => host

/-- Run git as the script says. -/
def runGit (dir : Path) (args : List String) (host : Host) : Git.Outcome × Host :=
  if args.any fun arg => arg.toList.contains '\x00' then (.notStarted .nulInArgument, host)
  else
    match host.disk.find dir, host.script.obstacle with
    | .error why, _ => (.notStarted why, host)
    | .ok _, some why => (.notStarted why, host)
    | .ok place, none =>
      let host := { host with calls := host.calls ++ [⟨place.path, args⟩] }
      let subcommand := args.headD ""
      match host.script.endings.lookup subcommand with
      | some (success, stderr) => (.exited success stderr, host)
      | none =>
        (.exited true ByteArray.empty,
          if subcommand == "reset" then host.checkOut place else host)

/-- What cloning asks of a host, with clones under the given directory or the one for temporary
directories. -/
def git (parent : Option Path) : Git Host where
  freshDirectory := freshDirectory parent
  run := runGit
  log := record

/-- The environment of a chain on a host. -/
def env (fs : FileSystem Host) (cloner : Cloner Host) : Env Host := ⟨fs, cloner, record⟩

/-- The number of bytes in an entry of a disk. -/
def entryBytes : Disk.Entry → Nat
  | .file content => content.size
  | _ => 0

/-- No chain that is resolved on a host holds more loaders. Every remote reference is spelled by
bytes of a file, and every clone has no more directories than the disk had before. -/
def chainBound (host : Host) : Nat :=
  let references := host.disk.entries.foldl (fun n entry => n + entryBytes entry.2) 0
  (references + 1) * (host.disk.entries.length + 1) + references

end Host

end OverlayChain
