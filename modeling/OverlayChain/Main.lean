import OverlayChain.Command.Run

/-!
# The command line

The command works on a picture of the disk. The picture is drawn as far as the command looks: the
command is run on what is known, then what it asked for is added, and so on until it asks for
nothing new. It only reads, so it can be run as often as needed.

No other program is started: a remote base fails as it does where git is missing.

## Main definitions

- `Picture.look`: add what is at a path to a picture.
- `Picture.run`: run the command until the picture holds all that it asks for.
-/

namespace OverlayChain.Picture

/-- The links-free form of a path, if there is something at it. -/
def real? (path : String) : IO (Option String) := do
  try return some (← IO.FS.realPath path).toString catch _ => return none

/-- What is at a path without links. -/
def entryAt (path : String) : IO Disk.Entry := do
  if (← real? (path ++ "/.")).isSome then return .directory
  else
    try return .file (← IO.FS.readBinFile path) catch _ => return .file ByteArray.empty

/-- Add all places on the way to a place that no link leads to. -/
def addPlain (disk : Disk) (place : Location) : IO Disk :=
  (List.range place.length).foldlM (fun disk n => do
    let above := place.take (n + 1)
    if (disk.entry? above).isSome then return disk
    else return disk.put above (← entryAt (Location.path above).text)) disk

/-- Follow steps from a place, and add what is there. -/
def follow (disk : Disk) (place : Location) : List Component → IO Disk
  | [] => return disk
  | .root :: rest => follow disk [] rest
  | .here :: rest => follow disk place rest
  | .up :: rest => follow disk place.dropLast rest
  | .named name :: rest => do
    let next := place ++ [name]
    match ← real? (Location.path next).text with
    | none => return disk
    | some real =>
      let target := Location.walk [] ⟨real⟩
      let disk ← addPlain disk target
      if target == next then follow disk next rest
      else follow (disk.put next (.link real)) target rest

/-- Add what is at a path, both as it is written and in its shortest spelling. -/
def look (disk : Disk) (path : Path) : IO Disk := do
  let start := disk.workDir.getD []
  let disk ← follow disk start (Disk.stepsOf (Disk.parts path.bytes))
  match disk.nominal path with
  | .ok place => follow disk [] (place.map .named)
  | .error _ => return disk

/-- Run the command until the picture holds all that it asks for. -/
partial def run (settings : Command.Variables) (words : List String) (known : List Path)
    (host : Host) : IO Command.Outcome := do
  let (outcome, after) := Command.run settings words host
  let news := after.requests.filter fun path => !known.contains path
  if news.isEmpty then return outcome
  else
    let disk ← news.foldlM look host.disk
    run settings words (news ++ known) { host with disk := disk }

/-- The host before anything is known of it but the working directory. -/
def start : IO Host := do
  let here := Location.walk [] ⟨(← IO.currentDir).toString⟩
  let temporary : Path := ⟨(← IO.getEnv "TMPDIR").getD "/tmp"⟩
  let disk ← look { ← addPlain Disk.empty here with workDir := some here } temporary
  return ⟨disk, temporary, ⟨some .noEntry, [], []⟩, 0, [], [], []⟩

end OverlayChain.Picture

open OverlayChain in
/-- Run the command on the words of the command line. -/
def main (words : List String) : IO UInt32 := do
  let settings : Command.Variables :=
    ⟨← IO.getEnv Command.policyVariable, ← IO.getEnv Command.loggingVariable⟩
  let outcome ← Picture.run settings words [] (← Picture.start)
  let output ← IO.getStdout
  output.write outcome.output
  output.flush
  IO.eprint outcome.errorOutput
  return outcome.exitCode.toUInt32
