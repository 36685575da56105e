import OverlayChain.Disk.Walk

/-!
# Changes to a disk

Entries are made and removed by their name in the directory that holds them. A path is taken
apart for that: the steps to the directory, and the last part.

## Main definitions

- `Disk.Slot`: the last part of a path, in its directory.
- `Disk.unlink`, `Disk.removeDirectory`, `Disk.removeAll`: removal.
- `Disk.makeDirectory`, `Disk.makeDirectories`, `Disk.write`, `Disk.symlink`: creation.
- `Disk.enter`: change the working directory.
- `Disk.copyTree`: copy what is below a directory.
-/

namespace OverlayChain.Disk

/-- The last part of a path. -/
structure Slot where
  /-- The directory that holds it. -/
  dir : Location
  last : Component
  /-- Whether separators follow it. -/
  slashed : Bool

/-- Take a path apart: the parts before the last, the last, and whether separators follow. The last
part of a path of separators alone is the root. -/
def takeApart (path : Path) : List (List UInt8) × Component × Bool :=
  let all := parts path.bytes
  match all.reverse.dropWhile List.isEmpty with
  | [] => ([], .root, true)
  | last :: above => (above.reverse, stepOf last, above.length + 1 < all.length)

/-- The last part of a path, in the directory to which the parts before it lead. -/
def slot (disk : Disk) (path : Path) : Except OsError Slot := do
  let start ← disk.start path
  let (above, last, slashed) := takeApart path
  let dir ← (← disk.walk true maxLinks start (stepsOf above)).entry
  if disk.isDirectory dir then .ok ⟨dir, last, slashed⟩ else .error .notADirectory

/-- The place that a name has in a directory; overlong names have none. -/
def placeOf (dir : Location) (name : Name) : Except OsError Location :=
  if maxNameBytes < name.bytes.length then .error .nameTooLong else .ok (dir ++ [name])

/-- Remove a file or a link. -/
def unlink (disk : Disk) (path : Path) : Except OsError Disk := do
  let slot ← disk.slot path
  match slot.last with
  | .named name =>
    let place ← placeOf slot.dir name
    match disk.entry? place with
    | none => .error .noEntry
    | some .directory => .error .isADirectory
    | some _ =>
      if slot.slashed then .error .notADirectory else .ok (disk.without fun old => old == place)
  | _ => .error .isADirectory

/-- Remove a directory that holds nothing. -/
def removeDirectory (disk : Disk) (path : Path) : Except OsError Disk := do
  let slot ← disk.slot path
  match slot.last with
  | .named name =>
    let place ← placeOf slot.dir name
    match disk.entry? place with
    | none => .error .noEntry
    | some .directory =>
      if disk.entries.any fun old => isBelow old.1 place then .error .notEmpty
      else .ok (disk.without fun old => old == place)
    | some _ => .error .notADirectory
  | .here => .error .invalidArgument
  | .up => .error .notEmpty
  | .root => .error .busy

/-- Remove a directory and all below it, but of a link only the link. What was below is gone even
if the directory itself cannot be removed. -/
def removeTree (disk : Disk) (path : Path) : Except OsError Unit × Disk :=
  match (do (← disk.reach false path).entry) with
  | .error why => (.error why, disk)
  | .ok place =>
    if disk.isDirectory place then
      let cleared := disk.without fun old => isBelow old place
      match cleared.removeDirectory path with
      | .ok removed => (.ok (), removed)
      | .error why => (.error why, cleared)
    else
      match disk.unlink path with
      | .ok removed => (.ok (), removed)
      | .error why => (.error why, disk)

/-- Remove whatever a path names. A path without an entry is fine. -/
def removeAll (disk : Disk) (path : Path) : Except OsError Unit × Disk :=
  let (result, after) :=
    if (disk.findDirectory? path).isSome then disk.removeTree path
    else
      match disk.unlink path with
      | .ok removed => (.ok (), removed)
      | .error why => (.error why, disk)
  match result with
  | .error .noEntry => (.ok (), after)
  | result => (result, after)

/-- Make a directory where there is no entry. -/
def makeDirectory (disk : Disk) (path : Path) : Except OsError Disk := do
  let slot ← disk.slot path
  match slot.last with
  | .named name =>
    let place ← placeOf slot.dir name
    match disk.entry? place with
    | none => .ok (disk.put place .directory)
    | some _ => .error .alreadyExists
  | _ => .error .alreadyExists

/-- The path that parts spell. -/
def pathOf (parts : List (List UInt8)) : Path :=
  if parts = [[]] then .root else ⟨[slash].intercalate parts⟩

/-- The paths to which the openings of a list of parts lead, the longest first. -/
def openings (parts : List (List UInt8)) : List Path :=
  ((List.range parts.length).map fun n => pathOf (parts.take (n + 1))).reverse

/-- Make a directory unless it is there already. -/
def ensureDirectory (disk : Disk) (path : Path) : Except OsError Disk :=
  match disk.makeDirectory path with
  | .ok made => .ok made
  | .error why => if (disk.findDirectory? path).isSome then .ok disk else .error why

/-- Make the first of some directories, each of which is to hold the one before it. Those further
on are made only if they are missing. -/
def makeDirectories (disk : Disk) : List Path → Except OsError Disk
  | [] => .ok disk
  | path :: above =>
    match disk.makeDirectory path with
    | .error .noEntry => do (← disk.makeDirectories above).ensureDirectory path
    | _ => disk.ensureDirectory path

/-- Make the directories that are missing on the way to a path. -/
def makeWay (disk : Disk) (path : Path) : Except OsError Disk :=
  disk.makeDirectories (openings (takeApart path).1)

/-- Write a file, and make the missing directories on the way. A link is followed. -/
def write (disk : Disk) (path : Path) (content : ByteArray) : Except OsError Disk := do
  let disk ← disk.makeWay path
  if (← disk.slot path).slashed then throw .isADirectory
  match ← disk.reach true path with
  | .present place =>
    if disk.isDirectory place then .error .isADirectory else .ok (disk.put place (.file content))
  | .vacant place => .ok (disk.put place (.file content))

/-- Make a link, and the missing directories on the way. -/
def symlink (disk : Disk) (path : Path) (target : List UInt8) : Except OsError Disk := do
  let disk ← disk.makeWay path
  checkPath ⟨target⟩
  let slot ← disk.slot path
  match slot.last with
  | .named name =>
    let place ← placeOf slot.dir name
    match disk.entry? place with
    | some _ => .error .alreadyExists
    | none => if slot.slashed then .error .noEntry else .ok (disk.put place (.link target))
  | _ => .error .alreadyExists

/-- Make a directory the working directory. -/
def enter (disk : Disk) (path : Path) : Except OsError Disk := do
  let dir ← disk.find path
  if disk.isDirectory dir then return { disk with workDir := some dir } else throw .notADirectory

/-- The entries below a directory, by their place in it. -/
def below (disk : Disk) (top : Location) : List (Location × Entry) :=
  (disk.entries.filter fun old => isBelow old.1 top).map fun old =>
    (old.1.drop top.length, old.2)

/-- Copy what is below one directory into another one. -/
def copyTree (disk : Disk) (source target : Location) : Disk :=
  (disk.below source).foldl (fun disk entry => disk.put (target ++ entry.1) entry.2) disk

end OverlayChain.Disk
