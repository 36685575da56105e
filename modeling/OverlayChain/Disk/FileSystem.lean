import OverlayChain.Disk.Change

/-!
# A disk as a file system of the chain

A path is first brought into its shortest spelling, by its text alone, and then looked up. What is
found is reported by its own place, with all links crossed, but a file name only by the text that
shows it.

## Main definitions

- `Disk.locate`, `Disk.read`: the two requests that change nothing.
- `Disk.fileSystem`: the file system.
-/

namespace OverlayChain.Disk

/-- The place that a path names by its text alone, from the working directory on. -/
def nominal (disk : Disk) (path : Path) : Except Error Location :=
  if path.isAbsolute then .ok (Location.walk [] path)
  else
    match disk.workDir with
    | some dir => .ok (Location.walk dir path)
    | none => .error (.io (.os .noEntry))

/-- A place as a name in its directory; the root is none. -/
def splitPlace (place : Location) : Except Error (Location × Name) :=
  match place.split? with
  | some split => .ok split
  | none =>
    let shown := place.path
    .error (.unresolved s!"'{shown}' has no parent directory")

/-- The path of a place that was found. No place is found whose own path the system does not take,
though a shorter path over a link may lead there. -/
def realPath (place : Location) : Except Error Path :=
  if maxPathBytes < place.path.bytes.length then .error (.io (.os .nameTooLong))
  else .ok place.path

/-- Find what a path leads to: a directory, or a name in one. A name without an entry is fine if
its directory is there. -/
def locate (disk : Disk) (path : Path) : Except Error Located := do
  let target ← disk.nominal path
  match disk.find target.path with
  | .ok place =>
    let real ← realPath place
    if disk.isDirectory place then return ⟨⟨real⟩, none⟩
    else
      let (dir, name) ← splitPlace place
      return ⟨⟨dir.path⟩, some name.text⟩
  | .error _ =>
    let (above, name) ← splitPlace target
    match disk.findDirectory? above.path with
    | some dir => return ⟨⟨← realPath dir⟩, some name.text⟩
    | none =>
      let shown := above.path
      throw (.unresolved s!"'{shown}' does not exist")

/-- The content of the file to which a path leads. -/
def read (disk : Disk) (path : Path) : Except OsError ByteArray := do
  let place ← disk.find path
  match disk.entry? place with
  | some (.file content) => return content
  | some .directory => throw .isADirectory
  | _ => throw .noEntry

/-- The disk as a file system of the chain. -/
def fileSystem : FileSystem Disk where
  locate path := fun disk => (disk.locate path, disk)
  read path := fun disk => ((disk.read path).mapError fun why => .io (.os why), disk)
  remove path := fun disk =>
    let (result, disk) := disk.removeAll path
    (result.mapError fun why => .io (.os why), disk)

end OverlayChain.Disk
