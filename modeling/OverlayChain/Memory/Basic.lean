import OverlayChain.FileSystem

/-!
# Files in memory

A store of files and directories below a root. Adding an entry adds the directories above it, from
below up to the first that is there. There are no links, so every path is resolved as it is written,
from the root. Of what is found, a file name is reported by the text that shows it.

## Main definitions

- `Memory`: the store, with the views `Memory.isDir` and `Memory.content?`.
- `Memory.climb`: a place made a directory, from below.
- `Memory.addFile`, `Memory.addDirectory`, `Memory.removeBelow`: its changes.
- `Memory.fileSystem`: the store as a file system of the chain.
-/

namespace OverlayChain

/-- Files with their content, and directories. The root is always a directory. -/
structure Memory where
  files : List (Location × ByteArray)
  dirs : List Location

namespace Memory

/-- The store that holds only the root. -/
def empty : Memory := ⟨[], []⟩

/-- The place in the store that a path names. -/
def place (path : Path) : Location := Location.walk [] path

/-- Whether a place is a directory. -/
def isDir (m : Memory) (place : Location) : Bool := place.isEmpty || m.dirs.contains place

/-- The content of the file at a place. -/
def content? (m : Memory) (place : Location) : Option ByteArray := m.files.lookup place

/-- The number of files. -/
def size (m : Memory) : Nat := m.files.length

/-- A place and all places above it, the root last. -/
def ancestors (place : Location) : List Location :=
  (List.range (place.length + 1)).reverse.map fun n => place.take n

/-- The store with one more directory. -/
def withDirectory (m : Memory) (dir : Location) : Memory := { m with dirs := dir :: m.dirs }

/-- Make places directories one after the other, up to the first that is one. -/
def makeMissing (m : Memory) : List Location → Memory
  | [] => m
  | dir :: above => if m.isDir dir then m else (m.withDirectory dir).makeMissing above

/-- Make a place a directory, and then those above it, up to the first that is one. -/
def climb (m : Memory) (place : Location) : Memory := m.makeMissing (ancestors place)

/-- Add a file or replace its content, and add the directories above it. -/
def addFile (m : Memory) (path : Path) (content : ByteArray) : Except Error Memory :=
  let target := place path
  if m.isDir target then
    let shown := target.path
    .error (.unresolved s!"'{shown}' is a directory")
  else
    let above := m.climb target.dropLast
    .ok { above with files := (target, content) :: above.files.filter fun file => file.1 != target }

/-- Add a directory and the directories above it. -/
def addDirectory (m : Memory) (path : Path) : Except Error Memory :=
  let target := place path
  if (m.content? target).isSome then
    let shown := target.path
    .error (.unresolved s!"'{shown}' is a file")
  else .ok (m.climb target)

/-- Remove all entries at a place or below it. -/
def removeBelow (m : Memory) (top : Location) : Memory where
  files := m.files.filter fun file => !file.1.isWithin top
  dirs := m.dirs.filter fun dir => !Location.isWithin dir top

/-- Find what a path leads to: a directory of the store, or a name in one. -/
def locate (m : Memory) (path : Path) : Except Error Located :=
  let target := place path
  if m.isDir target then .ok ⟨⟨target.path⟩, none⟩
  else
    match target.split? with
    | none =>
      let shown := target.path
      .error (.unresolved s!"'{shown}' has no parent directory")
    | some (above, name) =>
      if m.isDir above then .ok ⟨⟨above.path⟩, some name.text⟩
      else
        let shown := above.path
        .error (.unresolved s!"'{shown}' does not exist")

/-- The content of the file that a path names. -/
def read (m : Memory) (path : Path) : Except Error ByteArray :=
  match m.content? (place path) with
  | some content => .ok content
  | none => .error (.io (.absent (place path).path))

/-- The store as a file system of the chain. -/
def fileSystem : FileSystem Memory where
  locate path := fun m => (m.locate path, m)
  read path := fun m => (m.read path, m)
  remove path := Action.update fun m => m.removeBelow (place path)

end Memory

end OverlayChain
