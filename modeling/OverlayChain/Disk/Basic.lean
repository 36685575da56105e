import OverlayChain.FileSystem

/-!
# Disks

A disk holds directories, files and symbolic links below a root, for a process that has a working
directory on it.

## Main definitions

- `Disk.Entry`, `Disk`: what is at a place; all places with what is there.
- `Disk.entry?`, `Disk.isDirectory`: the views of a disk.
- `Disk.put`, `Disk.without`: the two changes from which all others are made.
- `Disk.WellFormed`: every entry lies in a directory, under a name that the system takes.
-/

namespace OverlayChain

/-- What is at a place of a disk. -/
inductive Disk.Entry where
  | directory
  | file (content : ByteArray)
  /-- A symbolic link with the path that it stands for. -/
  | link (target : List UInt8)

/-- What is at each place. The root is always a directory. -/
structure Disk where
  entries : List (Location × Disk.Entry)
  /-- The working directory of the process; `none` after it was removed. -/
  workDir : Option Location

namespace Disk

/-- The disk that holds only the root, where the process works. -/
def empty : Disk := ⟨[], some []⟩

/-- What is at a place. -/
def entry? (disk : Disk) (place : Location) : Option Entry :=
  if place.isEmpty then some .directory else disk.entries.lookup place

/-- Whether there is a directory at a place. A link to one does not count. -/
def isDirectory (disk : Disk) (place : Location) : Bool :=
  match disk.entry? place with
  | some .directory => true
  | _ => false

/-- The disk with an entry at a place, in the stead of what was there. -/
def put (disk : Disk) (place : Location) (entry : Entry) : Disk :=
  { disk with entries := (place, entry) :: disk.entries.filter fun old => old.1 != place }

/-- The disk without the entries at some places. -/
def without (disk : Disk) (gone : Location → Bool) : Disk where
  entries := disk.entries.filter fun old => !gone old.1
  workDir := disk.workDir.filter fun dir => !gone dir

/-- Whether a place lies below another one. -/
def isBelow (place top : Location) : Bool := place.isWithin top && place != top

/-- The most bytes in the name of an entry. -/
def maxNameBytes : Nat := 255

/-- The most bytes in a path. -/
def maxPathBytes : Nat := 4095

/-- A name that the system takes: not too long, and without a NUL byte. -/
def IsEntryName (name : Name) : Prop :=
  name.bytes.length ≤ maxNameBytes ∧ 0 ∉ name.bytes

instance (name : Name) : Decidable (IsEntryName name) := by unfold IsEntryName; infer_instance

/-- Every entry lies in a directory, under a name that the system takes. The root is no entry. -/
structure WellFormed (disk : Disk) : Prop where
  inDirectory : ∀ entry ∈ disk.entries, disk.isDirectory entry.1.dropLast = true
  named : ∀ entry ∈ disk.entries, entry.1 ≠ [] ∧ ∀ name ∈ entry.1, IsEntryName name

@[simp] theorem entry?_nil (disk : Disk) : disk.entry? [] = some .directory := rfl

@[simp] theorem isDirectory_nil (disk : Disk) : disk.isDirectory [] = true := rfl

end Disk

end OverlayChain
