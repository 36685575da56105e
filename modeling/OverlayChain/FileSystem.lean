import OverlayChain.Action

/-!
# File systems

The chain reaches files only through three requests: to locate a path, to read a file and to
remove whatever is at a path.

## Main definitions

- `Directory`: a directory that a file system vouches for.
- `Located`: what a path leads to.
- `FileSystem`: the three requests, on a state of any kind.
- `FileSystem.unremovable`: the same file system, with removal always refused.
-/

namespace OverlayChain

/-- A directory that a file system found, by its absolute, clean path. -/
structure Directory where
  path : Path
  deriving DecidableEq

namespace Directory

/-- A path taken relative to the directory, in its shortest spelling. -/
def join (dir : Directory) (p : Path) : Path := (dir.path.join p).clean

/-- The directory is `top` or lies below it. -/
def isWithin (dir : Directory) (top : Path) : Bool := dir.path.isWithin top

instance : ToString Directory := ⟨fun dir => dir.path.text⟩

end Directory

/-- What a path leads to: a directory, or a file name in one, as the text that shows it. The file need
not exist. -/
structure Located where
  dir : Directory
  file : Option String
  deriving DecidableEq

/-- The requests through which the chain reaches files. -/
structure FileSystem (σ : Type) where
  /-- Find the directory that a path names, or the directory and the name of its last part. -/
  locate : Path → Action σ Located
  /-- The content of a file. -/
  read : Path → Action σ ByteArray
  /-- Remove a file, or a directory and all below it. Nothing at the path is fine. -/
  remove : Path → Action σ Unit

namespace FileSystem

variable {σ : Type}

/-- The same file system, with every removal refused. -/
def unremovable (fs : FileSystem σ) : FileSystem σ :=
  { fs with remove := fun path => throw (.unresolved s!"cannot remove '{path}'") }

/-- Locate a directory; a file is refused. -/
def locateDirectory (fs : FileSystem σ) (path : Path) : Action σ Directory := do
  let found ← fs.locate path
  match found.file with
  | none => return found.dir
  | some file => throw (.notADirectory path.text file)

/-- Admit a path as a root: it has to lead to a directory. -/
def admitRoot (fs : FileSystem σ) (path : Path) : Action σ Directory :=
  if path.bytes.isEmpty then throw (.emptyPath "loader root") else fs.locateDirectory path

end FileSystem

end OverlayChain
