import OverlayChain.Path.Basic

/-!
# Resolved overlays

## Main definitions

- `Overlay.LoadedFile`: a file that an overlay read.
- `Overlay.Resolved`: what one overlay declares and reads.
- `Overlay.Tree`: an overlay with the overlays that it is based on.
- `Overlay.Tree.count`: the number of overlays in a tree.
-/

namespace OverlayChain.Overlay

/-- A file that an overlay read: its path as declared, and its size. -/
structure LoadedFile where
  path : String
  size : Nat
  deriving DecidableEq

/-- What one overlay declares and reads. -/
structure Resolved where
  root : Path
  /-- The identity of the repository that the overlay was cloned from. -/
  remote : Option String
  namespaceName : Option String
  labels : List (String × String)
  files : List LoadedFile
  deriving DecidableEq

/-- An overlay with the overlays that it is based on. -/
inductive Tree where
  | node (overlay : Resolved) (bases : List Tree)

namespace Tree

/-- What the overlay at the top declares and reads. -/
def overlay : Tree → Resolved
  | node overlay _ => overlay

/-- The trees of the overlays that it is based on. -/
def bases : Tree → List Tree
  | node _ bases => bases

mutual

/-- The number of overlays in a tree. -/
def count : Tree → Nat
  | node _ bases => 1 + countAll bases

/-- The number of overlays in trees. -/
def countAll : List Tree → Nat
  | [] => 0
  | tree :: trees => tree.count + countAll trees

end

end Tree

end OverlayChain.Overlay
