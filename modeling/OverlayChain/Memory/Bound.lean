import OverlayChain.Memory.Basic
import OverlayChain.Overlay.Resolve

/-!
# How long a chain over files in memory can get

On one chain no directory is the root of two loaders for local bases, and no identity is the
identity of two loaders for remote bases. So a chain is no longer than the number of directories
and of identities together.

## Main definitions

- `Memory.identities`: the identities of the remote references in the overlay files of a store.
- `Memory.chainBound`: the number of directories and of those identities.
-/

namespace OverlayChain.Memory

/-- The entries of an overlay file that may lead to a child; none if it is malformed. -/
def entriesOf (content : ByteArray) : List String :=
  match Overlay.File.parse content with
  | .ok file => file.bases ++ file.resources
  | .error _ => []

/-- Whether a place has the name of an overlay file. -/
def isOverlayFile (place : Location) : Bool :=
  place.getLast?.any fun name => Overlay.fileNames.contains name.text

/-- The identities of the remote references in the overlay files of a store, each once. -/
def identities (m : Memory) : List String :=
  let overlayFiles := m.files.filter fun file => isOverlayFile file.1
  let entries := overlayFiles.flatMap fun file => entriesOf file.2
  (entries.filterMap fun entry => (RemoteRef.parse? entry).map RemoteRef.identity).eraseDups

/-- The number of directories. The root is one, whether it is listed or not. -/
def dirCount (m : Memory) : Nat := (m.dirs.filter fun dir => !dir.isEmpty).length + 1

/-- No chain that is resolved over a store holds more loaders. -/
def chainBound (m : Memory) : Nat := m.dirCount + m.identities.length

end OverlayChain.Memory
