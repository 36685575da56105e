import OverlayChain.Host.Basic
import OverlayChain.Proofs.Action
import OverlayChain.Proofs.Memory.Requests

/-!
# File systems seen through a view

A file system may keep more than files. What the chain learns from it is what a plainer file system
answers on the part that keeps the files.

## Main definitions

- `FileSystem.Mirrors`: a file system answers as another one does on a part of its state.
- `FileSystem.Places`: directories are named by the paths of their places.

## Main statements

- `FileSystem.admitRoot_eq_ok_iff`: what it takes to be admitted as a root.
- `Host.mirrors_disk`: a host answers as its disk does.
-/

namespace OverlayChain

variable {σ τ : Type}

namespace FileSystem

variable {fs : FileSystem σ}

/-- A request about a path is answered as `model` answers it on what `view` shows. -/
structure Mirrors (fs : FileSystem σ) (model : FileSystem τ) (view : σ → τ) : Prop where
  locate : ∀ path s, (fs.locate path s).1 = (model.locate path (view s)).1 ∧
    view (fs.locate path s).2 = (model.locate path (view s)).2
  read : ∀ path s, (fs.read path s).1 = (model.read path (view s)).1 ∧
    view (fs.read path s).2 = (model.read path (view s)).2

theorem mirrors_self (fs : FileSystem σ) : fs.Mirrors fs id :=
  ⟨fun _ _ => ⟨rfl, rfl⟩, fun _ _ => ⟨rfl, rfl⟩⟩

/-- Every directory that is found is named by the path of its place. -/
def Places (fs : FileSystem σ) : Prop :=
  ∀ path s found t, fs.locate path s = (.ok found, t) →
    ∃ place : Location, found.dir.path = place.path

theorem locateDirectory_eq_ok_iff {path : Path} {root : Directory} {s t : σ} :
    fs.locateDirectory path s = (.ok root, t) ↔ fs.locate path s = (.ok ⟨root, none⟩, t) := by
  rw [locateDirectory, Action.bind_eq_ok_iff]
  constructor
  · rintro ⟨⟨dir, file⟩, u, hlocate, h⟩
    cases file with
    | none =>
      cases h
      exact hlocate
    | some file => cases h
  · intro h
    exact ⟨_, _, h, rfl⟩

/-- A root is a directory that is found under a path that is not empty. -/
theorem admitRoot_eq_ok_iff {path : Path} {root : Directory} {s t : σ} :
    fs.admitRoot path s = (.ok root, t) ↔
      path.bytes ≠ [] ∧ fs.locate path s = (.ok ⟨root, none⟩, t) := by
  rw [admitRoot]
  by_cases hempty : path.bytes = []
  · simp [hempty]
  · rw [if_neg (by simpa using hempty), locateDirectory_eq_ok_iff, and_iff_right hempty]

theorem Mirrors.places {model : FileSystem τ} {view : σ → τ} (h : fs.Mirrors model view)
    (hplaces : model.Places) : fs.Places := by
  intro path s found t hlocate
  have hmodel : (model.locate path (view s)).1 = .ok found := by
    rw [← (h.locate path s).1, hlocate]
  exact hplaces path (view s) found _ (Prod.ext hmodel rfl)

end FileSystem

theorem Memory.fileSystem_places : Memory.fileSystem.Places := by
  intro path m found t h
  rw [Memory.fileSystem_locate, Action.ended_eq_iff] at h
  rcases Memory.locate_eq_ok_iff.1 h.1 with ⟨-, rfl⟩ | ⟨above, name, -, -, -, rfl⟩
  · exact ⟨_, rfl⟩
  · exact ⟨above, rfl⟩

/-- A host answers as its disk does. -/
theorem Host.mirrors_disk : Host.fileSystem.Mirrors Disk.fileSystem Host.disk :=
  ⟨fun _ _ => ⟨rfl, rfl⟩, fun _ _ => ⟨rfl, rfl⟩⟩

end OverlayChain
