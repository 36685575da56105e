import OverlayChain.Proofs.Disk.Locate
import OverlayChain.Proofs.Loader.Chain
import OverlayChain.Proofs.Path.Normal

/-!
# What a confined loader reads

A confined loader locates the path that it is asked for, holds the directory of the answer against
its root, and reads what shows the name of the answer in that directory. Over a file system that
answers as another one on a part of its state, a loader reads what it reads there.

## Main definitions

- `Loader.requested`: the path that is asked for, from the root of the file system.

## Main statements

- `Loader.load_memory_iff`, `Loader.load_text_iff`: what a confined loader reads over files in memory.
- `Loader.load_disk_iff`: what it reads over a disk.
-/

namespace OverlayChain

variable {σ τ : Type}

/-- A confined loader is permitted the name of the answer, in a directory of its root. -/
theorem ReadPolicy.permit_confined_eq_ok_iff {fs : FileSystem σ} {root : Directory}
    {path admitted : Path} {s t : σ} :
    confined.permit fs root path s = (.ok admitted, t) ↔
      ∃ dir name, fs.locate path s = (.ok ⟨dir, some name⟩, t) ∧ dir.isWithin root.path = true ∧
        admitted = dir.join ⟨name⟩ := by
  rw [permit, Action.bind_eq_ok_iff]
  constructor
  · rintro ⟨⟨dir, file⟩, u, hlocate, h⟩
    cases file with
    | none => cases h
    | some name =>
      dsimp only at h
      split at h
      · next hwithin =>
        cases h
        exact ⟨dir, name, hlocate, hwithin, rfl⟩
      · cases h
  · rintro ⟨dir, name, hlocate, hwithin, rfl⟩
    refine ⟨_, t, hlocate, ?_⟩
    dsimp only
    rw [if_pos hwithin]
    rfl

namespace Loader

variable {env : Env σ} {loader : Loader} {path : Path} {root : Location} {content : ByteArray}

/-- The path that is asked for when a loader reads. A relative one is taken from the root. -/
def requested (loader : Loader) (path : Path) : Path :=
  if path.isAbsolute then path else loader.root.join path

theorem isAbsolute_requested (hroot : loader.root = ⟨root.path⟩) (path : Path) :
    (loader.requested path).isAbsolute = true := by
  rw [requested]
  split
  · next habs => exact habs
  · rw [hroot, Directory.join_path]
    exact Location.isAbsolute_path _

/-- The place that is asked for is taken from the place of the root. -/
theorem walk_requested_eq (loader : Loader) (path : Path) :
    Location.walk [] (loader.requested path) =
      Location.walk (Location.walk [] loader.root.path) path := by
  rw [requested]
  split
  · next habs => rw [Location.walk_of_isAbsolute habs, Location.walk_of_isAbsolute habs]
  · rw [Directory.join, Location.walk_clean, Location.walk_join]

/-- The place that is asked for. -/
theorem walk_requested (hroot : loader.root = ⟨root.path⟩) (path : Path) :
    Location.walk [] (loader.requested path) = root.walk path := by
  rw [walk_requested_eq, hroot, Location.walk_path]

theorem load_confined_eq_ok_iff (hpolicy : loader.node.policy = .confined) {s t : σ} :
    loader.load env path s = (.ok content, t) ↔
      ∃ dir name u, env.fs.locate (loader.requested path) s = (.ok ⟨dir, some name⟩, u) ∧
        dir.isWithin loader.root.path = true ∧
        env.fs.read (dir.join ⟨name⟩) u = (.ok content, t) := by
  have hload : loader.load env path = loader.node.policy.permit env.fs loader.root
      (loader.requested path) >>= env.fs.read := rfl
  rw [hload, hpolicy, Action.bind_eq_ok_iff]
  constructor
  · rintro ⟨admitted, u, hpermit, hread⟩
    obtain ⟨dir, name, hlocate, hwithin, rfl⟩ := ReadPolicy.permit_confined_eq_ok_iff.1 hpermit
    exact ⟨dir, name, u, hlocate, hwithin, hread⟩
  · rintro ⟨dir, name, u, hlocate, hwithin, hread⟩
    exact ⟨_, u, ReadPolicy.permit_confined_eq_ok_iff.2 ⟨dir, name, hlocate, hwithin, rfl⟩, hread⟩

/-- A confined loader reads what the file system reads of which it sees a part. -/
theorem load_mirrored_iff {model : FileSystem τ} {view : σ → τ}
    (hmirrors : env.fs.Mirrors model view) (hpolicy : loader.node.policy = .confined) {s : σ} :
    (∃ t, loader.load env path s = (.ok content, t)) ↔
      ∃ dir name x, model.locate (loader.requested path) (view s) = (.ok ⟨dir, some name⟩, x) ∧
        dir.isWithin loader.root.path = true ∧ (model.read (dir.join ⟨name⟩) x).1 = .ok content := by
  obtain ⟨hanswer, hview⟩ := hmirrors.locate (loader.requested path) s
  constructor
  · rintro ⟨t, h⟩
    obtain ⟨dir, name, u, hlocate, hwithin, hread⟩ := (load_confined_eq_ok_iff hpolicy).1 h
    rw [hlocate] at hanswer hview
    refine ⟨dir, name, view u, Prod.ext hanswer.symm hview.symm, hwithin, ?_⟩
    rw [← (hmirrors.read _ u).1, hread]
  · rintro ⟨dir, name, x, hlocate, hwithin, hread⟩
    rw [hlocate] at hanswer hview
    refine ⟨_, (load_confined_eq_ok_iff hpolicy).2
      ⟨dir, name, _, Prod.ext hanswer rfl, hwithin, Prod.ext ?_ rfl⟩⟩
    rw [(hmirrors.read _ _).1, hview]
    exact hread

/-- Over files in memory a confined loader reads the file that is named by what shows the name that it
is asked for, if the directory that holds it lies in the root. -/
theorem load_memory_iff {view : σ → Memory} (hmirrors : env.fs.Mirrors Memory.fileSystem view)
    (hpolicy : loader.node.policy = .confined) (hroot : loader.root = ⟨root.path⟩) {s : σ} :
    (∃ t, loader.load env path s = (.ok content, t)) ↔
      ∃ (dir : Location) (name : Name), root.walk path = dir ++ [name] ∧ root <+: dir ∧
        (view s).isDir (root.walk path) = false ∧ (view s).isDir dir = true ∧
        (view s).content? (dir ++ [name.shown]) = some content := by
  have hplace : Memory.place (loader.requested path) = root.walk path := walk_requested hroot path
  rw [load_mirrored_iff hmirrors hpolicy, hroot]
  constructor
  · rintro ⟨found, text, x, hlocate, hwithin, hread⟩
    rw [Memory.fileSystem_locate, Action.ended_eq_iff] at hlocate
    obtain ⟨hlocate, rfl⟩ := hlocate
    rcases Memory.locate_eq_ok_iff.1 hlocate with ⟨-, h⟩ | ⟨dir, name, hsplit, hno, hdir, h⟩
    · cases h
    · cases h
      rw [hplace] at hsplit hno
      rw [Directory.isWithin_path_iff] at hwithin
      have hcontent := Memory.read_eq_ok_iff.1 hread
      rw [Memory.place_join, Location.walk_text] at hcontent
      exact ⟨dir, name, hsplit, hwithin, hno, hdir, hcontent⟩
  · rintro ⟨dir, name, hsplit, hwithin, hno, hdir, hcontent⟩
    refine ⟨⟨dir.path⟩, name.text, view s, ?_, ?_, ?_⟩
    · rw [Memory.fileSystem_locate, Action.ended_eq_iff, Memory.locate_eq_ok_iff, hplace]
      exact ⟨.inr ⟨dir, name, hsplit, hno, hdir, rfl⟩, rfl⟩
    · rw [Directory.isWithin_path_iff]
      exact hwithin
    · refine Memory.read_eq_ok_iff.2 ?_
      rw [Memory.place_join, Location.walk_text]
      exact hcontent

/-- Asked for a text, it reads the file at the place that it is asked for. -/
theorem load_text_iff {view : σ → Memory} (hmirrors : env.fs.Mirrors Memory.fileSystem view)
    (hpolicy : loader.node.policy = .confined) (hroot : loader.root = ⟨root.path⟩)
    (hpath : path.IsText) {s : σ} :
    (∃ t, loader.load env path s = (.ok content, t)) ↔
      ∃ (dir : Location) (name : Name), root.walk path = dir ++ [name] ∧ root <+: dir ∧
        (view s).isDir (root.walk path) = false ∧ (view s).isDir dir = true ∧
        (view s).content? (root.walk path) = some content := by
  rw [load_memory_iff hmirrors hpolicy hroot]
  refine exists_congr fun dir => exists_congr fun name => and_congr_right fun hsplit =>
    and_congr_right fun hwithin => ?_
  rw [Location.shown_of_walk hpath hsplit hwithin, hsplit]

/-- Over a disk a confined loader reads the file to which the place leads that it is asked for, if
the file lies in the root. Where that place strays from a directory of the root, it reads the file
to which it strays, wherever that file lies. -/
theorem load_disk_iff {view : σ → Disk} (hmirrors : env.fs.Mirrors Disk.fileSystem view)
    (hpolicy : loader.node.policy = .confined) (hroot : loader.root = ⟨root.path⟩) {s : σ} :
    (∃ t, loader.load env path s = (.ok content, t)) ↔
      ∃ file, (view s).HasFile file content ∧
        ((view s).Resolves (root.walk path) file ∧ root <+: file.dropLast ∨
          ∃ dir name, (view s).Strays (root.walk path) dir name file ∧ root <+: dir) := by
  have habs := isAbsolute_requested hroot path
  rw [load_mirrored_iff hmirrors hpolicy, hroot, ← Disk.read_answered_iff,
    ← walk_requested hroot path]
  have hlocate : ∀ located x, Disk.fileSystem.locate (loader.requested path) (view s) =
      (.ok located, x) ↔ (view s).locate (loader.requested path) = .ok located ∧ view s = x :=
    fun _ _ => Action.ended_eq_iff
  have hread : ∀ (dir : Location) (name : Name),
      (Disk.fileSystem.read (Directory.join ⟨dir.path⟩ ⟨name.text⟩) (view s)).1 = .ok content ↔
        (view s).read (dir ++ [name.shown]).path = .ok content := by
    intro dir name
    rw [Directory.join_path, Location.walk_text]
    change ((view s).read (dir ++ [name.shown]).path).mapError _ = _ ↔ _
    cases (view s).read (dir ++ [name.shown]).path with
    | error why => exact iff_of_false nofun nofun
    | ok bytes =>
      show Except.ok bytes = Except.ok content ↔ _
      simp
  constructor
  · rintro ⟨found, text, x, hfound, hwithin, hcontent⟩
    obtain ⟨hanswer, rfl⟩ := (hlocate _ _).1 hfound
    obtain ⟨dir, name, hanswers, rfl, rfl⟩ := (Disk.locate_file_iff habs).1 hanswer
    exact ⟨dir, name, hanswers, (Directory.isWithin_path_iff dir root).1 hwithin,
      (hread dir name).1 hcontent⟩
  · rintro ⟨dir, name, hanswers, hwithin, hcontent⟩
    refine ⟨⟨dir.path⟩, name.text, view s, ?_, ?_, (hread dir name).2 hcontent⟩
    · exact (hlocate _ _).2 ⟨(Disk.locate_file_iff habs).2 ⟨dir, name, hanswers, rfl, rfl⟩, rfl⟩
    · exact (Directory.isWithin_path_iff dir root).2 hwithin

end Loader

end OverlayChain
