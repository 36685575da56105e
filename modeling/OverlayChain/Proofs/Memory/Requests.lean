import OverlayChain.Loader.Basic
import OverlayChain.Memory.Basic
import OverlayChain.Proofs.Action
import OverlayChain.Proofs.Path.Location

/-!
# Requests to files in memory

What a store answers depends only on the place that a path names: whether there is a directory or
a file at it, and whether there is a directory above it.

## Main definitions

- `Memory.env`: the environment of a chain over a store, where nothing is logged.

## Main statements

- `Memory.locate_eq_ok_iff`: what locating a path answers.
- `Memory.read_eq_ok_iff`: what reading a path answers.
- `Memory.isDir_removeBelow`, `Memory.content?_removeBelow`: what a removal leaves.
-/

namespace OverlayChain

/-- What a list holds for a key is in one of its entries. -/
theorem mem_of_lookup {α β : Type} [BEq α] [LawfulBEq α] {entries : List (α × β)} {key : α}
    {value : β} (h : entries.lookup key = some value) : (key, value) ∈ entries := by
  obtain ⟨before, after, rfl, -⟩ := List.lookup_eq_some_iff.1 h
  exact List.mem_append_right before List.mem_cons_self

namespace Memory

variable {m m' : Memory}

/-- The environment of a chain over a store, where nothing is logged. -/
def env (cloner : Cloner Memory) : Env Memory := ⟨fileSystem, cloner, fun _ store => store⟩

@[simp] theorem place_path (location : Location) : place location.path = location :=
  Location.walk_path [] location

@[simp] theorem isDir_nil (m : Memory) : m.isDir [] = true := rfl

@[simp] theorem fileSystem_locate (path : Path) (m : Memory) :
    fileSystem.locate path m = (m.locate path, m) := rfl

/-- A path leads to the directory at its place, or else to a name in the directory above. -/
theorem locate_eq_ok_iff {path : Path} {found : Located} :
    m.locate path = .ok found ↔
      (m.isDir (place path) = true ∧ found = ⟨⟨(place path).path⟩, none⟩) ∨
      ∃ above name, place path = above ++ [name] ∧ m.isDir (place path) = false ∧
        m.isDir above = true ∧ found = ⟨⟨above.path⟩, some name.text⟩ := by
  rw [locate]
  dsimp only
  by_cases hdir : m.isDir (place path) = true
  · rw [if_pos hdir]
    constructor
    · intro h
      cases h
      exact .inl ⟨hdir, rfl⟩
    · rintro (⟨-, rfl⟩ | ⟨above, name, -, hno, -⟩)
      · rfl
      · rw [hdir] at hno
        cases hno
  · rw [if_neg hdir]
    have hno : m.isDir (place path) = false := by simpa using hdir
    rcases List.eq_nil_or_concat (place path) with hnil | ⟨above, name, hplace⟩
    · rw [hnil] at hdir
      exact absurd rfl hdir
    · rw [List.concat_eq_append] at hplace
      have hsplit : (place path).split? = some (above, name) := by
        rw [hplace]
        simp [Location.split?]
      rw [hsplit]
      dsimp only
      constructor
      · intro h
        split at h
        · next habove =>
          cases h
          exact .inr ⟨above, name, hplace, hno, habove, rfl⟩
        · cases h
      · rintro (⟨h, -⟩ | ⟨above', name', hplace', -, habove, rfl⟩)
        · exact absurd h hdir
        · obtain ⟨rfl, hname⟩ := List.append_inj' (hplace.symm.trans hplace') rfl
          cases hname
          rw [if_pos habove]

theorem read_eq_ok_iff {path : Path} {content : ByteArray} :
    m.read path = .ok content ↔ m.content? (place path) = some content := by
  rw [read]
  split
  · next found hfound => rw [hfound, Except.ok.injEq, Option.some.injEq]
  · next hnone => simp [hnone]

/-- A path leads to a directory exactly if there is one at its place. -/
theorem locate_directory_iff {path : Path} {dir : Directory} :
    m.locate path = .ok ⟨dir, none⟩ ↔
      m.isDir (place path) = true ∧ dir = ⟨(place path).path⟩ := by
  rw [locate_eq_ok_iff]
  simp

/-- The place that a path names for a loader whose root is at `root`. -/
theorem place_join (root : Location) (path : Path) :
    place (Directory.join ⟨root.path⟩ path) = Location.walk root path := by
  rw [Directory.join_path, place_path]

/-- Whether a directory is left by a removal depends only on where it lies. -/
theorem isDir_removeBelow {top place : Location} :
    (m.removeBelow top).isDir place = true ↔
      place = [] ∨ m.isDir place = true ∧ ¬ top <+: place := by
  by_cases hnil : place = []
  · simp [hnil]
  · simp [isDir, removeBelow, hnil]

/-- A choice by the place of a file alone keeps the content of the files that it keeps. -/
theorem lookup_filter (files : List (Location × ByteArray)) (keep : Location → Bool)
    (place : Location) :
    (files.filter fun file => keep file.1).lookup place =
      if keep place then files.lookup place else none := by
  induction files with
  | nil => simp
  | cons file files ih =>
    obtain ⟨other, content⟩ := file
    by_cases hplace : place = other
    · by_cases hkept : keep other = true
      · simp [hplace, hkept]
      · rw [List.filter_cons, if_neg hkept, ih]
        simp [hplace, hkept]
    · have hne : (place == other) = false := by simpa using hplace
      by_cases hkept : keep other = true
      · simp [List.lookup_cons, hne, hkept, ih]
      · rw [List.filter_cons, if_neg hkept, ih]
        simp [List.lookup_cons, hne]

/-- A removal keeps the content of every file that it keeps. -/
theorem content?_removeBelow {top place : Location} :
    (m.removeBelow top).content? place = if top <+: place then none else m.content? place := by
  rw [content?, content?, removeBelow, lookup_filter m.files fun place => !place.isWithin top]
  by_cases htop : top <+: place
  · simp [htop]
  · simp [htop]

end Memory

end OverlayChain
