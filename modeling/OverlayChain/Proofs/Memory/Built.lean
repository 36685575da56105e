import OverlayChain.Memory.Bound
import OverlayChain.Proofs.Memory.Climb

/-!
# Stores that were built

Every store that adding and removing entries leads to holds a directory above each of its files, and
lists each directory once. A store holds everything that a removal leaves of it.

## Main definitions

- `Memory.Built`: the stores that adding and removing entries leads to.
- `Memory.directories`: the directories of a store.
- `Memory.Covers`: a store holds everything that another one holds.

## Main statements

- `Memory.Built.closed`, `Memory.Built.isDir_dropLast`: there is a directory above each entry.
- `Memory.Built.nodup_directories`: each directory is counted once.
-/

namespace OverlayChain.Memory

variable {m whole : Memory}

/-- The stores that adding and removing entries leads to. -/
inductive Built : Memory → Prop
  | empty : Built .empty
  | addFile {m m' : Memory} (h : Built m) (path : Path) (content : ByteArray)
      (hadd : m.addFile path content = .ok m') : Built m'
  | addDirectory {m m' : Memory} (h : Built m) (path : Path)
      (hadd : m.addDirectory path = .ok m') : Built m'
  | removeBelow {m : Memory} (h : Built m) (path : Path) : Built (m.removeBelow (place path))

/-- The directories of a store, the root first. -/
def directories (m : Memory) : List Location := [] :: m.dirs.filter fun dir => !dir.isEmpty

theorem mem_directories {place : Location} : place ∈ m.directories ↔ m.isDir place = true := by
  by_cases hnil : place = []
  · simp [directories, hnil]
  · simp [directories, isDir, hnil]

theorem length_directories (m : Memory) : m.directories.length = m.dirCount := rfl

/-- A store to which a file was added, in the stead of what was at its place. -/
theorem eq_of_addFile {m' : Memory} {path : Path} {content : ByteArray}
    (h : m.addFile path content = .ok m') :
    m' = { m.climb (place path).dropLast with
      files := (place path, content) :: m.files.filter fun file => file.1 != place path } := by
  rw [addFile] at h
  dsimp only at h
  split at h
  · cases h
  · cases h
    rw [files_climb]

/-- A file is added only where there is no directory. -/
theorem isDir_place_of_addFile {m' : Memory} {path : Path} {content : ByteArray}
    (h : m.addFile path content = .ok m') : m.isDir (place path) = false := by
  rw [addFile] at h
  dsimp only at h
  split at h
  · cases h
  · next hno => simpa using hno

theorem eq_of_addDirectory {m' : Memory} {path : Path} (h : m.addDirectory path = .ok m') :
    m' = m.climb (place path) := by
  rw [addDirectory] at h
  dsimp only at h
  split at h
  · cases h
  · cases h
    rfl

/-- A directory is added only where there is no file. -/
theorem content?_place_of_addDirectory {m' : Memory} {path : Path}
    (h : m.addDirectory path = .ok m') : m.content? (place path) = none := by
  rw [addDirectory] at h
  dsimp only at h
  split at h
  · cases h
  · next hno => simpa using hno

/-- A file stands in the place of what was there before, and changes nothing else. -/
theorem content?_addFile {m' : Memory} {path : Path} {content : ByteArray}
    (h : m.addFile path content = .ok m') (place : Location) :
    m'.content? place = if place = Memory.place path then some content else m.content? place := by
  rw [eq_of_addFile h, content?, List.lookup_cons,
    lookup_filter m.files fun other => other != Memory.place path]
  by_cases hplace : place = Memory.place path
  · simp [hplace]
  · have hne : (place == Memory.place path) = false := by simpa using hplace
    simp [hne, hplace, content?]

theorem content?_addDirectory {m' : Memory} {path : Path} (h : m.addDirectory path = .ok m')
    (place : Location) : m'.content? place = m.content? place := by
  rw [eq_of_addDirectory h, content?, files_climb, content?]

/-- A file brings the directories above it. -/
theorem Closed.isDir_addFile {m' : Memory} {path : Path} {content : ByteArray} (hclosed : m.Closed)
    (h : m.addFile path content = .ok m') {place : Location} :
    m'.isDir place = true ↔
      m.isDir place = true ∨ place <+: Memory.place path ∧ Memory.place path ≠ place := by
  have hno := isDir_place_of_addFile h
  have hsame : m'.isDir place = (m.climb (Memory.place path).dropLast).isDir place := by
    rw [eq_of_addFile h]
    rfl
  rw [hsame, hclosed.isDir_climb_iff]
  refine or_congr_right ?_
  rcases List.eq_nil_or_concat (Memory.place path) with hnil | ⟨above, name, hplace⟩
  · -- The root is a directory, so no file was added in its stead.
    rw [hnil] at hno
    cases hno
  · rw [List.concat_eq_append] at hplace
    rw [hplace, List.dropLast_concat, List.prefix_concat_iff]
    constructor
    · intro habove
      refine ⟨.inr habove, ?_⟩
      rintro rfl
      exact not_prefix_of_snoc above name habove
    · rintro ⟨heq | habove, hother⟩
      · exact absurd heq.symm hother
      · exact habove

/-- A directory brings those above it. -/
theorem Closed.isDir_addDirectory {m' : Memory} {path : Path} (hclosed : m.Closed)
    (h : m.addDirectory path = .ok m') {place : Location} :
    m'.isDir place = true ↔ m.isDir place = true ∨ place <+: Memory.place path := by
  rw [eq_of_addDirectory h, hclosed.isDir_climb_iff]

/-- There is a directory above each directory of a store that was built. -/
theorem Built.closed (h : m.Built) : m.Closed := by
  induction h with
  | empty =>
    intro place above hdir habove
    have hnil : place = [] := by
      by_contra hne
      simp [isDir, Memory.empty, hne] at hdir
    rw [hnil, List.prefix_nil] at habove
    rw [habove]
    rfl
  | @addFile m m' _ path content hadd ih =>
    intro place above hdir habove
    rw [ih.isDir_addFile hadd] at hdir ⊢
    rcases hdir with hdir | ⟨hbelow, hne⟩
    · exact .inl (ih place above hdir habove)
    · refine .inr ⟨habove.trans hbelow, ?_⟩
      rintro rfl
      exact hne (habove.eq_of_length_le hbelow.length_le)
  | addDirectory _ path hadd ih =>
    intro place above hdir habove
    rw [ih.isDir_addDirectory hadd] at hdir ⊢
    rcases hdir with hdir | hbelow
    · exact .inl (ih place above hdir habove)
    · exact .inr (habove.trans hbelow)
  | removeBelow _ path ih =>
    intro place above hdir habove
    rw [isDir_removeBelow] at hdir ⊢
    rcases hdir with rfl | ⟨hdir, hkept⟩
    · exact .inl (List.prefix_nil.1 habove)
    · exact .inr ⟨ih place above hdir habove, fun htop => hkept (htop.trans habove)⟩

theorem Built.isDir_prefix (h : m.Built) {place above : Location} (hdir : m.isDir place = true)
    (habove : above <+: place) : m.isDir above = true := h.closed place above hdir habove

/-- There is a directory above each file of a store that was built. -/
theorem Built.isDir_dropLast (h : m.Built) {file : Location} {content : ByteArray}
    (hcontent : m.content? file = some content) : m.isDir file.dropLast = true := by
  induction h generalizing content with
  | empty => cases hcontent
  | @addFile m m' h path added hadd ih =>
    rw [content?_addFile hadd] at hcontent
    rw [h.closed.isDir_addFile hadd]
    split at hcontent
    · next hplace =>
      -- The root is no file, so what is above the new one is another place.
      have hne : place path ≠ [] := by
        intro hnil
        have hno := isDir_place_of_addFile hadd
        rw [hnil] at hno
        cases hno
      have hpos := List.length_pos_iff.2 hne
      rw [hplace]
      refine .inr ⟨List.dropLast_prefix _, fun heq => ?_⟩
      have hlength := congrArg List.length heq
      rw [List.length_dropLast] at hlength
      omega
    · exact .inl (ih hcontent)
  | @addDirectory m m' h path hadd ih =>
    rw [content?_addDirectory hadd] at hcontent
    exact (h.closed.isDir_addDirectory hadd).2 (.inl (ih hcontent))
  | @removeBelow m h path ih =>
    rw [content?_removeBelow] at hcontent
    split at hcontent
    · cases hcontent
    · next hkept =>
      -- If the directory were below the removed place, so would be the file.
      refine isDir_removeBelow.2 (.inr ⟨ih hcontent, ?_⟩)
      intro htop
      exact hkept (htop.trans (List.dropLast_prefix file))

/-- Each directory of a store that was built is counted once. -/
theorem Built.nodup_directories (h : m.Built) : m.directories.Nodup := by
  have hdirs : m.dirs.Nodup := by
    induction h with
    | empty => exact List.nodup_nil
    | addFile h path content hadd ih =>
      rw [eq_of_addFile hadd]
      exact nodup_makeMissing ih _
    | addDirectory h path hadd ih =>
      rw [eq_of_addDirectory hadd]
      exact nodup_makeMissing ih _
    | removeBelow h path ih => exact ih.filter _
  refine List.nodup_cons.2 ⟨?_, hdirs.filter _⟩
  simp

/-- A store holds everything that another one holds. -/
structure Covers (whole m : Memory) : Prop where
  isDir : ∀ place, m.isDir place = true → whole.isDir place = true
  content? : ∀ place content, m.content? place = some content →
    whole.content? place = some content

theorem Covers.refl (m : Memory) : m.Covers m := ⟨fun _ h => h, fun _ _ h => h⟩

theorem Covers.removeBelow (h : whole.Covers m) (top : Location) :
    whole.Covers (m.removeBelow top) := by
  constructor
  · intro place hdir
    rcases isDir_removeBelow.1 hdir with rfl | ⟨hold, -⟩
    · rfl
    · exact h.isDir place hold
  · intro place content hcontent
    rw [content?_removeBelow] at hcontent
    split at hcontent
    · cases hcontent
    · exact h.content? place content hcontent

end OverlayChain.Memory
