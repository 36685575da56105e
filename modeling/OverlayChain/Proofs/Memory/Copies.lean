import OverlayChain.Proofs.Disk.Plain

/-!
# A store that stands in for a disk

A store that holds the directories and files of a disk without links locates every path as the disk
does, with the same failures. It reads the same files by the paths of their places, and where it
does not, neither of them reads anything.

## Main definitions

- `Memory.Copies`: a store holds what a disk holds.
- `Memory.copyOf`: such a store.

## Main statements

- `Memory.Copies.locate_eq`: every path is located alike.
- `Memory.Copies.read_eq_ok_iff`: every place is read alike.
- `Memory.copyOf_copies`: each disk has such a store.
-/

namespace OverlayChain.Memory

variable {m : Memory} {disk : Disk}

/-- A store holds the directories and the files of a disk, with their content, and nothing else. -/
structure Copies (m : Memory) (disk : Disk) : Prop where
  isDir : ∀ place, m.isDir place = disk.isDirectory place
  content? : ∀ place content,
    m.content? place = some content ↔ disk.entry? place = some (.file content)

/-- A path that leads to no directory is located in the one above, if that is there. -/
theorem locate_of_not_isDir {path : Path} {above : Location} {name : Name}
    (hsplit : place path = above ++ [name]) (hno : m.isDir (place path) = false) :
    m.locate path =
      if m.isDir above then .ok ⟨⟨above.path⟩, some name.text⟩
      else
        let shown := above.path
        .error (.unresolved s!"'{shown}' does not exist") := by
  have hlast : (place path).split? = some (above, name) := by
    rw [hsplit]
    simp [Location.split?]
  rw [locate]
  dsimp only
  rw [hno, hlast]
  rfl

namespace Copies

/-- Every path is located alike, or fails alike. -/
theorem locate_eq (h : m.Copies disk) (hplain : disk.Plain) (path : Path) :
    disk.locate path = m.locate path := by
  cases hdir : disk.isDirectory (place path) with
  | true =>
    have hdisk : disk.locate path = .ok ⟨⟨(place path).path⟩, none⟩ :=
      (hplain.locate_of_entry rfl (Disk.entry?_ne_none hdir)).2 (.inl ⟨hdir, rfl⟩)
    rw [← h.isDir] at hdir
    rw [hdisk, locate_eq_ok_iff.2 (.inl ⟨hdir, rfl⟩)]
  | false =>
    rcases List.eq_nil_or_concat (place path) with hnil | ⟨above, name, hsplit⟩
    · rw [hnil] at hdir
      cases hdir
    · rw [List.concat_eq_append] at hsplit
      rw [hsplit] at hdir
      have hno : m.isDir (place path) = false := by rw [hsplit, h.isDir, hdir]
      rw [locate_of_not_isDir hsplit hno, h.isDir]
      by_cases hentry : disk.entry? (above ++ [name]) = none
      · exact hplain.locate_of_vacant hsplit hentry
      · rw [(hplain.locate_of_entry hsplit hentry).2 (.inr ⟨hdir, above, name, rfl, rfl⟩),
          if_pos (hplain.isDirectory_above hentry)]

/-- By the path of a place the same files are read. -/
theorem read_eq_ok_iff (h : m.Copies disk) (hplain : disk.Plain) {place : Location}
    {content : ByteArray} :
    disk.read place.path = .ok content ↔ m.read place.path = .ok content := by
  rw [Disk.read_eq_ok_iff, Memory.read_eq_ok_iff, place_path, h.content?]
  constructor
  · rintro ⟨file, hfind, hentry⟩
    obtain ⟨rfl, -⟩ := hplain.find_path_iff.1 hfind
    exact hentry
  · intro hentry
    refine ⟨place, hplain.find_path_iff.2 ⟨rfl, ?_⟩, hentry⟩
    rw [hentry]
    simp

end Copies

/-- The content of the file at a place of a disk. -/
def contentOn? (disk : Disk) (place : Location) : Option ByteArray :=
  match disk.entry? place with
  | some (.file content) => some content
  | _ => none

/-- The store with the directories and the files of a disk. -/
def copyOf (disk : Disk) : Memory where
  files := disk.entries.filterMap fun entry =>
    (contentOn? disk entry.1).map fun content => (entry.1, content)
  dirs := (disk.entries.map Prod.fst).filter disk.isDirectory

theorem contentOn?_eq_some_iff {place : Location} {content : ByteArray} :
    contentOn? disk place = some content ↔ disk.entry? place = some (.file content) := by
  rw [contentOn?]
  split
  · next found hfound => simp [hfound]
  · next hnone => simpa using fun h => hnone content h

/-- What a list holds for a place, if each place has the value that it has in its first entry. -/
theorem lookup_filterMap {entries : List (Location × Disk.Entry)}
    {valueAt : Location → Option ByteArray} {place : Location} {content : ByteArray} :
    (entries.filterMap fun entry => (valueAt entry.1).map fun value => (entry.1, value)).lookup place =
        some content ↔ place ∈ entries.map Prod.fst ∧ valueAt place = some content := by
  induction entries with
  | nil => simp
  | cons entry entries ih =>
    rw [List.filterMap_cons]
    cases hvalue : valueAt entry.1 with
    | none =>
      dsimp only [Option.map_none]
      rw [ih, List.map_cons, List.mem_cons]
      constructor
      · rintro ⟨hmem, hcontent⟩
        exact ⟨.inr hmem, hcontent⟩
      · rintro ⟨rfl | hmem, hcontent⟩
        · rw [hvalue] at hcontent
          cases hcontent
        · exact ⟨hmem, hcontent⟩
    | some value =>
      dsimp only [Option.map_some]
      rw [List.lookup_cons, List.map_cons, List.mem_cons]
      by_cases hplace : place = entry.1
      · simp [hplace, hvalue]
      · have hne : (place == entry.1) = false := beq_eq_false_iff_ne.2 hplace
        rw [hne, or_iff_right hplace]
        exact ih

/-- Each disk has a store that holds the same. -/
theorem copyOf_copies (disk : Disk) : (copyOf disk).Copies disk where
  isDir place := by
    rw [Bool.eq_iff_iff, isDir, Bool.or_eq_true, List.isEmpty_iff, List.contains_iff_mem]
    constructor
    · rintro (rfl | hdir)
      · rfl
      · exact (List.mem_filter.1 hdir).2
    · intro hdir
      by_cases hroot : place = []
      · exact .inl hroot
      · have hmem := Disk.mem_entries hroot (Disk.isDirectory_iff.1 hdir)
        exact .inr (List.mem_filter.2 ⟨List.mem_map_of_mem hmem, hdir⟩)
  content? place content := by
    rw [content?, copyOf, lookup_filterMap, contentOn?_eq_some_iff, and_iff_right_iff_imp]
    intro hentry
    have hroot : place ≠ [] := by
      rintro rfl
      cases hentry
    exact List.mem_map_of_mem (Disk.mem_entries hroot hentry)

end OverlayChain.Memory
