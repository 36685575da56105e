import Mathlib.Data.List.Induction
import OverlayChain.Proofs.Disk.Locate

/-!
# Disks without links

On a disk without links a path of names finds the place that it names, and nothing else. All limits
of the system then come down to whether there is an entry, since no entry is beyond them.

## Main definitions

- `Disk.Plain`: a disk without links whose entries are within the limits of the system.

## Main statements

- `Disk.Plain.find_path_iff`: what the path of a place finds.
- `Disk.Plain.isDirectory_above`: there is a directory above each entry.
- `Disk.Plain.locate_of_entry`, `Disk.Plain.locate_of_vacant`: where paths are located.
-/

namespace OverlayChain.Disk

variable {disk : Disk} {place start found : Location} {names : List Name} {name : Name}

/-- A disk without links, where the system takes the path of each entry and the process works at the
root. -/
structure Plain (disk : Disk) : Prop where
  wellFormed : disk.WellFormed
  noLink : ∀ entry ∈ disk.entries, ∀ target, entry.2 ≠ .link target
  fits : ∀ entry ∈ disk.entries, entry.1.path.bytes.length ≤ maxPathBytes
  workDir : disk.workDir = some []

/-- What is at a place other than the root is an entry of the disk. -/
theorem mem_entries (hplace : place ≠ []) {entry : Entry}
    (h : disk.entry? place = some entry) : (place, entry) ∈ disk.entries := by
  rw [Disk.entry?, if_neg (by simpa using hplace)] at h
  exact mem_of_lookup h

theorem entry?_ne_none (hdir : disk.isDirectory place = true) : disk.entry? place ≠ none := by
  rw [isDirectory_iff.1 hdir]
  simp

theorem nul_not_mem_path (h : ∀ name ∈ place, 0 ∉ name.bytes) :
    0 ∉ place.path.bytes := by
  induction place using List.reverseRecOn with
  | nil => decide
  | append_singleton above name ih =>
    rw [nul_mem_snoc, not_or]
    exact ⟨ih fun other hother => h other (List.mem_append_left _ hother), h name (by simp)⟩

/-- Names that are not too long are not refused as too long. -/
theorem advance_ne_nameTooLong (hnames : ∀ name ∈ names, IsEntryName name) (start : Location) :
    disk.advance true start (names.map .named) ≠ .blocked .nameTooLong := by
  induction names generalizing start with
  | nil => simp [advance]
  | cons name names ih =>
    obtain ⟨hname, hrest⟩ := List.forall_mem_cons.1 hnames
    rw [List.map_cons, advance]
    split
    · simp
    · split
      · next hlong => exact absurd hname.1 (Nat.not_le_of_lt hlong)
      · dsimp only
        split
        · split <;> simp
        · split <;> simp
        · exact ih hrest (start ++ [name])

/-- The names on the way to an entry are names that the system takes. -/
theorem WellFormed.isEntryName (h : disk.WellFormed) (hentry : disk.entry? place ≠ none) :
    ∀ name ∈ place, IsEntryName name := by
  by_cases hplace : place = []
  · simp [hplace]
  · obtain ⟨entry, hentry⟩ := Option.ne_none_iff_exists'.1 hentry
    exact (h.named _ (mem_entries hplace hentry)).2

/-- The system takes the path of an entry, unless it is too long. -/
theorem WellFormed.checkPath_path (h : disk.WellFormed) (hentry : disk.entry? place ≠ none)
    (hfits : place.path.bytes.length ≤ maxPathBytes) : checkPath place.path = .ok () :=
  checkPath_eq_ok_iff.2
    ⟨nul_not_mem_path fun name hname => (h.isEntryName hentry name hname).2, hfits⟩

/-- A settled place finds itself under its own path, if that is not too long. -/
theorem WellFormed.find_path (h : disk.WellFormed) (hsettled : disk.Settled place)
    (hfits : place.path.bytes.length ≤ maxPathBytes) :
    disk.find place.path = .ok place := by
  have hentry : disk.entry? place ≠ none := by
    obtain ⟨entry, hentry, -⟩ := hsettled.entry
    simp [hentry]
  have hplace : disk.Settled ([] ++ place) := hsettled
  have hadvance := advance_settled hplace []
  rw [List.append_nil, List.nil_append] at hadvance
  have harrived := hadvance.resolve_right (advance_ne_nameTooLong (h.isEntryName hentry) [])
  refine find_path_eq_ok_iff.2 ⟨h.checkPath_path hentry hfits, ?_⟩
  rw [walk_of_advance harrived (by simp [advance]) maxLinks]
  rfl

namespace Plain

theorem ne_link (h : disk.Plain) (place : Location) (target : List UInt8) :
    disk.entry? place ≠ some (.link target) := by
  intro hentry
  by_cases hplace : place = []
  · rw [hplace] at hentry
    cases hentry
  · exact h.noLink _ (mem_entries hplace hentry) target rfl

/-- There is a directory above each entry. -/
theorem isDirectory_above (h : disk.Plain) (hentry : disk.entry? (place ++ [name]) ≠ none) :
    disk.isDirectory place = true := by
  obtain ⟨entry, hentry⟩ := Option.ne_none_iff_exists'.1 hentry
  have hmem := mem_entries (by simp) hentry
  have hdir := h.wellFormed.inDirectory _ hmem
  rwa [List.dropLast_concat] at hdir

/-- An entry is settled, as there are no links. -/
theorem settled (h : disk.Plain) (hentry : disk.entry? place ≠ none) : disk.Settled place := by
  induction place using List.reverseRecOn with
  | nil => exact settled_nil disk
  | append_singleton above name ih =>
    have hdir := h.isDirectory_above hentry
    obtain ⟨entry, hentry⟩ := Option.ne_none_iff_exists'.1 hentry
    refine (ih (entry?_ne_none hdir)).snoc hdir hentry ?_
    rintro target rfl
    exact h.ne_link _ target hentry

/-- The path of each entry is short enough for the system. -/
theorem fits_path (h : disk.Plain) (hentry : disk.entry? place ≠ none) :
    place.path.bytes.length ≤ maxPathBytes := by
  by_cases hplace : place = []
  · rw [hplace]
    decide
  · obtain ⟨entry, hentry⟩ := Option.ne_none_iff_exists'.1 hentry
    exact h.fits _ (mem_entries hplace hentry)

/-- Names lead to the place that they name, if they lead anywhere. -/
theorem advance_names (h : disk.Plain) (start : Location) (names : List Name) :
    (∀ found, disk.advance true start (names.map .named) = .arrived found →
      found = start ++ names) ∧
    ∀ dir target rest, disk.advance true start (names.map .named) ≠ .crossing dir target rest := by
  induction names generalizing start with
  | nil =>
    constructor
    · intro found hfound
      cases hfound
      exact (List.append_nil start).symm
    · intro dir target rest hcrossing
      cases hcrossing
  | cons name names ih =>
    rw [List.map_cons, advance]
    split
    · simp
    · split
      · simp
      · dsimp only
        split
        · split <;> simp
        · next target hlink => exact absurd hlink (h.ne_link _ target)
        · have hrest := ih (start ++ [name])
          rwa [List.append_assoc, List.singleton_append] at hrest

/-- The path of a place finds that place, if there is an entry, and nothing else. -/
theorem find_path_iff (h : disk.Plain) :
    disk.find place.path = .ok found ↔ found = place ∧ disk.entry? place ≠ none := by
  obtain ⟨harrived, hcrossing⟩ := h.advance_names [] place
  have hwalk := walk_of_advance rfl hcrossing maxLinks
  constructor
  · intro hfind
    have hreached := (find_path_eq_ok_iff.1 hfind).2
    rw [hwalk] at hreached
    cases hadvance : disk.advance true [] (place.map .named) with
    | arrived reached =>
      rw [hadvance] at hreached
      cases hreached
      have hfound : found = place := harrived found hadvance
      obtain ⟨entry, hentry, -⟩ := (settled_of_find hfind).entry
      rw [hfound] at hentry
      exact ⟨hfound, by simp [hentry]⟩
    | _ => rw [hadvance] at hreached; cases hreached
  · rintro ⟨rfl, hentry⟩
    exact h.wellFormed.find_path (h.settled hentry) (h.fits_path hentry)

theorem findDirectory?_eq (h : disk.Plain) (place : Location) :
    disk.findDirectory? place.path = if disk.isDirectory place then some place else none := by
  by_cases hdir : disk.isDirectory place = true
  · rw [if_pos hdir]
    exact findDirectory?_eq_some_iff.2 ⟨h.find_path_iff.2 ⟨rfl, entry?_ne_none hdir⟩, hdir⟩
  · rw [if_neg hdir, Option.eq_none_iff_forall_ne_some]
    intro found hfound
    obtain ⟨hfind, hfoundDir⟩ := findDirectory?_eq_some_iff.1 hfound
    obtain ⟨rfl, -⟩ := h.find_path_iff.1 hfind
    exact hdir hfoundDir

/-- No directory is there whose own path the system does not take. -/
theorem realPath_eq (h : disk.Plain) (hentry : disk.entry? place ≠ none) :
    realPath place = .ok place.path :=
  realPath_eq_ok_iff.2 ⟨h.fits_path hentry, rfl⟩

theorem nominal_eq (h : disk.Plain) (path : Path) :
    disk.nominal path = .ok (Location.walk [] path) := by
  rw [nominal, h.workDir]
  split
  · rfl
  · rfl

/-- A path without an entry is located in the directory above. -/
theorem locate_of_vacant (h : disk.Plain) {path : Path} {above : Location}
    (hsplit : Location.walk [] path = above ++ [name])
    (hentry : disk.entry? (above ++ [name]) = none) :
    disk.locate path =
      if disk.isDirectory above then .ok ⟨⟨above.path⟩, some name.text⟩
      else
        let shown := above.path
        .error (.unresolved s!"'{shown}' does not exist") := by
  obtain ⟨why, hfind⟩ : ∃ why, disk.find (above ++ [name]).path = .error why := by
    cases hfind : disk.find (above ++ [name]).path with
    | error why => exact ⟨why, rfl⟩
    | ok found => exact absurd hentry (h.find_path_iff.1 hfind).2
  rw [Disk.locate, h.nominal_eq path, hsplit, Action.except_ok_bind, hfind]
  dsimp only
  rw [splitPlace_eq_ok_iff.2 rfl, Action.except_ok_bind]
  dsimp only
  rw [h.findDirectory?_eq]
  by_cases hdir : disk.isDirectory above = true
  · rw [if_pos hdir, if_pos hdir]
    dsimp only
    rw [h.realPath_eq (entry?_ne_none hdir)]
    rfl
  · rw [if_neg hdir, if_neg hdir]
    rfl

/-- A path with an entry is located at its own place. -/
theorem locate_of_entry (h : disk.Plain) {path : Path} {found : Located}
    (hplace : Location.walk [] path = place) (hentry : disk.entry? place ≠ none) :
    disk.locate path = .ok found ↔
      disk.isDirectory place = true ∧ found = ⟨⟨place.path⟩, none⟩ ∨
        disk.isDirectory place = false ∧ ∃ (above : Location) (name : Name),
          place = above ++ [name] ∧ found = ⟨⟨above.path⟩, some name.text⟩ := by
  subst hplace
  rw [locate_of_find (h.nominal_eq path) (h.find_path_iff.2 ⟨rfl, hentry⟩)]
  exact and_iff_right (h.fits_path hentry)

end Plain

end OverlayChain.Disk
