import OverlayChain.Proofs.Disk.Walk

/-!
# What a path finds on a disk

The path of a settled place finds that place. If a path of names finds nothing although its last
name leads somewhere from the directory that the others lead to, then it is the system's limits
that end the walk: the whole path crosses too many links, or it is too long.

## Main definitions

- `Disk.HasFile`: a file with its content, at a place that no link is on the way to.

## Main statements

- `Disk.eq_of_find_path`: a settled place is found under its own path.
- `Disk.find_snoc`: why a path finds nothing although its last name leads somewhere.
-/

namespace OverlayChain.Disk

variable {disk : Disk} {place dir : Location}

/-- The file with the content is at the place, and only directories are on the way to it. -/
structure HasFile (disk : Disk) (place : Location) (content : ByteArray) : Prop where
  above : ∀ n < place.length, disk.isDirectory (place.take n) = true
  entry : disk.entry? place = some (.file content)

theorem Settled.hasFile (h : disk.Settled place) {content : ByteArray}
    (hentry : disk.entry? place = some (.file content)) : disk.HasFile place content :=
  ⟨h.above, hentry⟩

/-- The steps of a place's path, as far as they matter. -/
theorem advance_path (disk : Disk) (start place : Location) :
    disk.advance true start (stepsOf (parts place.path.bytes)) =
      disk.advance true [] (place.map .named) := by
  have hparts : parts place.path.bytes = place.path.parts := rfl
  rw [hparts, Location.parts_path]
  by_cases hnil : place = []
  · rw [hnil]
    rfl
  · have hname : ∀ name : Name, stepOf name.bytes = .named name := fun name => by
      rw [stepOf, Component.ofPart?_name, Option.getD_some]
    rw [if_neg hnil, stepsOf, advance, List.map_map]
    exact congrArg _ (List.map_congr_left fun name _ => hname name)

/-- A path that the system does not take finds nothing. -/
theorem find_path_of_refused {why : OsError} (h : checkPath place.path = .error why) :
    disk.find place.path = .error why := by
  rw [find, reach, start, h]
  rfl

/-- A path of names finds what a walk along the names from the root leads to. -/
theorem find_path_of_taken (h : checkPath place.path = .ok ()) :
    disk.find place.path =
      (disk.walk true maxLinks [] (place.map .named)).bind Reached.entry := by
  rw [find, reach, start, h, ← walk_congr (advance_path disk [] place) maxLinks]
  simp only [bind, Except.bind, Location.isAbsolute_path, if_true]
  rfl

theorem find_path_eq_ok_iff {found : Location} :
    disk.find place.path = .ok found ↔ checkPath place.path = .ok () ∧
      disk.walk true maxLinks [] (place.map .named) = .ok (.present found) := by
  cases hcheck : checkPath place.path with
  | error why => simp [find_path_of_refused hcheck]
  | ok _ =>
    rw [find_path_of_taken hcheck, and_iff_right rfl]
    cases disk.walk true maxLinks [] (place.map .named) with
    | error why => simp [Except.bind]
    | ok reached => cases reached <;> simp [Except.bind, Reached.entry]

theorem settled_of_find {found : Location} (h : disk.find place.path = .ok found) :
    disk.Settled found :=
  settled_of_walk (settled_nil disk) (find_path_eq_ok_iff.1 h).2

/-- A settled place is found under its own path. -/
theorem eq_of_find_path (h : disk.Settled place) {found : Location}
    (hfind : disk.find place.path = .ok found) : found = place := by
  obtain ⟨-, hwalk⟩ := find_path_eq_ok_iff.1 hfind
  have hsettled : disk.Settled ([] ++ place) := h
  have hadvance := advance_settled hsettled []
  rw [List.append_nil, List.nil_append] at hadvance
  rcases hadvance with hadvance | hadvance
  · rw [walk_of_advance hadvance (by simp [advance]) maxLinks] at hwalk
    cases hwalk
    rfl
  · rw [walk_of_advance hadvance (by simp) maxLinks] at hwalk
    cases hwalk

/-- How far a single name leads: to its entry, to a place without one, nowhere, or to a link. -/
theorem advance_name (disk : Disk) (dir : Location) (name : Name) :
    (∃ progress, disk.advance true dir [.named name] = progress ∧
      (progress = .arrived (dir ++ [name]) ∨ progress = .vacant (dir ++ [name]) ∨
        progress = .blocked .notADirectory ∨ progress = .blocked .nameTooLong)) ∨
    ∃ target, disk.entry? (dir ++ [name]) = some (.link target) ∧
      disk.advance true dir [.named name] = .crossing dir target [] := by
  rw [advance]
  split
  · exact .inl ⟨_, rfl, .inr (.inr (.inl rfl))⟩
  · split
    · exact .inl ⟨_, rfl, .inr (.inr (.inr rfl))⟩
    · dsimp only
      split
      · exact .inl ⟨_, rfl, .inr (.inl rfl)⟩
      · next target hentry => exact .inr ⟨target, hentry, rfl⟩
      · exact .inl ⟨_, rfl, .inl rfl⟩

/-- A single name that is no link leads to its entry, or ends the walk whatever is allowed. -/
theorem walk_name (disk : Disk) (links : Nat) (dir : Location) (name : Name) :
    (∃ target, disk.entry? (dir ++ [name]) = some (.link target)) ∨
      disk.walk true links dir [.named name] ≠ .error .tooManyLinks ∧
        ∀ file, disk.walk true links dir [.named name] = .ok (.present file) →
          file = dir ++ [name] := by
  rcases advance_name disk dir name with ⟨progress, hadvance, hprogress⟩ | ⟨target, hentry, -⟩
  · right
    have hlink : ∀ dir target rest, progress ≠ .crossing dir target rest := by
      rcases hprogress with rfl | rfl | rfl | rfl <;> simp
    rw [walk_of_advance hadvance hlink links]
    rcases hprogress with rfl | rfl | rfl | rfl <;> simp [Progress.final]
  · exact .inl ⟨target, hentry⟩

/-- From a settled directory a name leads where it leads under the whole path. -/
theorem walk_settled_name {name : Name} {links : Nat} {file : Location} (h : disk.Settled dir)
    (hwalk : disk.walk true links [] ((dir ++ [name]).map .named) = .ok (.present file)) :
    disk.walk true links dir [.named name] = .ok (.present file) := by
  have hsettled : disk.Settled ([] ++ dir) := h
  rw [List.map_append, List.map_cons, List.map_nil] at hwalk
  rcases advance_settled hsettled [.named name] with hadvance | hadvance
  · rw [walk_congr hadvance links] at hwalk
    exact hwalk
  · rw [walk_of_advance hadvance (by simp) links] at hwalk
    cases hwalk

/-- A path of names finds nothing, although its last name leads somewhere from the directory that
the others lead to, only if the path is too long, or if the name is a link and too many were
crossed before it. -/
theorem find_snoc {above file : Location} {name : Name} {why : OsError}
    (habove : disk.find above.path = .ok dir)
    (htarget : disk.find (above ++ [name]).path = .error why)
    (hfile : disk.find (dir ++ [name]).path = .ok file) :
    checkPath (above ++ [name]).path = .error why ∨
      why = .tooManyLinks ∧ ∃ target, disk.entry? (dir ++ [name]) = some (.link target) := by
  obtain ⟨-, hwalkAbove⟩ := find_path_eq_ok_iff.1 habove
  obtain ⟨-, hwalkFile⟩ := find_path_eq_ok_iff.1 hfile
  have hname := walk_settled_name (settled_of_find habove) hwalkFile
  obtain ⟨crossed, hcrossed, hrest⟩ := walk_append hwalkAbove
  have hwalk : disk.walk true maxLinks [] ((above ++ [name]).map .named) =
      disk.walk true (maxLinks - crossed) dir [.named name] := by
    rw [List.map_append, ← hrest (maxLinks - crossed) [.named name] (by simp),
      Nat.sub_add_cancel hcrossed]
    rfl
  cases hcheck : checkPath (above ++ [name]).path with
  | error reason =>
    left
    rw [find_path_of_refused hcheck] at htarget
    cases htarget
    rfl
  | ok _ =>
    right
    rw [find_path_of_taken hcheck, hwalk] at htarget
    by_cases hlimit : disk.walk true (maxLinks - crossed) dir [.named name] = .error .tooManyLinks
    · rw [hlimit] at htarget
      refine ⟨(Except.error.inj htarget).symm, ?_⟩
      rcases walk_name disk (maxLinks - crossed) dir name with hlink | ⟨hno, -⟩
      · exact hlink
      · exact absurd hlimit hno
    · -- With all links allowed the name leads to the same end, so the path would find it.
      rw [walk_mono (Nat.sub_le maxLinks crossed) hlimit] at hname
      rw [hname] at htarget
      cases htarget

end OverlayChain.Disk
