import OverlayChain.Disk.FileSystem
import OverlayChain.Proofs.Path.Location

/-!
# Where walks over a disk lead

A walk that crosses links ends at a place that is led to by directories alone, and walking to that
place by its own path leads to it again without crossing any link. What remains of a walk depends
on the way before it only through the number of links that were crossed.

## Main definitions

- `Disk.Settled`: there is an entry at a place, no link, and only directories are above it.

## Main statements

- `Disk.settled_of_walk`: walks end at settled places.
- `Disk.advance_settled`: a settled place is reached by its own names.
- `Disk.walk_append`: the end of a walk, after its beginning.
- `Disk.walk_mono`: a walk that is allowed more links ends where it did.
-/

namespace OverlayChain.Disk

variable {disk : Disk} {place dir : Location}

/-- There is an entry at the place that is no link, and the places above are directories. -/
structure Settled (disk : Disk) (place : Location) : Prop where
  above : ∀ n < place.length, disk.isDirectory (place.take n) = true
  entry : ∃ entry, disk.entry? place = some entry ∧ ∀ target, entry ≠ .link target

theorem isDirectory_iff : disk.isDirectory place = true ↔ disk.entry? place = some .directory := by
  rw [isDirectory]
  split
  · next h => simp [h]
  · next h => simpa using h

theorem settled_nil (disk : Disk) : disk.Settled [] :=
  ⟨fun n hn => absurd hn (Nat.not_lt_zero n), .directory, rfl, fun _ h => by cases h⟩

/-- An entry of a settled directory is settled unless it is a link. -/
theorem Settled.snoc (h : disk.Settled place) (hdir : disk.isDirectory place = true) {name : Name}
    {entry : Entry} (hentry : disk.entry? (place ++ [name]) = some entry)
    (hlink : ∀ target, entry ≠ .link target) : disk.Settled (place ++ [name]) := by
  refine ⟨?_, entry, hentry, hlink⟩
  intro n hn
  rw [List.length_append, List.length_singleton] at hn
  by_cases hlt : n < place.length
  · rw [List.take_append_of_le_length (Nat.le_of_lt hlt)]
    exact h.above n hlt
  · have hn : n = place.length := by omega
    rw [hn, List.take_left]
    exact hdir

/-- The directories above a settled place are settled. -/
theorem Settled.take (h : disk.Settled place) {n : Nat} (hn : n < place.length) :
    disk.Settled (place.take n) := by
  refine ⟨?_, .directory, isDirectory_iff.1 (h.above n hn), fun _ h => by cases h⟩
  intro k hk
  rw [List.length_take] at hk
  rw [List.take_take, Nat.min_eq_left (by omega)]
  exact h.above k (by omega)

theorem Settled.dropLast (h : disk.Settled place) : disk.Settled place.dropLast := by
  rcases List.eq_nil_or_concat place with rfl | ⟨above, name, rfl⟩
  · exact h
  · rw [List.dropLast_eq_take]
    exact h.take (by simp)

/-- How far a walk gets from a settled place, when links are followed. -/
theorem settled_of_advance (h : disk.Settled place) (steps : List Component) :
    (∀ arrival, disk.advance true place steps = .arrived arrival → disk.Settled arrival) ∧
    (∀ dir target rest, disk.advance true place steps = .crossing dir target rest →
      disk.Settled dir ∧ disk.isDirectory dir = true) := by
  induction steps generalizing place with
  | nil =>
    constructor
    · intro arrival harrival
      cases harrival
      exact h
    · intro dir target rest hcrossing
      cases hcrossing
  | cons step rest ih =>
    cases step with
    | root => exact ih (settled_nil disk)
    | here =>
      rw [advance]
      split
      · exact ih h
      · simp
    | up =>
      rw [advance]
      split
      · exact ih h.dropLast
      · simp
    | named name =>
      rw [advance]
      split
      · simp
      · next hdir =>
        have hdir : disk.isDirectory place = true := by simpa using hdir
        -- A link is followed even at the end, so the walk only ever arrives at what is no link.
        split
        · simp
        · dsimp only
          split
          · split
            · simp
            · simp
          · simp only [Bool.not_true, Bool.and_false, Bool.false_eq_true, if_false]
            constructor
            · intro arrival harrival
              cases harrival
            · intro dir target rest hcrossing
              cases hcrossing
              exact ⟨h, hdir⟩
          · next entry hlink hentry => exact ih (h.snoc hdir hentry hlink)

/-- Where a walk leads depends only on how far it gets without crossing a link. -/
theorem walk_congr {start : Location} {steps others : List Component}
    (h : disk.advance true place steps = disk.advance true start others) (links : Nat) :
    disk.walk true links place steps = disk.walk true links start others := by
  cases links with
  | zero => rw [walk, walk, h]
  | succ links => rw [walk, walk, h]

/-- A walk that meets no link ends where it gets. -/
theorem walk_of_advance {steps : List Component} {progress : Progress}
    (h : disk.advance true place steps = progress)
    (hlink : ∀ dir target rest, progress ≠ .crossing dir target rest) (links : Nat) :
    disk.walk true links place steps = progress.final := by
  cases links with
  | zero => rw [walk, h]
  | succ links =>
    rw [walk, h]
    cases progress with
    | crossing dir target rest => exact absurd rfl (hlink dir target rest)
    | _ => rfl

/-- A walk that follows links ends at a settled place, if there is an entry. -/
theorem settled_of_walk {links : Nat} {steps : List Component} {arrival : Location}
    (h : disk.Settled place) (hwalk : disk.walk true links place steps = .ok (.present arrival)) :
    disk.Settled arrival := by
  -- Each link that is crossed leaves one fewer, and the walk goes on from where it lay.
  induction links generalizing place steps with
  | zero =>
    rw [walk] at hwalk
    cases hadvance : disk.advance true place steps with
    | arrived reached =>
      rw [hadvance] at hwalk
      cases hwalk
      exact (settled_of_advance h steps).1 _ hadvance
    | _ => rw [hadvance] at hwalk; cases hwalk
  | succ links ih =>
    rw [walk] at hwalk
    cases hadvance : disk.advance true place steps with
    | arrived reached =>
      rw [hadvance] at hwalk
      cases hwalk
      exact (settled_of_advance h steps).1 _ hadvance
    | crossing dir target rest =>
      rw [hadvance] at hwalk
      exact ih ((settled_of_advance h steps).2 _ _ _ hadvance).1 hwalk
    | _ => rw [hadvance] at hwalk; cases hwalk

/-- A settled place is reached by its own names, and the walk goes on from there. Only a name that
is too long ends it. -/
theorem advance_settled {names : List Name} (h : disk.Settled (place ++ names))
    (steps : List Component) :
    disk.advance true place (names.map .named ++ steps) =
        disk.advance true (place ++ names) steps ∨
      disk.advance true place (names.map .named ++ steps) = .blocked .nameTooLong := by
  induction names generalizing place with
  | nil => simp
  | cons name names ih =>
    -- What lies above a settled place is a directory, so the name leads on and is no link.
    have hdir : disk.isDirectory place = true := by
      have habove := h.above place.length (by simp)
      rwa [List.take_left] at habove
    have hsplit : place ++ name :: names = (place ++ [name]) ++ names := by simp
    rw [hsplit] at h ⊢
    obtain ⟨entry, hentry, hlink⟩ : ∃ entry, disk.entry? (place ++ [name]) = some entry ∧
        ∀ target, entry ≠ .link target := by
      cases names with
      | nil => simpa using h.entry
      | cons next names =>
        have hnext := h.take (n := (place ++ [name]).length) (by simp)
        rw [List.take_left] at hnext
        exact hnext.entry
    rw [List.map_cons, List.cons_append, advance, if_neg (by simp [hdir])]
    split
    · exact .inr rfl
    · dsimp only
      rw [hentry]
      cases entry with
      | link target => exact absurd rfl (hlink target)
      | directory => exact ih h
      | file content => exact ih h

/-- What more steps do after a walk got somewhere: they go on from where it arrived, they are left
for after a link, and they do not help a walk that ended early. -/
def Progress.followedBy (disk : Disk) (more : List Component) : Progress → Progress
  | arrived place => disk.advance true place more
  | vacant _ => blocked .noEntry
  | blocked why => blocked why
  | crossing dir target rest => crossing dir target (rest ++ more)

theorem advance_append (disk : Disk) (place : Location) (steps : List Component)
    {more : List Component} (hmore : more ≠ []) : disk.advance true place (steps ++ more) =
      (disk.advance true place steps).followedBy disk more := by
  induction steps generalizing place with
  | nil => rfl
  | cons step rest ih =>
    rw [List.cons_append]
    cases step with
    | root => exact ih []
    | here =>
      rw [advance, advance]
      split
      · exact ih place
      · rfl
    | up =>
      rw [advance, advance]
      split
      · exact ih place.dropLast
      · rfl
    | named name =>
      rw [advance, advance]
      split
      · rfl
      · split
        · rfl
        · dsimp only
          split
          · rw [if_neg (by simp [hmore])]
            split
            · rfl
            · rfl
          · simp [Progress.followedBy]
          · exact ih (place ++ [name])

theorem walk_append_of_arrived {steps more : List Component} {arrival : Location}
    (h : disk.advance true place steps = .arrived arrival) (hmore : more ≠ []) (left : Nat) :
    disk.walk true left place (steps ++ more) = disk.walk true left arrival more := by
  have happend := advance_append disk place steps hmore
  rw [h, Progress.followedBy] at happend
  exact walk_congr happend left

/-- The end of a walk goes on from where its beginning arrived, with the links that are left. -/
theorem walk_append {links : Nat} {steps : List Component} {arrival : Location}
    (h : disk.walk true links place steps = .ok (.present arrival)) :
    ∃ crossed ≤ links, ∀ left more, more ≠ [] →
      disk.walk true (left + crossed) place (steps ++ more) = disk.walk true left arrival more := by
  induction links generalizing place steps with
  | zero =>
    rw [walk] at h
    cases hadvance : disk.advance true place steps with
    | arrived reached =>
      rw [hadvance] at h
      cases h
      exact ⟨0, Nat.le_refl 0, fun left more hmore => walk_append_of_arrived hadvance hmore left⟩
    | _ => rw [hadvance] at h; cases h
  | succ links ih =>
    rw [walk] at h
    cases hadvance : disk.advance true place steps with
    | arrived reached =>
      rw [hadvance] at h
      cases h
      exact ⟨0, Nat.zero_le _, fun left more hmore => walk_append_of_arrived hadvance hmore left⟩
    | crossing dir target rest =>
      rw [hadvance] at h
      obtain ⟨crossed, hcrossed, hrest⟩ := ih h
      refine ⟨crossed + 1, by omega, ?_⟩
      intro left more hmore
      -- The new steps stay behind the rest of the old ones, after the target of the link.
      rw [← Nat.add_assoc, walk, advance_append disk place steps hmore, hadvance]
      change disk.walk true (left + crossed) dir (stepsOf (parts target) ++ (rest ++ more)) = _
      rw [← List.append_assoc]
      exact hrest left more hmore
    | _ => rw [hadvance] at h; cases h

/-- A walk that is allowed one link more ends where it did. -/
theorem walk_succ {links : Nat} {steps : List Component}
    (h : disk.walk true links place steps ≠ .error .tooManyLinks) :
    disk.walk true (links + 1) place steps = disk.walk true links place steps := by
  induction links generalizing place steps with
  | zero =>
    rw [walk] at h
    rw [walk, walk]
    cases hadvance : disk.advance true place steps with
    | crossing dir target rest =>
      rw [hadvance] at h
      exact absurd rfl h
    | _ => rfl
  | succ links ih =>
    rw [walk] at h
    rw [walk, walk]
    cases hadvance : disk.advance true place steps with
    | crossing dir target rest =>
      rw [hadvance] at h
      exact ih h
    | _ => rfl

theorem walk_mono {links more : Nat} {steps : List Component} (hle : links ≤ more)
    (h : disk.walk true links place steps ≠ .error .tooManyLinks) :
    disk.walk true more place steps = disk.walk true links place steps := by
  induction hle with
  | refl => rfl
  | step _ ih => rw [walk_succ (ih ▸ h), ih]

end OverlayChain.Disk
