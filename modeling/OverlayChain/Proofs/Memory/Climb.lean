import Mathlib.Data.List.Induction
import OverlayChain.Proofs.Memory.Requests

/-!
# Directories made from below

To make a place a directory, a store makes the place one and then the places above it, and stops at
the first that is one already. Where there is a directory above each directory nothing is missing
above that one, so all places above are directories in the end.

## Main definitions

- `Memory.Closed`: there is a directory above each directory.
- `Memory.withDirectories`: a place and all places above it made directories.

## Main statements

- `Memory.Closed.isDir_climb_iff`: what is a directory after a climb.
- `Memory.Closed.isDir_climb`: to stop at the first directory misses none.
-/

namespace OverlayChain.Memory

variable {m : Memory} {dir top place : Location} {name : Name}

/-- There is a directory above each directory. -/
def Closed (m : Memory) : Prop :=
  ∀ place above : Location, m.isDir place = true → above <+: place → m.isDir above = true

/-- Make a place and all places above it directories, whether they are there or not. -/
def withDirectories (m : Memory) (place : Location) : Memory :=
  { m with dirs := ancestors place ++ m.dirs }

section Ancestors

/-- Nothing below a place is above it. -/
theorem not_prefix_of_snoc (above : Location) (name : Name) : ¬ above ++ [name] <+: above := by
  intro hprefix
  have hle := hprefix.length_le
  rw [List.length_append, List.length_singleton] at hle
  omega

theorem ancestors_snoc (above : Location) (name : Name) :
    ancestors (above ++ [name]) = (above ++ [name]) :: ancestors above := by
  have htop : (above ++ [name]).take (above.length + 1) = above ++ [name] := by
    rw [List.take_of_length_le (by simp)]
  rw [ancestors, List.length_append, List.length_singleton, List.range_succ, List.reverse_concat,
    List.map_cons, htop, ancestors]
  refine congrArg ((above ++ [name]) :: ·) (List.map_congr_left fun n hn => ?_)
  rw [List.mem_reverse, List.mem_range] at hn
  exact List.take_append_of_le_length (Nat.le_of_lt_succ hn)

theorem mem_ancestors : place ∈ ancestors top ↔ place <+: top := by
  -- From below means from the right end of the place.
  induction top using List.reverseRecOn with
  | nil => simp [ancestors]
  | append_singleton above name ih =>
    rw [ancestors_snoc, List.mem_cons, ih, List.prefix_concat_iff]

end Ancestors

theorem isDir_withDirectory :
    (m.withDirectory dir).isDir place = true ↔ place = dir ∨ m.isDir place = true := by
  simp only [isDir, withDirectory, List.contains_cons, Bool.or_eq_true, beq_iff_eq]
  exact or_left_comm

theorem isDir_withDirectories_iff :
    (m.withDirectories top).isDir place = true ↔ m.isDir place = true ∨ place <+: top := by
  simp only [isDir, withDirectories, Bool.or_eq_true, List.contains_iff_mem, List.mem_append,
    mem_ancestors]
  rw [or_assoc]
  exact or_congr_right or_comm

section Climbing

@[simp] theorem files_makeMissing (m : Memory) (places : List Location) :
    (m.makeMissing places).files = m.files := by
  induction places generalizing m with
  | nil => rfl
  | cons dir above ih =>
    rw [makeMissing]
    split
    · rfl
    · exact ih _

@[simp] theorem files_climb (m : Memory) (place : Location) : (m.climb place).files = m.files :=
  files_makeMissing m _

/-- Only what is missing is listed, so nothing is listed twice. -/
theorem nodup_makeMissing (h : m.dirs.Nodup) (places : List Location) :
    (m.makeMissing places).dirs.Nodup := by
  induction places generalizing m with
  | nil => exact h
  | cons dir above ih =>
    rw [makeMissing]
    split
    · exact h
    · next hmissing =>
      refine ih (List.nodup_cons.2 ⟨fun hmem => hmissing ?_, h⟩)
      simp [isDir, hmem]

theorem climb_of_isDir (h : m.isDir top = true) : m.climb top = m := by
  rcases List.eq_nil_or_concat top with rfl | ⟨above, name, rfl⟩
  · rfl
  · rw [List.concat_eq_append] at h ⊢
    rw [climb, ancestors_snoc, makeMissing, if_pos h]

theorem climb_snoc (h : m.isDir (top ++ [name]) = false) :
    m.climb (top ++ [name]) = (m.withDirectory (top ++ [name])).climb top := by
  rw [climb, ancestors_snoc, makeMissing, if_neg (by rw [h]; exact Bool.false_ne_true), climb]

/-- A directory that is not on the way does not change how far a climb goes. -/
theorem isDir_climb_withDirectory (h : ¬ dir <+: top) :
    ((m.withDirectory dir).climb top).isDir place = true ↔
      place = dir ∨ (m.climb top).isDir place = true := by
  induction top using List.reverseRecOn generalizing m dir with
  | nil => rw [climb_of_isDir (isDir_nil _), climb_of_isDir (isDir_nil m), isDir_withDirectory]
  | append_singleton above name ih =>
    have hne : above ++ [name] ≠ dir := by
      rintro rfl
      exact h (List.prefix_refl _)
    have habove : ¬ dir <+: above := fun hbelow => h (hbelow.trans (List.prefix_append _ _))
    cases hdir : m.isDir (above ++ [name]) with
    | true => rw [climb_of_isDir (isDir_withDirectory.2 (.inr hdir)), climb_of_isDir hdir,
        isDir_withDirectory]
    | false =>
      have hmissing : (m.withDirectory dir).isDir (above ++ [name]) = false := by
        rw [← Bool.not_eq_true, isDir_withDirectory, hdir]
        simpa using hne
      rw [climb_snoc hmissing, climb_snoc hdir, ih (not_prefix_of_snoc _ _), ih habove,
        ih (not_prefix_of_snoc _ _)]
      exact or_left_comm

/-- Above the first directory that is there nothing is missing, so it is enough to climb to it. -/
theorem Closed.isDir_climb_iff (h : m.Closed) :
    (m.climb top).isDir place = true ↔ m.isDir place = true ∨ place <+: top := by
  induction top using List.reverseRecOn with
  | nil =>
    rw [climb_of_isDir (isDir_nil m), List.prefix_nil]
    refine ⟨.inl, ?_⟩
    rintro (hdir | rfl)
    · exact hdir
    · exact isDir_nil m
  | append_singleton above name ih =>
    cases hdir : m.isDir (above ++ [name]) with
    | true =>
      -- The climb stops here, and this is right only where there are directories above.
      rw [climb_of_isDir hdir]
      refine ⟨.inl, ?_⟩
      rintro (hplace | hprefix)
      · exact hplace
      · exact h _ place hdir hprefix
    | false =>
      rw [climb_snoc hdir, isDir_climb_withDirectory (not_prefix_of_snoc _ _), ih,
        List.prefix_concat_iff]
      exact or_left_comm

/-- To stop at the first directory misses none of the places above. -/
theorem Closed.isDir_climb (h : m.Closed) (top place : Location) :
    (m.climb top).isDir place = (m.withDirectories top).isDir place := by
  rw [Bool.eq_iff_iff, h.isDir_climb_iff, isDir_withDirectories_iff]

end Climbing

end OverlayChain.Memory
