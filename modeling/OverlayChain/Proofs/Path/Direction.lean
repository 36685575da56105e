import Mathlib.Data.List.Induction
import OverlayChain.Proofs.Path.Location

/-!
# Paths that go up, and paths that go down

A relative path whose parts say no name leads to a place above its start. One that names something
and never goes up leads to a place below. A path that does not rise above its start leads to the
same place below it, wherever the start is.

## Main definitions

- `Path.Climbs`: no part of the path is a name.
- `Path.Descends`: the path names something, and no part of it is a `..`.
- `Path.StaysBelow`: the path does not rise above a place from which it is taken.

## Main statements

- `Location.walk_of_climbs`: climbing leads above the start.
- `Location.exists_walk_of_descends`: descending leads below it.
- `Location.walk_of_foldl_step`: a path that stays below leads to the same place from everywhere.
-/

namespace OverlayChain

variable {p : Path} {top start names : Location}

namespace Path

/-- Every part of the path is empty, a `.` or a `..`. -/
def Climbs (p : Path) : Prop :=
  ∀ part ∈ p.parts, part ∈ [[], Text.encode ".", Text.encode ".."]

instance (p : Path) : Decidable p.Climbs := inferInstanceAs (Decidable (∀ part ∈ _, _))

/-- The path names something, and no part of it is a `..`. -/
structure Descends (p : Path) : Prop where
  named : ∃ name, .named name ∈ p.components
  up_not_mem : .up ∉ p.components

/-- Taken from `start`, which lies below some top, the path does not rise above that top. A `..` at
the top does, even if the top is the root. As nothing brings the path back, it is enough to look at
where all of it leads. An absolute path does not stay below. -/
def StaysBelow (p : Path) (start : Location) : Prop :=
  ∃ names, p.components.foldl Lexical.step (.relative 0 start) = .relative 0 names

instance (p : Path) (start : Location) : Decidable (p.StaysBelow start) :=
  match h : p.components.foldl Lexical.step (.relative 0 start) with
  | .relative 0 names => .isTrue ⟨names, h⟩
  | .relative (_ + 1) _ => .isFalse fun ⟨_, hstays⟩ => nomatch h.symm.trans hstays
  | .absolute _ => .isFalse fun ⟨_, hstays⟩ => nomatch h.symm.trans hstays

theorem root_not_mem_components (h : p.isAbsolute = false) : .root ∉ p.components := by
  have hsteps : .root ∉ p.steps := by
    intro hmem
    obtain ⟨part, -, hpart⟩ := List.mem_filterMap.1 hmem
    rw [Component.ofPart?] at hpart
    split at hpart
    · cases hpart
    · simp at hpart
  rcases components_of_not_isAbsolute h with hc | hc
  · rwa [hc]
  · simpa [hc] using hsteps

end Path

namespace Lexical

/-- What was read of a path that stays below stayed below. -/
theorem exists_of_foldl_step {rest : List Component} {reached : Lexical}
    (h : rest.foldl step reached = .relative 0 names) : ∃ between, reached = .relative 0 between := by
  -- Neither the levels above the top nor the start at the root are ever taken back.
  induction rest generalizing reached with
  | nil => exact ⟨names, h⟩
  | cons c rest ih =>
    obtain ⟨between, hstep⟩ := ih h
    cases reached with
    | absolute found => cases c <;> cases hstep
    | relative ups found =>
      cases c with
      | root => cases hstep
      | here => exact ⟨_, hstep⟩
      | named name =>
        cases hstep
        exact ⟨found, rfl⟩
      | up =>
        rw [step] at hstep
        split at hstep
        · cases hstep
        · cases hstep
          exact ⟨found, rfl⟩

/-- One step that does not rise above a top leads to the same place below it, wherever it is. -/
theorem step_append {c : Component} (h : step (.relative 0 start) c = .relative 0 names)
    (top : Location) : Location.step (top ++ start) c = top ++ names := by
  cases c with
  | root => cases h
  | here =>
    cases h
    rfl
  | named name =>
    cases h
    exact List.append_assoc top start [name]
  | up =>
    rw [step] at h
    split at h
    · cases h
    · next hne =>
      cases h
      exact List.dropLast_append_of_ne_nil (by simpa using hne)

end Lexical

theorem Path.StaysBelow.isAbsolute (h : p.StaysBelow start) : p.isAbsolute = false := by
  obtain ⟨names, hnames⟩ := h
  by_contra habs
  rw [components_of_isAbsolute (by simpa using habs), List.foldl_cons] at hnames
  obtain ⟨between, hroot⟩ := Lexical.exists_of_foldl_step hnames
  cases hroot

namespace Location

/-- A path that does not rise above a top leads to the same place below it, wherever it is. -/
theorem walk_of_foldl_step
    (h : p.components.foldl Lexical.step (.relative 0 start) = .relative 0 names) (top : Location) :
    walk (top ++ start) p = top ++ names := by
  rw [walk]
  generalize p.components = steps at h
  induction steps generalizing start with
  | nil =>
    cases h
    rfl
  | cons c rest ih =>
    rw [List.foldl_cons] at h
    obtain ⟨between, hstep⟩ := Lexical.exists_of_foldl_step h
    rw [List.foldl_cons, Lexical.step_append hstep top]
    exact ih (hstep ▸ h)

/-- Climbing leads above the start. -/
theorem walk_of_climbs (h : p.Climbs) (hrelative : p.isAbsolute = false) (place : Location) :
    walk place p <+: place := by
  rw [walk_of_not_isAbsolute hrelative, Path.steps]
  unfold Path.Climbs at h
  generalize p.parts = parts at h
  induction parts generalizing place with
  | nil => exact List.prefix_refl place
  | cons part parts ih =>
    obtain ⟨hpart, hparts⟩ := List.forall_mem_cons.1 h
    have hpart : part = [] ∨ part = Text.encode "." ∨ part = Text.encode ".." := by simpa using hpart
    rcases hpart with rfl | rfl | rfl
    · exact ih place hparts
    · exact ih place hparts
    · exact (ih place.dropLast hparts).trans (List.dropLast_prefix place)

/-- Without a step up, all names are taken. -/
theorem exists_foldl_step {cs : List Component} (hroot : .root ∉ cs) (hup : .up ∉ cs)
    (place : Location) :
    ∃ names : Location, cs.foldl step place = place ++ names ∧
      ∀ name, .named name ∈ cs → name ∈ names := by
  induction cs generalizing place with
  | nil => exact ⟨[], by simp, by simp⟩
  | cons c cs ih =>
    rw [List.mem_cons, not_or] at hroot hup
    cases c with
    | root => exact absurd rfl hroot.1
    | up => exact absurd rfl hup.1
    | here =>
      obtain ⟨names, hwalk, hnames⟩ := ih hroot.2 hup.2 place
      refine ⟨names, hwalk, ?_⟩
      simpa using hnames
    | named first =>
      obtain ⟨names, hwalk, hnames⟩ := ih hroot.2 hup.2 (place ++ [first])
      refine ⟨first :: names, ?_, ?_⟩
      · rw [List.foldl_cons, step, hwalk, List.append_assoc, List.singleton_append]
      · intro name hmem
        rcases List.mem_cons.1 hmem with hfirst | hrest
        · cases hfirst
          exact List.mem_cons_self
        · exact List.mem_cons_of_mem first (hnames name hrest)

/-- Descending leads below the start. -/
theorem exists_walk_of_descends (h : p.Descends) (hrelative : p.isAbsolute = false)
    (place : Location) : ∃ names : Location, names ≠ [] ∧ walk place p = place ++ names := by
  obtain ⟨name, hname⟩ := h.named
  obtain ⟨names, hwalk, hnames⟩ :=
    exists_foldl_step (Path.root_not_mem_components hrelative) h.up_not_mem place
  exact ⟨names, List.ne_nil_of_mem (hnames name hname), hwalk⟩

end Location

end OverlayChain
