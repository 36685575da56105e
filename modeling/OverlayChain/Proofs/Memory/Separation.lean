import OverlayChain.Proofs.Memory.History

/-!
# Files and directories apart

A change is refused if the path that it is given is a file where it needs a directory, or a
directory where it needs a file. Above that path it adds directories without a look at the files
there. So a file may come to be a directory as well, and this is the only way: histories in which
nothing is added below a file keep files and directories apart.

## Main definitions

- `Memory.Holds`: there is an entry at a place.
- `Memory.Separated`: no place is a file and a directory, and no file is above an entry.
- `Memory.Buries`: a change that adds something below a file.

## Main statements

- `Memory.Separated.ask_iff`: which changes keep files and directories apart.
- `Memory.Separated.after_iff`: which histories do.
- `Memory.separated_after_iff`: the same for a new store.
-/

namespace OverlayChain.Memory

/-- There is a directory or a file at a place. -/
def Holds (m : Memory) (place : Location) : Prop :=
  m.isDir place = true ∨ ∃ content, m.content? place = some content

/-- No place is both a file and a directory, and no place above a file or a directory is a file. -/
structure Separated (m : Memory) : Prop where
  apart : ∀ place, m.isDir place = true → m.content? place = none
  clear : ∀ place above, m.Holds place → above <+: place → above ≠ place → m.content? above = none

/-- The first path leads to a place below that of the second one. -/
def Below (path top : Path) : Prop :=
  (normalized path).isWithin (normalized top) = true ∧ normalized path ≠ normalized top

/-- The change adds something below a path. -/
def Change.AddsBelow (top : Path) : Change → Prop
  | .addFile path _ => Below path top
  | .addDirectory path => Below path top
  | .remove _ => False

/-- The change adds something below a file of the store. -/
def Buries (m : Memory) (change : Change) : Prop :=
  ∃ top content, change.AddsBelow top ∧ m.read top = .ok content

variable {m m' : Memory} {change : Change} {changes : List Change} {above : Location}
  {path top : Path} {content : ByteArray}

section Below

theorem below_path_iff : Below path above.path ↔ above <+: place path ∧ above ≠ place path := by
  rw [Below, isWithin_normalized_iff, ne_eq, normalized_eq_iff, place_path, eq_comm]

theorem below_place_iff : Below path (place top).path ↔ Below path top := by
  have htop : normalized (place top).path = normalized top := by
    rw [normalized_eq_iff, place_path]
  rw [Below, htop]
  exact Iff.rfl

theorem addsBelow_place_iff : change.AddsBelow (place top).path ↔ change.AddsBelow top := by
  cases change with
  | addFile path content => exact below_place_iff
  | addDirectory path => exact below_place_iff
  | remove path => exact Iff.rfl

/-- Whether something is buried depends on the places of the files alone. -/
theorem buries_iff :
    m.Buries change ↔ ∃ (above : Location) (content : ByteArray),
      change.AddsBelow above.path ∧ m.content? above = some content := by
  constructor
  · rintro ⟨top, content, hbelow, hread⟩
    exact ⟨place top, content, addsBelow_place_iff.2 hbelow, read_eq_ok_iff.1 hread⟩
  · rintro ⟨above, content, hbelow, hcontent⟩
    refine ⟨above.path, content, hbelow, read_eq_ok_iff.2 ?_⟩
    rwa [place_path]

theorem content?_of_not_buries (h : ¬ m.Buries change) (hbelow : change.AddsBelow above.path) :
    m.content? above = none := by
  rw [Option.eq_none_iff_forall_ne_some]
  intro content hcontent
  exact h (buries_iff.2 ⟨above, content, hbelow, hcontent⟩)

end Below

section Steps

/-- Above each entry of a store that was built there is a directory. -/
theorem Built.isDir_above (h : m.Built) {entry : Location} (hholds : m.Holds entry)
    (habove : above <+: entry) (hne : above ≠ entry) : m.isDir above = true := by
  rcases hholds with hdir | ⟨content, hcontent⟩
  · exact h.isDir_prefix hdir habove
  · refine h.isDir_prefix (h.isDir_dropLast hcontent) ?_
    rcases List.eq_nil_or_concat entry with hnil | ⟨dir, name, hentry⟩
    · rw [hnil, List.prefix_nil] at habove
      exact absurd (habove.trans hnil.symm) hne
    · rw [List.concat_eq_append] at hentry
      rw [hentry, List.prefix_concat_iff] at habove
      rw [hentry, List.dropLast_concat]
      exact habove.resolve_left fun heq => hne (heq.trans hentry.symm)

/-- A file keeps files and directories apart if there is no file above it. -/
theorem Separated.addFile (hsep : m.Separated) (hbuilt : m.Built)
    (h : m.addFile path content = .ok m') (hbury : ¬ m.Buries (.addFile path content)) :
    m'.Separated := by
  have hno := isDir_place_of_addFile h
  have hfree : ∀ above : Location, above <+: place path → above ≠ place path →
      m.content? above = none := fun above habove hne =>
    content?_of_not_buries hbury (below_path_iff.2 ⟨habove, hne⟩)
  constructor
  · intro dir hdir
    rw [hbuilt.closed.isDir_addFile h] at hdir
    rw [content?_addFile h]
    rcases hdir with hdir | ⟨habove, hne⟩
    · have hother : dir ≠ place path := by
        rintro rfl
        rw [hno] at hdir
        cases hdir
      rw [if_neg hother]
      exact hsep.apart dir hdir
    · rw [if_neg (Ne.symm hne)]
      exact hfree dir habove (Ne.symm hne)
  · intro entry above hholds habove hne
    have hold : m.Holds entry ∨ entry <+: place path := by
      rcases hholds with hdir | ⟨found, hfound⟩
      · rw [hbuilt.closed.isDir_addFile h] at hdir
        exact hdir.imp Or.inl And.left
      · rw [content?_addFile h] at hfound
        split at hfound
        · next heq => exact .inr (heq ▸ List.prefix_refl _)
        · exact .inl (.inr ⟨found, hfound⟩)
    -- The new file is above no entry, or there would have been a directory at its place.
    have hother : above ≠ place path := by
      rintro rfl
      rcases hold with hold | hbelow
      · rw [hbuilt.isDir_above hold habove hne] at hno
        cases hno
      · exact hne (habove.eq_of_length_le hbelow.length_le)
    rw [content?_addFile h, if_neg hother]
    rcases hold with hold | hbelow
    · exact hsep.clear entry above hold habove hne
    · exact hfree above (habove.trans hbelow) hother

/-- A directory keeps files and directories apart if there is no file above it. -/
theorem Separated.addDirectory (hsep : m.Separated) (hbuilt : m.Built)
    (h : m.addDirectory path = .ok m') (hbury : ¬ m.Buries (.addDirectory path)) : m'.Separated := by
  have hfree : ∀ above : Location, above <+: place path → m.content? above = none := by
    intro above habove
    by_cases heq : above = place path
    · rw [heq]
      exact content?_place_of_addDirectory h
    · exact content?_of_not_buries hbury (below_path_iff.2 ⟨habove, heq⟩)
  constructor
  · intro dir hdir
    rw [hbuilt.closed.isDir_addDirectory h] at hdir
    rw [content?_addDirectory h]
    rcases hdir with hdir | habove
    · exact hsep.apart dir hdir
    · exact hfree dir habove
  · intro entry above hholds habove hne
    rw [content?_addDirectory h]
    rcases hholds with hdir | ⟨found, hfound⟩
    · rw [hbuilt.closed.isDir_addDirectory h] at hdir
      rcases hdir with hdir | hbelow
      · exact hsep.clear entry above (.inl hdir) habove hne
      · exact hfree above (habove.trans hbelow)
    · rw [content?_addDirectory h] at hfound
      exact hsep.clear entry above (.inr ⟨found, hfound⟩) habove hne

/-- A removal keeps files and directories apart. -/
theorem Separated.removeBelow (hsep : m.Separated) (place : Location) :
    (m.removeBelow place).Separated := by
  have hcovers : m.Covers (m.removeBelow place) := (Covers.refl m).removeBelow place
  have hnone : ∀ other, m.content? other = none → (m.removeBelow place).content? other = none := by
    intro other hother
    rw [content?_removeBelow, hother, ite_self]
  constructor
  · exact fun dir hdir => hnone dir (hsep.apart dir (hcovers.isDir dir hdir))
  · intro entry above hholds habove hne
    have hold : m.Holds entry := hholds.imp (hcovers.isDir entry) fun ⟨found, hfound⟩ =>
      ⟨found, hcovers.content? entry found hfound⟩
    exact hnone above (hsep.clear entry above hold habove hne)

/-- A change that adds something below a file is not refused, and makes the file a directory. -/
theorem Separated.not_of_buries (hsep : m.Separated) (hbuilt : m.Built) (h : m.Buries change) :
    ¬ (m.ask change).2.Separated := by
  obtain ⟨above, content, hbelow, hcontent⟩ := buries_iff.1 h
  intro hafter
  -- Below a file there was no entry that the change could have met.
  have hnothing : ∀ place : Location, above <+: place → above ≠ place → ¬ m.Holds place := by
    intro place habove hne hholds
    rw [hsep.clear place above hholds habove hne] at hcontent
    cases hcontent
  cases change with
  | addFile path added =>
    obtain ⟨habove, hne⟩ := below_path_iff.1 hbelow
    have hadd : m.addFile path added = .ok (m.ask (.addFile path added)).2 := by
      refine eq_ok_of_ended ?_
      rw [Memory.addFile, if_neg fun hdir => hnothing _ habove hne (.inl hdir)]
      rfl
    have hnone := hafter.apart above ((hbuilt.closed.isDir_addFile hadd).2 (.inr ⟨habove, Ne.symm hne⟩))
    rw [content?_addFile hadd, if_neg hne, hcontent] at hnone
    cases hnone
  | addDirectory path =>
    obtain ⟨habove, hne⟩ := below_path_iff.1 hbelow
    have hadd : m.addDirectory path = .ok (m.ask (.addDirectory path)).2 := by
      refine eq_ok_of_ended ?_
      rw [Memory.addDirectory, if_neg fun hfile =>
        hnothing _ habove hne (.inr (Option.isSome_iff_exists.1 hfile))]
      rfl
    have hnone := hafter.apart above ((hbuilt.closed.isDir_addDirectory hadd).2 (.inr habove))
    rw [content?_addDirectory hadd, hcontent] at hnone
    cases hnone
  | remove path => exact hbelow

/-- A change keeps files and directories apart exactly if it adds nothing below a file. -/
theorem Separated.ask_iff (hsep : m.Separated) (hbuilt : m.Built) :
    (m.ask change).2.Separated ↔ ¬ m.Buries change := by
  constructor
  · exact fun hafter hbury => hsep.not_of_buries hbuilt hbury hafter
  · intro hbury
    cases hask : (m.ask change).1 with
    | error error => rwa [ask_of_error hask]
    | ok _ =>
      cases changed_of_ask hask with
      | addFile hadd => exact hsep.addFile hbuilt hadd hbury
      | addDirectory hadd => exact hsep.addDirectory hbuilt hadd hbury
      | remove path => exact hsep.removeBelow _

end Steps

/-- Files and directories stay apart all along a history exactly if none of its changes adds
something below a file that is there at the time. -/
theorem Separated.after_iff (hsep : m.Separated) (hbuilt : m.Built) :
    (∀ part, part <+: changes → (m.after part).Separated) ↔
      ∀ before change later, changes = before ++ change :: later →
        ¬ (m.after before).Buries change := by
  induction changes generalizing m with
  | nil => simpa [after] using hsep
  | cons first changes ih =>
    have hnext : (m.ask first).2.Built := hbuilt.after [first]
    constructor
    · intro h before change later hsplit
      have hkept : (m.ask first).2.Separated :=
        h [first] (List.cons_prefix_cons.2 ⟨rfl, List.nil_prefix⟩)
      cases before with
      | nil =>
        cases hsplit
        exact (hsep.ask_iff hbuilt).1 hkept
      | cons other before =>
        cases hsplit
        refine (ih hkept hnext).1 (fun part hpart => ?_) before change later rfl
        exact h (first :: part) (List.cons_prefix_cons.2 ⟨rfl, hpart⟩)
    · intro h part hpart
      have hkept : (m.ask first).2.Separated := (hsep.ask_iff hbuilt).2 (h [] first changes rfl)
      cases part with
      | nil => exact hsep
      | cons other part =>
        obtain ⟨rfl, hrest⟩ := List.cons_prefix_cons.1 hpart
        refine (ih hkept hnext).2 (fun before change later hsplit => ?_) part hrest
        exact h (other :: before) change later (congrArg (other :: ·) hsplit)

theorem separated_empty : empty.Separated := by
  have hnone : ∀ place, empty.content? place = none := fun _ => rfl
  exact ⟨fun place _ => hnone place, fun _ above _ _ _ => hnone above⟩

/-- In every store that a history of changes of a new store leads through, no path is both a file
and a directory and no file is above another entry, exactly if none of the changes adds a file or a
directory below a path at which a file can be read at the time. -/
theorem separated_after_iff (changes : List Change) :
    (∀ part, part <+: changes → (empty.after part).Separated) ↔
      ∀ before change later, changes = before ++ change :: later →
        ¬ (empty.after before).Buries change :=
  separated_empty.after_iff .empty

/-- A file is added, and then another one below it. -/
def Sample.burial : List Change :=
  [.addFile ⟨"/a"⟩ "x".toUTF8, .addFile ⟨"/a/b"⟩ "y".toUTF8]

/-- Both changes succeed, and the first file is a directory as well. -/
theorem Sample.burial_overlaps :
    empty.done burial = burial ∧ (empty.after burial).read ⟨"/a"⟩ = .ok "x".toUTF8 ∧
      (empty.after burial).isDir (place ⟨"/a"⟩) = true ∧ ¬ (empty.after burial).Separated := by
  have hdir : (empty.after burial).isDir (place ⟨"/a"⟩) = true := by decide +kernel
  have hread : (empty.after burial).read ⟨"/a"⟩ = .ok "x".toUTF8 := by rfl
  refine ⟨rfl, hread, hdir, fun hsep => ?_⟩
  rw [read_eq_ok_iff, hsep.apart _ hdir] at hread
  cases hread

end OverlayChain.Memory
