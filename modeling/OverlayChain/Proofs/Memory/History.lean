import OverlayChain.Proofs.Memory.Built

/-!
# What a store remembers of its changes

A store answers by the changes that succeeded. A file is there with the content that was added last,
and a directory is there since something was added at it or below it, unless a removal at the same
place or above it came after.

Directories are made above each entry, up to the first that is there. As no directory is ever there
without the ones above it, none is missed.

## Main definitions

- `Memory.Change`, `Memory.ask`: a change that is asked of a store.
- `Memory.done`: the changes of a history that succeeded.
- `Memory.Lasts`: something was done and not undone since.

## Main statements

- `Memory.Built.read_after_iff`, `Memory.Built.isDir_after_iff`: what a store holds after a history
  of changes.
- `Memory.answers_history`: what a new store answers after a history of changes.
-/

namespace OverlayChain.Memory

/-- The path of the place that a path names, taken from the root. -/
def normalized (path : Path) : Path := (Path.root.join path).clean

/-- A change that is asked of a store. -/
inductive Change where
  | addFile (path : Path) (content : ByteArray)
  | addDirectory (path : Path)
  | remove (path : Path)

/-- How a change ends, and the store from then on. A failed change leaves the store as it was. -/
def ended (m : Memory) : Except Error Memory → Except Error Unit × Memory
  | .ok changed => (.ok (), changed)
  | .error error => (.error error, m)

/-- Ask a store for a change. -/
def ask (m : Memory) : Change → Except Error Unit × Memory
  | .addFile path content => m.ended (m.addFile path content)
  | .addDirectory path => m.ended (m.addDirectory path)
  | .remove path => fileSystem.remove path m

/-- The store after a history of changes, whether they succeeded or not. -/
def after (m : Memory) (changes : List Change) : Memory :=
  changes.foldl (fun m change => (m.ask change).2) m

/-- The changes of a history that succeeded. -/
def done (m : Memory) : List Change → List Change
  | [] => []
  | change :: changes =>
    match (m.ask change).1 with
    | .ok _ => change :: done (m.ask change).2 changes
    | .error _ => done (m.ask change).2 changes

namespace Change

/-- The change gives the file at a path this content. -/
def Stores (path : Path) (content : ByteArray) : Change → Prop
  | .addFile other added => normalized other = normalized path ∧ added = content
  | _ => False

/-- The change replaces the file at a path. -/
def Replaces (path : Path) : Change → Prop
  | .addFile other _ => normalized other = normalized path
  | _ => False

/-- The change makes a path a directory. -/
def Makes (path : Path) : Change → Prop
  | .addFile other _ =>
    (normalized other).isWithin (normalized path) = true ∧ normalized other ≠ normalized path
  | .addDirectory other => (normalized other).isWithin (normalized path) = true
  | .remove _ => False

/-- The change removes what is at a path. -/
def Removes (path : Path) : Change → Prop
  | .remove top => (normalized path).isWithin (normalized top) = true
  | _ => False

end Change

section Decidable

variable {path : Path} {content : ByteArray}

instance : DecidablePred (Change.Stores path content)
  | .addFile .. => inferInstanceAs (Decidable (_ ∧ _))
  | .addDirectory _ | .remove _ => inferInstanceAs (Decidable False)

instance : DecidablePred (Change.Replaces path)
  | .addFile .. => inferInstanceAs (Decidable (_ = _))
  | .addDirectory _ | .remove _ => inferInstanceAs (Decidable False)

instance : DecidablePred (Change.Makes path)
  | .addFile .. => inferInstanceAs (Decidable (_ ∧ _ ≠ _))
  | .addDirectory _ => inferInstanceAs (Decidable (_ = true))
  | .remove _ => inferInstanceAs (Decidable False)

instance : DecidablePred (Change.Removes path)
  | .remove _ => inferInstanceAs (Decidable (_ = true))
  | .addFile .. | .addDirectory _ => inferInstanceAs (Decidable False)

end Decidable

/-- Something was done in a history, and not undone since. -/
def Lasts (did undoes : Change → Prop) (changes : List Change) : Prop :=
  ∃ before change later, changes = before ++ change :: later ∧ did change ∧
    ∀ other ∈ later, ¬ undoes other

section Places

theorem normalized_eq (path : Path) : normalized path = (place path).path :=
  Directory.join_path [] path

variable {path other : Path}

theorem normalized_eq_iff : normalized other = normalized path ↔ place other = place path := by
  rw [normalized_eq, normalized_eq]
  constructor
  · exact Location.path_injective
  · exact congrArg Location.path

theorem isWithin_normalized_iff :
    (normalized other).isWithin (normalized path) = true ↔ place path <+: place other := by
  rw [normalized_eq, normalized_eq]
  exact Directory.isWithin_path_iff (place other) (place path)

theorem normalized_eq_root_iff : normalized path = Path.root ↔ place path = [] := by
  have hroot : Path.root = Location.path [] := rfl
  rw [normalized_eq, hroot]
  constructor
  · exact Location.path_injective
  · exact congrArg Location.path

end Places

variable {m m' : Memory} {change : Change} {changes : List Change} {top : Location}
  {did undoes : Change → Prop}

theorem not_lasts_nil : ¬ Lasts did undoes [] := by
  rintro ⟨before, change, later, heq, -⟩
  cases before <;> cases heq

/-- What lasts was done by the first change and not undone, or lasts since a later one. -/
theorem lasts_cons_iff :
    Lasts did undoes (change :: changes) ↔
      did change ∧ (∀ other ∈ changes, ¬ undoes other) ∨ Lasts did undoes changes := by
  constructor
  · rintro ⟨before, found, later, heq, hdid, hkept⟩
    cases before with
    | nil =>
      cases heq
      exact .inl ⟨hdid, hkept⟩
    | cons first before =>
      cases heq
      exact .inr ⟨before, found, later, rfl, hdid, hkept⟩
  · rintro (⟨hdid, hkept⟩ | ⟨before, found, later, rfl, hdid, hkept⟩)
    · exact ⟨[], change, changes, rfl, hdid, hkept⟩
    · exact ⟨change :: before, found, later, rfl, hdid, hkept⟩

instance Lasts.decidable [DecidablePred did] [DecidablePred undoes] :
    (changes : List Change) → Decidable (Lasts did undoes changes)
  | [] => .isFalse not_lasts_nil
  | _ :: changes =>
    have : Decidable (Lasts did undoes changes) := Lasts.decidable changes
    decidable_of_iff _ lasts_cons_iff.symm

section Histories

theorem ended_of_error {result : Except Error Memory} {error : Error}
    (h : (m.ended result).1 = .error error) : (m.ended result).2 = m := by
  cases result with
  | error _ => rfl
  | ok _ => cases h

theorem eq_ok_of_ended {result : Except Error Memory} (h : (m.ended result).1 = .ok ()) :
    result = .ok (m.ended result).2 := by
  cases result with
  | error _ => cases h
  | ok _ => rfl

/-- A failed change leaves the store as it was. -/
theorem ask_of_error {error : Error} (h : (m.ask change).1 = .error error) : (m.ask change).2 = m := by
  cases change with
  | addFile path content => exact ended_of_error h
  | addDirectory path => exact ended_of_error h
  | remove path => cases h

/-- What a change that succeeds does to a store. -/
inductive Changed (m : Memory) : Change → Memory → Prop
  | addFile {path : Path} {content : ByteArray} {m' : Memory} (h : m.addFile path content = .ok m') :
      Changed m (.addFile path content) m'
  | addDirectory {path : Path} {m' : Memory} (h : m.addDirectory path = .ok m') :
      Changed m (.addDirectory path) m'
  | remove (path : Path) : Changed m (.remove path) (m.removeBelow (place path))

theorem changed_of_ask (h : (m.ask change).1 = .ok ()) : Changed m change (m.ask change).2 := by
  cases change with
  | addFile path content => exact .addFile (eq_ok_of_ended h)
  | addDirectory path => exact .addDirectory (eq_ok_of_ended h)
  | remove path => exact .remove path

theorem after_cons (m : Memory) (change : Change) (changes : List Change) :
    m.after (change :: changes) = (m.ask change).2.after changes := rfl

theorem Built.changed (h : m.Built) (hchanged : Changed m change m') : m'.Built := by
  cases hchanged with
  | addFile hadd => exact h.addFile _ _ hadd
  | addDirectory hadd => exact h.addDirectory _ hadd
  | remove path => exact h.removeBelow path

theorem Built.ask (h : m.Built) (change : Change) : (m.ask change).2.Built := by
  cases hask : (m.ask change).1 with
  | error error => rwa [ask_of_error hask]
  | ok _ => exact h.changed (changed_of_ask hask)

theorem Built.after (h : m.Built) (changes : List Change) : (m.after changes).Built := by
  induction changes generalizing m with
  | nil => exact h
  | cons change changes ih =>
    rw [after_cons]
    exact ih (h.ask change)

/-- What each change that succeeds either brings about or leaves as it was, unless it undoes it, is
so after a history if it lasts, or was so before and is not undone. -/
theorem Built.after_iff {holds : Memory → Prop} (h : m.Built)
    (hstep : ∀ m change m', m.Built → Changed m change m' →
      (holds m' ↔ did change ∨ holds m ∧ ¬ undoes change)) (changes : List Change) :
    holds (m.after changes) ↔ Lasts did undoes (m.done changes) ∨
      holds m ∧ ∀ change ∈ m.done changes, ¬ undoes change := by
  induction changes generalizing m with
  | nil => simp [Memory.after, done, not_lasts_nil]
  | cons change changes ih =>
    rw [after_cons, ih (h.ask change), done]
    cases hask : (m.ask change).1 with
    | error error =>
      rw [ask_of_error hask]
    | ok _ =>
      have hchange := hstep m change _ h (changed_of_ask hask)
      rw [hchange, lasts_cons_iff, List.forall_mem_cons]
      grind

variable {path : Path} {content : ByteArray}

theorem content?_changed (h : Changed m change m') :
    m'.content? (place path) = some content ↔ change.Stores path content ∨
      m.content? (place path) = some content ∧ ¬ (change.Replaces path ∨ change.Removes path) := by
  cases h with
  | @addFile other added _ hadd =>
    rw [content?_addFile hadd]
    simp only [Change.Stores, Change.Replaces, Change.Removes, normalized_eq_iff]
    by_cases hplace : place path = place other
    · simp [hplace]
    · simp [hplace, Ne.symm hplace]
  | @addDirectory other _ hadd =>
    rw [content?_addDirectory hadd]
    simp [Change.Stores, Change.Replaces, Change.Removes]
  | remove top =>
    rw [content?_removeBelow]
    simp only [Change.Stores, Change.Replaces, Change.Removes, isWithin_normalized_iff]
    by_cases htop : place top <+: place path
    · simp [htop]
    · simp [htop]

theorem Built.isDir_changed (hbuilt : m.Built) (hroot : place path ≠ []) (h : Changed m change m') :
    m'.isDir (place path) = true ↔ change.Makes path ∨
      m.isDir (place path) = true ∧ ¬ change.Removes path := by
  cases h with
  | @addFile other added _ hadd =>
    rw [hbuilt.closed.isDir_addFile hadd]
    simp only [Change.Makes, Change.Removes, isWithin_normalized_iff, ne_eq, normalized_eq_iff]
    grind
  | @addDirectory other _ hadd =>
    rw [hbuilt.closed.isDir_addDirectory hadd]
    simp only [Change.Makes, Change.Removes, isWithin_normalized_iff]
    grind
  | remove top =>
    rw [isDir_removeBelow]
    simp only [Change.Makes, Change.Removes, isWithin_normalized_iff]
    grind

/-- A file has the content that was added last, unless it was removed since. -/
theorem Built.read_after_iff (h : m.Built) (changes : List Change) :
    (m.after changes).read path = .ok content ↔
      Lasts (Change.Stores path content) (fun change => change.Replaces path ∨ change.Removes path)
          (m.done changes) ∨
        m.read path = .ok content ∧
          ∀ change ∈ m.done changes, ¬ (change.Replaces path ∨ change.Removes path) := by
  rw [read_eq_ok_iff, read_eq_ok_iff]
  exact h.after_iff (fun _ _ _ _ hchanged => content?_changed hchanged) changes

/-- A directory is there if something was added at it or below it, unless it was removed since. -/
theorem Built.isDir_after_iff (h : m.Built) (hroot : place path ≠ []) (changes : List Change) :
    (m.after changes).isDir (place path) = true ↔
      Lasts (Change.Makes path) (Change.Removes path) (m.done changes) ∨
        m.isDir (place path) = true ∧ ∀ change ∈ m.done changes, ¬ change.Removes path :=
  h.after_iff (fun _ _ _ hbuilt hchanged => hbuilt.isDir_changed hroot hchanged) changes

end Histories

/-- A new store answers by the changes that succeeded since. The content of a file is the one that
was added last, unless it was removed after that. A directory is there if it is the root, or if
something was added at it or below it and it was not removed after that. A failed change leaves the
store as it is, and directories may be added from below. -/
theorem answers_history (changes : List Change) :
    (∀ path content, (empty.after changes).read path = .ok content ↔
      Lasts (Change.Stores path content) (fun change => change.Replaces path ∨ change.Removes path)
        (empty.done changes)) ∧
    (∀ path, (empty.after changes).isDir (place path) = true ↔
      normalized path = Path.root ∨
        Lasts (Change.Makes path) (Change.Removes path) (empty.done changes)) ∧
    (∀ change error, ((empty.after changes).ask change).1 = .error error →
      ((empty.after changes).ask change).2 = empty.after changes) ∧
    (∀ top place, ((empty.after changes).climb top).isDir place =
      ((empty.after changes).withDirectories top).isDir place) := by
  refine ⟨fun path content => ?_, fun path => ?_, fun change error => ask_of_error, ?_⟩
  · have hnone : ¬ empty.read path = .ok content := by
      rw [read_eq_ok_iff]
      simp [Memory.empty, content?]
    rw [Built.empty.read_after_iff, or_iff_left fun hold => hnone hold.1]
  · rw [normalized_eq_root_iff]
    by_cases hroot : place path = []
    · exact iff_of_true (by rw [hroot]; exact isDir_nil _) (.inl hroot)
    · have hnone : ¬ empty.isDir (place path) = true := by
        simp [isDir, Memory.empty, hroot]
      rw [Built.empty.isDir_after_iff hroot, or_iff_left fun hold => hnone hold.1, or_iff_right hroot]
  · exact (Built.empty.after changes).closed.isDir_climb

/-- A file that is written twice beside a directory that is refused, and a removal above a file. -/
def Sample.history : List Change :=
  [.addFile ⟨"a/../b/x"⟩ "old".toUTF8, .addDirectory ⟨"/b/./x"⟩, .addFile ⟨"/b//x"⟩ "new".toUTF8,
    .addFile ⟨"/c/d/y"⟩ "gone".toUTF8, .remove ⟨"c/d"⟩]

/-- The file is read in any spelling, and above the removed directory there is one still. -/
theorem Sample.history_answered :
    (empty.after history).read ⟨"../b/x"⟩ = .ok "new".toUTF8 ∧
      (empty.after history).isDir (place ⟨"/c"⟩) = true ∧
      ¬ (empty.after history).isDir (place ⟨"/c/d"⟩) = true ∧
      ((empty.after history).ask (.addDirectory ⟨"b/x"⟩)).2 = empty.after history := by
  obtain ⟨hread, hdir, hfailed, -⟩ := answers_history history
  have hdone : empty.done history =
      [.addFile ⟨"a/../b/x"⟩ "old".toUTF8, .addFile ⟨"/b//x"⟩ "new".toUTF8,
        .addFile ⟨"/c/d/y"⟩ "gone".toUTF8, .remove ⟨"c/d"⟩] := rfl
  rw [hdone] at hread hdir
  refine ⟨(hread _ _).2 ?_, (hdir _).2 (.inr ?_), (hdir _).not.2 ?_, hfailed _ _ rfl⟩ <;>
    decide +kernel

end OverlayChain.Memory
