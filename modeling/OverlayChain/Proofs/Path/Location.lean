import OverlayChain.FileSystem

/-!
# Paths of places

The path of a place is read back as that place, and paths that were joined or brought into their
shortest spelling lead where the original ones lead.

## Main definitions

- `Path.parts`: what stands between the separators of a path.

## Main statements

- `Location.walk_path`: the path of a place leads to that place.
- `Location.walk_join`: a joined path leads where its two parts lead one after the other.
- `Path.clean_of_isAbsolute`: the shortest spelling of an absolute path.
- `Location.isWithin_path_iff`: paths of places lie below each other as the places do.
-/

namespace OverlayChain

namespace Component

@[simp] theorem ofPart?_nil : ofPart? [] = none := by decide

@[simp] theorem ofPart?_dot : ofPart? [0x2e] = none := by decide

@[simp] theorem ofPart?_name (n : Name) : ofPart? n.bytes = some (.named n) := by
  have h : n.bytes ≠ Text.encode ".." := n.valid.2.2.1
  simp [ofPart?, h]

end Component

namespace Path

/-- What stands between the separators of a path. -/
def parts (p : Path) : List (List UInt8) := p.bytes.splitOn slash

/-- What the parts of a path say, without the start at the root. -/
def steps (p : Path) : List Component := p.parts.filterMap Component.ofPart?

theorem isAbsolute_iff {p : Path} :
    p.isAbsolute = true ↔ ∃ rest, p.bytes = slash :: rest := by
  simp only [isAbsolute, beq_iff_eq, List.head?_eq_some_iff]

theorem components_of_isAbsolute {p : Path} (h : p.isAbsolute = true) :
    p.components = .root :: p.steps := by
  obtain ⟨rest, hrest⟩ := isAbsolute_iff.1 h
  have hparts : p.parts = [] :: rest.splitOn slash := by
    simp [parts, hrest, List.splitOn_cons_eq_if_modifyHead]
  rw [steps, components, ← parts, hparts]
  cases hs : rest.splitOn slash with
  | nil => exact absurd hs (List.splitOn_ne_nil _ _)
  | cons part parts => simp

/-- Reading a relative path from some place is taking its steps; a `.` in front says nothing. -/
theorem components_of_not_isAbsolute {p : Path} (h : p.isAbsolute = false) :
    p.components = p.steps ∨ p.components = .here :: p.steps := by
  have hhead : ∀ part parts, p.parts ≠ [] :: part :: parts := by
    intro part parts hparts
    have hbytes : p.bytes = [slash].intercalate ([] :: part :: parts) := by
      rw [← hparts, Path.parts, List.intercalate_splitOn]
    have habs : p.isAbsolute = true := isAbsolute_iff.2 ⟨_, by simpa using hbytes⟩
    rw [h] at habs
    cases habs
  rw [steps, components, ← parts]
  split
  · next part parts hparts => exact absurd hparts (hhead part parts)
  · next parts hparts =>
    right
    rw [hparts]
    simp
  · left
    rfl

end Path

namespace Location

theorem walk_of_isAbsolute {p : Path} (h : p.isAbsolute = true) (place : Location) :
    walk place p = p.steps.foldl step [] := by
  rw [walk, Path.components_of_isAbsolute h]
  rfl

theorem walk_of_not_isAbsolute {p : Path} (h : p.isAbsolute = false) (place : Location) :
    walk place p = p.steps.foldl step place := by
  rcases Path.components_of_not_isAbsolute h with hc | hc
  · rw [walk, hc]
  · rw [walk, hc]
    rfl

@[simp] theorem foldl_step_named (place names : Location) :
    (names.map Component.named).foldl step place = place ++ names := by
  induction names generalizing place with
  | nil => simp
  | cons name names ih =>
    rw [List.map_cons, List.foldl_cons, ih]
    simp [step]

@[simp] theorem isAbsolute_path (place : Location) : place.path.isAbsolute = true :=
  Path.isAbsolute_iff.2 ⟨_, rfl⟩

theorem parts_path (place : Location) :
    place.path.parts = [] :: if place = [] then [[]] else place.map Name.bytes := by
  -- The path begins with a slash, so the first part is empty.
  rw [Path.parts, path, List.splitOn_cons_eq_if_modifyHead]
  by_cases h : place = []
  · simp [h]
  · have hslash : ∀ part ∈ place.map Name.bytes, slash ∉ part := by
      intro part hpart
      obtain ⟨name, -, rfl⟩ := List.mem_map.1 hpart
      exact name.valid.2.2.2
    have hne : place.map Name.bytes ≠ [] := by simpa using h
    simp [h, List.splitOn_intercalate slash hslash hne]

@[simp] theorem steps_path (place : Location) :
    place.path.steps = place.map Component.named := by
  have hread : Component.ofPart? ∘ Name.bytes = some ∘ Component.named :=
    funext Component.ofPart?_name
  rw [Path.steps, parts_path, List.filterMap_cons_none Component.ofPart?_nil]
  by_cases h : place = []
  · simp [h]
  · rw [if_neg h, List.filterMap_map, hread, List.filterMap_eq_map]

/-- The path of a place leads to that place. -/
@[simp] theorem walk_path (start place : Location) : walk start place.path = place := by
  rw [walk_of_isAbsolute (isAbsolute_path place), steps_path, foldl_step_named, List.nil_append]

@[simp] theorem components_path (place : Location) :
    place.path.components = .root :: place.map Component.named := by
  rw [Path.components_of_isAbsolute (isAbsolute_path place), steps_path]

@[simp] theorem isWithin_iff {place top : Location} :
    place.isWithin top = true ↔ top <+: place := List.isPrefixOf_iff_prefix

@[simp] theorem isWithin_eq_false_iff {place top : Location} :
    place.isWithin top = false ↔ ¬ top <+: place := by
  rw [← isWithin_iff, Bool.not_eq_true]

theorem path_injective {a b : Location} (h : a.path = b.path) : a = b := by
  rw [← walk_path [] a, h, walk_path]

end Location

namespace Path

theorem parts_append_slash (a b : List UInt8) :
    (a ++ slash :: b).splitOn slash = a.splitOn slash ++ b.splitOn slash :=
  List.splitOn_append_cons_self a b

/-- A relative path that is joined to another one adds its steps. -/
theorem steps_join {p q : Path} (hq : q.isAbsolute = false) :
    (p.join q).steps = p.steps ++ q.steps := by
  rw [join, if_neg (by simp [hq])]
  split
  · next h =>
    rcases Bool.or_eq_true_iff.1 h with hempty | hslash
    · have hbytes : p.bytes = [] := by simpa using hempty
      simp [steps, parts, hbytes]
    · obtain ⟨front, hfront⟩ := List.getLast?_eq_some_iff.1 (by simpa using hslash)
      have hnil : ([] : List UInt8).splitOn slash = [[]] := List.splitOn_nil slash
      simp [steps, parts, hfront, parts_append_slash, hnil]
  · simp [steps, parts, parts_append_slash]

theorem isAbsolute_join (p q : Path) : (p.join q).isAbsolute = (p.isAbsolute || q.isAbsolute) := by
  by_cases hq : q.isAbsolute = true
  · simp [join, hq]
  · have hq : q.isAbsolute = false := by simpa using hq
    rw [join, if_neg (by simp [hq]), hq, Bool.or_false]
    by_cases hempty : p.bytes = []
    · have hp : p.isAbsolute = false := by simp [isAbsolute, hempty]
      rw [if_pos (by simp [hempty]), hp]
      simpa [isAbsolute, hempty] using hq
    · obtain ⟨first, rest, hbytes⟩ := List.exists_cons_of_ne_nil hempty
      split
      · simp [isAbsolute, hbytes]
      · simp [isAbsolute, hbytes]

end Path

namespace Location

/-- A joined path leads where its parts lead, one after the other. -/
theorem walk_join (place : Location) (p q : Path) :
    walk place (p.join q) = walk (walk place p) q := by
  by_cases hq : q.isAbsolute = true
  · rw [Path.join, if_pos hq, walk_of_isAbsolute hq, walk_of_isAbsolute hq]
  · have hq : q.isAbsolute = false := by simpa using hq
    have habs : (p.join q).isAbsolute = p.isAbsolute := by
      rw [Path.isAbsolute_join, hq, Bool.or_false]
    rw [walk_of_not_isAbsolute hq]
    by_cases hp : p.isAbsolute = true
    · rw [walk_of_isAbsolute (habs.trans hp), walk_of_isAbsolute hp, Path.steps_join hq,
        List.foldl_append]
    · have hp : p.isAbsolute = false := by simpa using hp
      rw [walk_of_not_isAbsolute (habs.trans hp), walk_of_not_isAbsolute hp, Path.steps_join hq,
        List.foldl_append]

end Location

namespace Location

/-- A single name leads to its entry. -/
theorem walk_name (place : Location) (name : Name) : walk place ⟨name.bytes⟩ = place ++ [name] := by
  have hslash : slash ∉ name.bytes := name.valid.2.2.2
  have hparts : Path.parts ⟨name.bytes⟩ = [name.bytes] := List.splitOn_eq_singleton hslash
  have habs : Path.isAbsolute ⟨name.bytes⟩ = false := by
    rw [← Bool.not_eq_true, Path.isAbsolute_iff]
    rintro ⟨rest, hrest⟩
    have hbytes : name.bytes = slash :: rest := hrest
    rw [hbytes] at hslash
    exact hslash (List.mem_cons_self ..)
  rw [walk_of_not_isAbsolute habs, Path.steps, hparts]
  simp [step]

end Location

namespace Lexical

theorem foldl_step_absolute (names : Location) (steps : List Component) :
    steps.foldl step (.absolute names) = .absolute (steps.foldl Location.step names) := by
  induction steps generalizing names with
  | nil => rfl
  | cons c steps ih => cases c <;> exact ih _

end Lexical

namespace Path

/-- An absolute path is spelled shortest as the path of the place to which it leads. -/
theorem clean_of_isAbsolute {p : Path} (h : p.isAbsolute = true) :
    p.clean = (Location.walk [] p).path := by
  rw [clean, lexical, Location.walk, components_of_isAbsolute h, List.foldl_cons, List.foldl_cons]
  change (p.steps.foldl Lexical.step (.absolute [])).path = _
  rw [Lexical.foldl_step_absolute]
  rfl

end Path

namespace Directory

/-- A path taken relative to the directory at a place. -/
theorem join_path (place : Location) (p : Path) :
    Directory.join ⟨place.path⟩ p = (Location.walk place p).path := by
  have habs : (place.path.join p).isAbsolute = true := by
    rw [Path.isAbsolute_join, Location.isAbsolute_path, Bool.true_or]
  rw [join, Path.clean_of_isAbsolute habs, Location.walk_join, Location.walk_path]

/-- The path of a place is within that of another one exactly if the places are. -/
theorem isWithin_path_iff (place top : Location) :
    Directory.isWithin ⟨place.path⟩ top.path = true ↔ top <+: place := by
  rw [isWithin, Path.isWithin, Location.components_path, Location.components_path,
    List.isPrefixOf_iff_prefix, List.cons_prefix_cons, and_iff_right rfl]
  constructor
  · intro h
    obtain ⟨names, hnames, heq⟩ := List.prefix_map_iff.1 h
    have htop : top = names := (List.map_inj_right fun _ _ h => Component.named.inj h).1 heq
    rw [htop]
    exact hnames
  · intro h
    exact h.map _

/-- A directory lies in the place of each path that it is within. -/
theorem walk_prefix_of_isWithin {place : Location} {p : Path}
    (h : Directory.isWithin ⟨place.path⟩ p = true) : Location.walk [] p <+: place := by
  rw [isWithin, Path.isWithin, Location.components_path, List.isPrefixOf_iff_prefix] at h
  rw [Location.walk]
  cases hc : p.components with
  | nil => exact List.nil_prefix
  | cons c cs =>
    rw [hc, List.cons_prefix_cons] at h
    obtain ⟨rfl, hrest⟩ := h
    obtain ⟨names, hnames, rfl⟩ := List.prefix_map_iff.1 hrest
    rw [List.foldl_cons, Location.foldl_step_named]
    exact hnames

end Directory

end OverlayChain
