import OverlayChain.Proofs.Path.Direction

/-!
# The normal form of a path

Where a path leads from any start is told by the place that it leads to from an unknown one. Places
follow one another as paths are joined, and a place is read back from its shortest spelling, so it
does not matter whether a path is brought into its shortest spelling before it is joined or after.

## Main definitions

- `Lexical.follow`: where a second place leads from a first one.
- `Path.IsNormal`: the form of a shortest spelling, by what stands between its separators.

## Main statements

- `Path.lexical_join`: a joined path leads where its two parts lead one after the other.
- `Lexical.lexical_path`: the shortest spelling of a place is read back as that place.
- `Path.clean_eq_self_iff`: the paths that are their own shortest spelling.
- `Path.clean_normalizes`: shortest spellings, and how they are joined.
-/

namespace OverlayChain

variable {p q : Path}

namespace Lexical

/-- Where a second place leads from a first one. Each level that the second place is above its start
takes one name off the first, and levels above the unknown start remain. -/
def follow : Lexical → Lexical → Lexical
  | _, .absolute names => .absolute names
  | .absolute start, .relative ups names => .absolute (start.take (start.length - ups) ++ names)
  | .relative levels start, .relative ups names =>
    .relative (levels + (ups - start.length)) (start.take (start.length - ups) ++ names)

@[simp] theorem follow_start (place : Lexical) : place.follow (.relative 0 []) = place := by
  cases place <;> simp [follow]

/-- Going up takes the last name off, or adds a level if there is none. -/
theorem step_relative_up (levels : Nat) (start : List Name) :
    step (.relative levels start) .up =
      .relative (levels + (1 - start.length)) start.dropLast := by
  cases start with
  | nil => rfl
  | cons name start => simp [step]

/-- One more name is taken off the end, if one is left. -/
theorem dropLast_take_sub (start : Location) (ups : Nat) :
    (start.take (start.length - ups)).dropLast = start.take (start.length - (ups + 1)) := by
  rw [List.dropLast_eq_take, List.length_take, List.take_take]
  congr 1
  omega

/-- A step after two places is a step after the second one. -/
theorem step_follow (first second : Lexical) (c : Component) :
    (first.follow second).step c = first.follow (second.step c) := by
  cases c with
  | root => cases first <;> cases second <;> rfl
  | here => cases first <;> cases second <;> rfl
  | named name => cases first <;> cases second <;> simp [follow, step]
  | up =>
    cases second with
    | absolute names => cases first <;> rfl
    | relative ups names =>
      by_cases hnames : names = []
      · -- The step goes up from the first place, whose names may be used up by then.
        subst hnames
        show (first.follow (.relative ups [])).step .up = first.follow (.relative (ups + 1) [])
        cases first with
        | absolute start =>
          rw [follow, follow, List.append_nil, List.append_nil, step, dropLast_take_sub]
        | relative levels start =>
          rw [follow, follow, List.append_nil, List.append_nil, step_relative_up, dropLast_take_sub,
            List.length_take]
          congr 1
          omega
      · cases first with
        | absolute start => simp [follow, step, hnames, List.dropLast_append_of_ne_nil hnames]
        | relative levels start =>
          simp [follow, step, hnames, List.dropLast_append_of_ne_nil hnames]

theorem foldl_step_follow (first second : Lexical) (steps : List Component) :
    steps.foldl step (first.follow second) = first.follow (steps.foldl step second) := by
  induction steps generalizing second with
  | nil => rfl
  | cons c steps ih => rw [List.foldl_cons, List.foldl_cons, step_follow, ih]

/-- Steps from a place lead where their place leads from it. -/
theorem foldl_step_eq_follow (start : Lexical) (steps : List Component) :
    steps.foldl step start = start.follow (steps.foldl step (.relative 0 [])) := by
  rw [← foldl_step_follow, follow_start]

theorem foldl_step_up (ups : Nat) :
    (List.replicate ups Component.up).foldl step (.relative 0 []) = .relative ups [] := by
  induction ups with
  | zero => rfl
  | succ ups ih =>
    rw [List.replicate_succ', List.foldl_append, ih]
    rfl

theorem foldl_step_named (ups : Nat) (start names : List Name) :
    (names.map Component.named).foldl step (.relative ups start) = .relative ups (start ++ names) := by
  induction names generalizing start with
  | nil => simp
  | cons name names ih =>
    rw [List.map_cons, List.foldl_cons, step, ih]
    simp

/-- Without a start at the root, steps lead to a place above or below their start. -/
theorem exists_foldl_step_relative {steps : List Component} (hroot : .root ∉ steps) (ups : Nat)
    (names : List Name) :
    ∃ ups' names', steps.foldl step (.relative ups names) = .relative ups' names' := by
  induction steps generalizing ups names with
  | nil => exact ⟨ups, names, rfl⟩
  | cons c steps ih =>
    obtain ⟨hc, hsteps⟩ := List.ne_and_not_mem_of_not_mem_cons hroot
    obtain ⟨ups', names', hstep⟩ : ∃ ups' names',
        step (.relative ups names) c = .relative ups' names' := by
      cases c with
      | root => exact absurd rfl hc
      | up => exact ⟨_, _, step_relative_up ups names⟩
      | here => exact ⟨ups, names, rfl⟩
      | named name => exact ⟨ups, names ++ [name], rfl⟩
    rw [List.foldl_cons, hstep]
    exact ih hsteps ups' names'

end Lexical

namespace Path

/-- Nothing stands before the first separator of an absolute path. -/
theorem parts_of_isAbsolute (h : p.isAbsolute = true) :
    ∃ rest, p.parts = [] :: rest ∧ rest ≠ [] := by
  obtain ⟨rest, hrest⟩ := isAbsolute_iff.1 h
  refine ⟨rest.splitOn slash, ?_, List.splitOn_ne_nil _ _⟩
  simp [parts, hrest, List.splitOn_cons_eq_if_modifyHead]

theorem lexical_of_isAbsolute (h : p.isAbsolute = true) :
    p.lexical = .absolute (Location.walk [] p) := by
  rw [Location.walk_of_isAbsolute h, lexical, components_of_isAbsolute h, List.foldl_cons]
  exact Lexical.foldl_step_absolute [] p.steps

theorem lexical_of_not_isAbsolute (h : p.isAbsolute = false) :
    p.lexical = p.steps.foldl Lexical.step (.relative 0 []) := by
  rcases components_of_not_isAbsolute h with hc | hc
  · rw [lexical, hc]
  · rw [lexical, hc]
    rfl

/-- A joined path leads where its two parts lead one after the other. -/
theorem lexical_join (p q : Path) : (p.join q).lexical = p.lexical.follow q.lexical := by
  by_cases hq : q.isAbsolute = true
  · rw [join, if_pos hq, lexical_of_isAbsolute hq, Lexical.follow]
  · have hq : q.isAbsolute = false := by simpa using hq
    have habs : (p.join q).isAbsolute = p.isAbsolute := by
      rw [isAbsolute_join, hq, Bool.or_false]
    rw [lexical_of_not_isAbsolute hq, ← Lexical.foldl_step_eq_follow]
    by_cases hp : p.isAbsolute = true
    · rw [lexical_of_isAbsolute (habs.trans hp), lexical_of_isAbsolute hp,
        Lexical.foldl_step_absolute, Location.walk_join, Location.walk_of_not_isAbsolute hq]
    · have hp : p.isAbsolute = false := by simpa using hp
      rw [lexical_of_not_isAbsolute (habs.trans hp), lexical_of_not_isAbsolute hp, steps_join hq,
        List.foldl_append]

end Path

namespace Lexical

/-- What stands between the separators of a relative shortest spelling. -/
theorem parts_path_relative {ups : Nat} {names : List Name} (h : ups = 0 → names ≠ []) :
    (Lexical.relative ups names).path.parts =
      List.replicate ups (Text.encode "..") ++ names.map Name.bytes := by
  have hbytes : (Lexical.relative ups names).path.bytes =
      [slash].intercalate (List.replicate ups (Text.encode "..") ++ names.map Name.bytes) := by
    rw [path]
    split
    · next hnil => exact absurd hnil (by simpa using h)
    · rfl
  have hslash : ∀ part ∈ List.replicate ups (Text.encode "..") ++ names.map Name.bytes,
      slash ∉ part := by
    intro part hpart
    rcases List.mem_append.1 hpart with hup | hname
    · rw [List.eq_of_mem_replicate hup]
      decide
    · obtain ⟨name, -, rfl⟩ := List.mem_map.1 hname
      exact name.valid.2.2.2
  rw [Path.parts, hbytes]
  exact List.splitOn_intercalate slash hslash (by simpa using h)

theorem isAbsolute_path_relative (ups : Nat) (names : List Name) :
    (Lexical.relative ups names).path.isAbsolute = false := by
  by_cases h : ups = 0 → names ≠ []
  · by_contra habs
    obtain ⟨rest, hrest, -⟩ := Path.parts_of_isAbsolute (by simpa using habs)
    have hmem : [] ∈ (Lexical.relative ups names).path.parts := by simp [hrest]
    rw [parts_path_relative h] at hmem
    rcases List.mem_append.1 hmem with hup | hname
    · cases List.eq_of_mem_replicate hup
    · obtain ⟨name, -, hnil⟩ := List.mem_map.1 hname
      exact name.valid.1 hnil
  · have hnil : ups = 0 ∧ names = [] := by simpa using h
    rw [hnil.1, hnil.2]
    rfl

/-- The shortest spelling of a place is read back as that place. -/
theorem lexical_path (place : Lexical) : place.path.lexical = place := by
  cases place with
  | absolute names =>
    have habs : (Lexical.absolute names).path.isAbsolute = true := Location.isAbsolute_path names
    rw [Path.lexical_of_isAbsolute habs, path, Location.walk_path]
  | relative ups names =>
    rw [Path.lexical_of_not_isAbsolute (isAbsolute_path_relative ups names)]
    by_cases h : ups = 0 → names ≠ []
    · have hup : Component.ofPart? (Text.encode "..") = some .up := by decide
      have hread : Component.ofPart? ∘ Name.bytes = some ∘ Component.named :=
        funext Component.ofPart?_name
      have hsteps : (Lexical.relative ups names).path.steps =
          List.replicate ups .up ++ names.map .named := by
        rw [Path.steps, parts_path_relative h, List.filterMap_append,
          List.filterMap_replicate_of_some hup, List.filterMap_map, hread, List.filterMap_eq_map]
      rw [hsteps, List.foldl_append, foldl_step_up, foldl_step_named, List.nil_append]
    · have hnil : ups = 0 ∧ names = [] := by simpa using h
      rw [hnil.1, hnil.2]
      decide

end Lexical

namespace Path

@[simp] theorem lexical_clean (p : Path) : p.clean.lexical = p.lexical :=
  Lexical.lexical_path p.lexical

theorem clean_clean (p : Path) : p.clean.clean = p.clean := by
  rw [clean, lexical_clean, ← clean]

theorem isAbsolute_clean (p : Path) : p.clean.isAbsolute = p.isAbsolute := by
  by_cases h : p.isAbsolute = true
  · rw [clean_of_isAbsolute h, Location.isAbsolute_path, h]
  · have h : p.isAbsolute = false := by simpa using h
    obtain ⟨ups, names, hlexical⟩ :=
      Lexical.exists_foldl_step_relative (root_not_mem_components h) 0 []
    have hplace : p.lexical = .relative ups names := hlexical
    rw [clean, hplace, Lexical.isAbsolute_path_relative, h]

theorem clean_clean_join (p q : Path) : (p.clean.join q).clean = (p.join q).clean := by
  have h : (p.clean.join q).lexical = (p.join q).lexical := by
    rw [lexical_join, lexical_join, lexical_clean]
  rw [clean, h, ← clean]

theorem clean_join_clean (p q : Path) : (p.join q.clean).clean = (p.join q).clean := by
  have h : (p.join q.clean).lexical = (p.join q).lexical := by
    rw [lexical_join, lexical_join, lexical_clean]
  rw [clean, h, ← clean]

end Path

namespace Location

/-- Where a path leads from a place is told by where it leads from an unknown start. -/
theorem absolute_walk (place : Location) (p : Path) :
    .absolute (place.walk p) = (Lexical.absolute place).follow p.lexical :=
  (Lexical.foldl_step_absolute place p.components).symm.trans
    (Lexical.foldl_step_eq_follow (.absolute place) p.components)

/-- The shortest spelling of a path leads from each place where the path leads. -/
theorem walk_clean (place : Location) (p : Path) : place.walk p.clean = place.walk p := by
  have h : Lexical.absolute (place.walk p.clean) = .absolute (place.walk p) := by
    rw [absolute_walk, absolute_walk, Path.lexical_clean]
  exact Lexical.absolute.inj h

end Location

namespace Path

/-- The form of a shortest spelling. Below the root every part is a name. A relative path is a `.`
alone, or some `..` and then names. -/
structure IsNormal (p : Path) : Prop where
  absolute : p.isAbsolute = true → p = ⟨"/"⟩ ∨ ∀ part ∈ p.parts.tail, IsName part
  relative : p.isAbsolute = false → p = ⟨"."⟩ ∨ ∃ ups names,
    p.parts = List.replicate ups (Text.encode "..") ++ names ∧ ∀ part ∈ names, IsName part

theorem eq_of_parts_eq (h : p.parts = q.parts) : p = q := by
  have hread : ∀ path : Path, [slash].intercalate path.parts = path.bytes :=
    fun path => List.intercalate_splitOn slash
  have hbytes : p.bytes = q.bytes := by
    rw [← hread p, ← hread q, h]
  cases p
  cases q
  exact congrArg Path.mk hbytes

theorem exists_names {parts : List (List UInt8)} (h : ∀ part ∈ parts, IsName part) :
    ∃ names : List Name, parts = names.map Name.bytes := by
  induction parts with
  | nil => exact ⟨[], rfl⟩
  | cons part parts ih =>
    obtain ⟨hpart, hparts⟩ := List.forall_mem_cons.1 h
    obtain ⟨names, rfl⟩ := ih hparts
    exact ⟨⟨part, hpart⟩ :: names, rfl⟩

/-- A shortest spelling has the normal form. -/
theorem isNormal_path (place : Lexical) : place.path.IsNormal := by
  have hnames : ∀ names : List Name, ∀ part ∈ names.map Name.bytes, IsName part := by
    intro names part hpart
    obtain ⟨name, -, rfl⟩ := List.mem_map.1 hpart
    exact name.valid
  cases place with
  | absolute names =>
    have habs : (Lexical.absolute names).path.isAbsolute = true := Location.isAbsolute_path names
    refine ⟨fun _ => ?_, fun hrelative => absurd habs (by simp [hrelative])⟩
    by_cases hnil : names = []
    · rw [hnil]
      exact .inl rfl
    · have hparts := Location.parts_path names
      rw [if_neg hnil] at hparts
      rw [Lexical.path, hparts]
      exact .inr (hnames names)
  | relative ups names =>
    have habs := Lexical.isAbsolute_path_relative ups names
    refine ⟨fun habsolute => absurd habsolute (by simp [habs]), fun _ => ?_⟩
    by_cases h : ups = 0 → names ≠ []
    · exact .inr ⟨ups, _, Lexical.parts_path_relative h, hnames names⟩
    · have hnil : ups = 0 ∧ names = [] := by simpa using h
      rw [hnil.1, hnil.2]
      exact .inl rfl

/-- What has the normal form is the shortest spelling of a place. -/
theorem IsNormal.exists_eq_path (h : p.IsNormal) : ∃ place : Lexical, p = place.path := by
  by_cases habs : p.isAbsolute = true
  · rcases h.absolute habs with hroot | hparts
    · exact ⟨.absolute [], hroot⟩
    · obtain ⟨rest, hrest, hne⟩ := parts_of_isAbsolute habs
      rw [hrest, List.tail_cons] at hparts
      obtain ⟨names, rfl⟩ := exists_names hparts
      refine ⟨.absolute names, eq_of_parts_eq ?_⟩
      rw [hrest, Lexical.path, Location.parts_path, if_neg (by simpa using hne)]
  · have hrelative : p.isAbsolute = false := by simpa using habs
    rcases h.relative hrelative with hhere | ⟨ups, parts, hparts, hnames⟩
    · exact ⟨.relative 0 [], hhere⟩
    · obtain ⟨names, rfl⟩ := exists_names hnames
      refine ⟨.relative ups names, eq_of_parts_eq ?_⟩
      rw [hparts, Lexical.parts_path_relative]
      rintro rfl rfl
      exact List.splitOn_ne_nil _ _ hparts

/-- The paths that are their own shortest spelling are those in normal form. -/
theorem clean_eq_self_iff : p.clean = p ↔ p.IsNormal := by
  constructor
  · intro h
    rw [← h]
    exact isNormal_path p.lexical
  · intro h
    obtain ⟨place, rfl⟩ := h.exists_eq_path
    rw [clean, Lexical.lexical_path]

/-- The shortest spelling of a path is its normal form: it has that form, it leads from each place
where the path leads, and a path in that form is not changed. A path is joined as its shortest
spelling is, on either side. Joined to an absolute path it names the place to which its components
lead from there, where a `..` at the root stays at the root. -/
theorem clean_normalizes (p q : Path) :
    p.clean.clean = p.clean ∧ p.clean.isAbsolute = p.isAbsolute ∧ p.clean.IsNormal ∧
      (∀ place : Location, place.walk p.clean = place.walk p) ∧
      (p.clean.join q).clean = (p.join q).clean ∧
      (p.isAbsolute = true → (p.join q.clean).clean = (p.join q).clean ∧
        (p.join q).clean = (Location.walk (Location.walk [] p) q).path) := by
  refine ⟨clean_clean p, isAbsolute_clean p, isNormal_path p.lexical,
    fun place => place.walk_clean p, clean_clean_join p q, fun hp => ⟨clean_join_clean p q, ?_⟩⟩
  have habs : (p.join q).isAbsolute = true := by
    rw [isAbsolute_join, hp, Bool.true_or]
  rw [clean_of_isAbsolute habs, Location.walk_join]

/-- A way up beyond the root ends at the root, whether or not it is shortened first. -/
theorem Sample.climb_normalizes :
    Path.isAbsolute ⟨"/a/./b"⟩ = true ∧ Path.clean ⟨"../../c/../.."⟩ = ⟨"../../.."⟩ ∧
      (Path.join ⟨"/a/./b"⟩ ⟨"../../.."⟩).clean = (Path.join ⟨"/a/./b"⟩ ⟨"../../c/../.."⟩).clean ∧
      (Path.join ⟨"/a/./b"⟩ ⟨"../../c/../.."⟩).clean = .root := by
  have habs : Path.isAbsolute ⟨"/a/./b"⟩ = true := by decide
  have hclean : Path.clean ⟨"../../c/../.."⟩ = ⟨"../../.."⟩ := by decide +kernel
  obtain ⟨-, -, -, -, -, hjoin⟩ := clean_normalizes ⟨"/a/./b"⟩ ⟨"../../c/../.."⟩
  obtain ⟨hright, hplace⟩ := hjoin habs
  rw [hclean] at hright
  refine ⟨habs, hclean, hright, hplace.trans ?_⟩
  decide +kernel

end Path

end OverlayChain
