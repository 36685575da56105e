import OverlayChain.Text.Ascii
import OverlayChain.Text.Search

/-!
# Cuts of texts

A cut at a pattern is made at its first occurrence, so what is put after the text does not move it.

## Main definitions

- `Text.IsSearch`: a search through a text for the first place at which a step finds something.

## Main statements

- `Text.splitFirst?_eq_none_iff`: when a text is not cut.
- `Text.splitFirst?_append_of_not_mem`: a cut behind a text without the first letter of the pattern.
- `Text.IsSearch.length_le`, `Text.IsSearch.step_eq_none`: a search cuts at the first place.
- `Text.splitAtClass?_append`: a cut at a class of characters.
- `Text.ends_dropEnds`, `Text.length_dropEnds_append`: what is left between the ends.
- `Text.exists_eq_append_afterLast`: where the part after the last separator stands.
-/

namespace OverlayChain.Text

section Patterns

variable {pattern cs before after : List Char}

theorem dropPrefix?_eq_none_iff : dropPrefix? pattern cs = none ↔ ¬ pattern <+: cs := by
  rw [Option.eq_none_iff_forall_not_mem]
  simp only [Option.mem_def, dropPrefix?_eq_some_iff]
  constructor
  · rintro h ⟨rest, hrest⟩
    exact h rest hrest.symm
  · intro h rest hrest
    exact h ⟨rest, hrest.symm⟩

theorem splitFirst?_eq_none_iff : splitFirst? pattern cs = none ↔ ¬ pattern <:+: cs := by
  induction cs with
  | nil => cases pattern <;> simp [splitFirst?]
  | cons c rest ih =>
    rw [splitFirst?, List.infix_cons_iff]
    cases hdrop : dropPrefix? pattern (c :: rest) with
    | none =>
      have hbegins := dropPrefix?_eq_none_iff.1 hdrop
      simp [ih, hbegins]
    | some after =>
      have hbegins : pattern <+: c :: rest := ⟨after, (dropPrefix?_eq_some_iff.1 hdrop).symm⟩
      simp [hbegins]

theorem occurs_eq_false_iff : occurs pattern cs = false ↔ ¬ pattern <:+: cs := by
  rw [occurs, Option.isSome_eq_false_iff, Option.isNone_iff_eq_none, splitFirst?_eq_none_iff]

theorem occurs_iff : occurs pattern cs = true ↔ pattern <:+: cs := by
  rw [← Bool.not_eq_false, occurs_eq_false_iff, Classical.not_not]

variable {p : Char} {ps : List Char}

theorem splitFirst?_of_not_mem (h : p ∉ cs) : splitFirst? (p :: ps) cs = none := by
  rw [splitFirst?_eq_none_iff]
  intro hoccurs
  exact h (hoccurs.subset (List.mem_cons_self ..))

theorem splitFirst?_append_of_not_mem (h : p ∉ before) (cs : List Char) :
    splitFirst? (p :: ps) (before ++ cs) =
      (splitFirst? (p :: ps) cs).map fun cut => (before ++ cut.1, cut.2) := by
  induction before with
  | nil => simp
  | cons c before ih =>
    have hc : p ≠ c := fun hpc => h (hpc ▸ List.mem_cons_self ..)
    have hbefore := ih fun hmem => h (List.mem_cons_of_mem _ hmem)
    have hdrop : dropPrefix? (p :: ps) (c :: (before ++ cs)) = none := by
      simp [dropPrefix?, hc]
    rw [List.cons_append, splitFirst?, hdrop, hbefore]
    simp [Function.comp_def]

theorem splitFirst?_of_prefix (after : List Char) :
    splitFirst? (p :: ps) (p :: ps ++ after) = some ([], after) := by
  have hdrop : dropPrefix? (p :: ps) (p :: (ps ++ after)) = some after :=
    dropPrefix?_eq_some_iff.2 rfl
  rw [List.cons_append, splitFirst?, hdrop]

/-- A text is cut at the pattern that was put after a text without its first letter. -/
theorem splitFirst?_append_pattern (h : p ∉ before) (after : List Char) :
    splitFirst? (p :: ps) (before ++ (p :: ps) ++ after) = some (before, after) := by
  rw [List.append_assoc, splitFirst?_append_of_not_mem h, splitFirst?_of_prefix]
  simp

/-- There is no separator before the first one. -/
theorem not_mem_of_splitFirst? (h : splitFirst? [p] cs = some (before, after)) : p ∉ before := by
  induction cs generalizing before with
  | nil => cases h
  | cons c rest ih =>
    by_cases hc : p = c
    · subst hc
      have hcut : splitFirst? [p] (p :: rest) = some ([], rest) := splitFirst?_of_prefix rest
      rw [hcut] at h
      cases h
      simp
    · have hdrop : dropPrefix? [p] (c :: rest) = none := by
        simp [dropPrefix?, hc]
      rw [splitFirst?, hdrop] at h
      obtain ⟨cut, hcut, heq⟩ := Option.map_eq_some_iff.1 h
      cases heq
      have hcut := ih hcut
      simp [hc, hcut]

theorem splitFirst?_cons_of_not_mem (h : p ∉ before) (after : List Char) :
    splitFirst? [p] (before ++ p :: after) = some (before, after) := by
  have hcut : splitFirst? [p] (before ++ [p] ++ after) = some (before, after) :=
    splitFirst?_append_pattern h after
  rwa [List.append_assoc] at hcut

theorem not_mem_of_splitFirst?_eq_none (h : splitFirst? [p] cs = none) : p ∉ cs := by
  rw [splitFirst?_eq_none_iff] at h
  intro hmem
  obtain ⟨before, after, rfl⟩ := List.append_of_mem hmem
  exact h ⟨before, after, by rw [List.append_assoc]; rfl⟩

/-- A pattern without a character is no prefix that reaches that character. -/
theorem prefix_of_prefix_append_cons {d : Char} (h : d ∉ pattern) {more : List Char}
    (hbegins : pattern <+: cs ++ d :: more) : pattern <+: cs := by
  rcases List.prefix_or_prefix_of_prefix hbegins (List.prefix_append cs (d :: more)) with hp | hp
  · exact hp
  · obtain ⟨rest, rfl⟩ := hp
    cases rest with
    | nil => simp
    | cons e rest =>
      -- The pattern goes on after the text, so its next character is the excluded one.
      rw [List.prefix_append_right_inj, List.cons_prefix_cons] at hbegins
      obtain ⟨rfl, -⟩ := hbegins
      exact absurd (List.mem_append_right cs (List.mem_cons_self ..)) h

/-- A pattern without a character is no suffix that reaches that character. -/
theorem suffix_of_suffix_append_cons {d : Char} (h : d ∉ pattern) {front : List Char}
    (hends : pattern <:+ front ++ d :: cs) : pattern <:+ cs := by
  rw [← List.reverse_prefix] at hends ⊢
  rw [List.reverse_append, List.reverse_cons, List.append_assoc] at hends
  exact prefix_of_prefix_append_cons (by simpa using h) hends

/-- Two texts that leave a class of characters leave it at the same place. -/
theorem eq_of_append_cons_prefix {inClass : Char → Bool} {body tail head more : List Char} {c d : Char}
    (hbody : ∀ e ∈ body, inClass e = true) (hd : inClass d = false)
    (hhead : ∀ e ∈ head, inClass e = true) (hc : inClass c = false)
    (h : body ++ d :: tail <+: head ++ c :: more) : body = head ∧ d = c ∧ tail <+: more := by
  induction body generalizing head with
  | nil =>
    cases head with
    | nil => exact ⟨rfl, List.cons_prefix_cons.1 h⟩
    | cons e head =>
      obtain ⟨rfl, -⟩ := List.cons_prefix_cons.1 h
      rw [hhead d (List.mem_cons_self ..)] at hd
      cases hd
  | cons b body ih =>
    cases head with
    | nil =>
      obtain ⟨rfl, -⟩ := List.cons_prefix_cons.1 h
      rw [hbody b (List.mem_cons_self ..)] at hc
      cases hc
    | cons e head =>
      obtain ⟨rfl, hrest⟩ := List.cons_prefix_cons.1 h
      obtain ⟨rfl, hcut⟩ := ih (fun e he => hbody e (List.mem_cons_of_mem _ he))
        (fun e he => hhead e (List.mem_cons_of_mem _ he)) hrest
      exact ⟨rfl, hcut⟩

/-- A pattern without a character occurs before that character or behind it. -/
theorem infix_of_infix_append_cons {d : Char} (h : d ∉ pattern) {front : List Char}
    (hoccurs : pattern <:+: front ++ d :: cs) : pattern <:+: front ∨ pattern <:+: cs := by
  induction front with
  | nil =>
    rcases List.infix_cons_iff.1 hoccurs with hbegins | hbehind
    · have hbegins' : pattern <+: [] ++ d :: cs := hbegins
      exact .inl (prefix_of_prefix_append_cons h hbegins').isInfix
    · exact .inr hbehind
  | cons c front ih =>
    rcases List.infix_cons_iff.1 hoccurs with hbegins | hbehind
    · exact .inl (prefix_of_prefix_append_cons h hbegins).isInfix
    · exact (ih hbehind).imp_left fun hfront => hfront.trans (List.suffix_cons c front).isInfix

end Patterns

section Searches

variable {step : List Char → Option (List Char)}
  {search : List Char → Option (List Char × List Char)} {pattern cs before after rest : List Char}

/-- A search goes through a text and cuts it at the first place at which a step finds something, and
what follows it. -/
structure IsSearch (step : List Char → Option (List Char))
    (search : List Char → Option (List Char × List Char)) : Prop where
  nil : search [] = (step []).map fun after => ([], after)
  cons : ∀ c rest, search (c :: rest) = match step (c :: rest) with
    | some after => some ([], after)
    | none => (search rest).map fun cut => (c :: cut.1, cut.2)

theorem isSearch_splitFirst? (pattern : List Char) :
    IsSearch (dropPrefix? pattern) (splitFirst? pattern) where
  nil := by cases pattern <;> rfl
  cons _ _ := rfl

/-- No step finds anything before the place at which a search cuts. -/
theorem IsSearch.length_le (h : IsSearch step search) (hcut : search cs = some (before, after))
    {front : List Char} (hcs : cs = front ++ rest) (hstep : (step rest).isSome) :
    before.length ≤ front.length := by
  obtain ⟨found, hfound⟩ := Option.isSome_iff_exists.1 hstep
  induction front generalizing cs before with
  | nil =>
    rw [hcs, List.nil_append] at hcut
    cases rest with
    | nil =>
      rw [h.nil, hfound] at hcut
      cases hcut
      exact Nat.le_refl 0
    | cons c rest =>
      rw [h.cons, hfound] at hcut
      cases hcut
      exact Nat.le_refl 0
  | cons c front ih =>
    rw [hcs, List.cons_append, h.cons] at hcut
    cases hhere : step (c :: (front ++ rest)) with
    | some after' =>
      rw [hhere] at hcut
      cases hcut
      exact Nat.zero_le _
    | none =>
      rw [hhere] at hcut
      obtain ⟨cut, hlater, heq⟩ := Option.map_eq_some_iff.1 hcut
      cases heq
      exact Nat.succ_le_succ (ih hlater rfl)

/-- A search that does not cut has found nothing anywhere. -/
theorem IsSearch.step_eq_none (h : IsSearch step search) (hcut : search cs = none)
    (hcs : cs = before ++ rest) : step rest = none := by
  induction before generalizing cs with
  | nil =>
    rw [hcs, List.nil_append] at hcut
    cases rest with
    | nil => simpa [h.nil] using hcut
    | cons c rest =>
      rw [h.cons] at hcut
      cases hhere : step (c :: rest) with
      | some after => simp [hhere] at hcut
      | none => rfl
  | cons c before ih =>
    rw [hcs, List.cons_append, h.cons] at hcut
    refine ih ?_ rfl
    cases hhere : step (c :: (before ++ rest)) with
    | some after => simp [hhere] at hcut
    | none => simpa [hhere] using hcut

end Searches

section Classes

variable {inClass : Char → Bool} {cs before after : List Char} {c : Char}

theorem splitAtClass?_eq_none_iff :
    splitAtClass? inClass cs = none ↔ ∀ d ∈ cs, inClass d = false := by
  induction cs with
  | nil => simp [splitAtClass?]
  | cons d rest ih =>
    cases hd : inClass d with
    | true => simp [splitAtClass?, hd]
    | false => simp [splitAtClass?, hd, ih]

/-- A text is cut at the first character of the class, whatever follows. -/
theorem splitAtClass?_append (hbefore : ∀ d ∈ before, inClass d = false) (hc : inClass c = true)
    (after : List Char) : splitAtClass? inClass (before ++ c :: after) = some (before, c, after) := by
  induction before with
  | nil => simp [splitAtClass?, hc]
  | cons d before ih =>
    have hd := hbefore d (List.mem_cons_self ..)
    have hrest := ih fun e he => hbefore e (List.mem_cons_of_mem _ he)
    rw [List.cons_append, splitAtClass?, if_neg (by simp [hd]), hrest]
    rfl

theorem dropEndWhile_begins (inClass : Char → Bool) (cs : List Char) :
    dropEndWhile inClass cs <+: cs := by
  have hrev := List.reverse_prefix.2 (List.dropWhile_suffix inClass (l := cs.reverse))
  rwa [List.reverse_reverse] at hrev

theorem length_dropEndWhile_le (inClass : Char → Bool) (cs : List Char) :
    (dropEndWhile inClass cs).length ≤ cs.length := (dropEndWhile_begins inClass cs).length_le

/-- What stands before a character outside the class is not reached from the end. -/
theorem dropEndWhile_append_cons (hc : inClass c = false) (before after : List Char) :
    dropEndWhile inClass (before ++ c :: after) = before ++ c :: dropEndWhile inClass after := by
  have hrev : (before ++ c :: after).reverse = after.reverse ++ c :: before.reverse := by simp
  rw [dropEndWhile, dropEndWhile, hrev, List.dropWhile_append]
  by_cases hempty : (after.reverse.dropWhile inClass).isEmpty = true
  · have hnil : after.reverse.dropWhile inClass = [] := by simpa using hempty
    simp [hnil, hc]
  · rw [if_neg hempty]
    simp

theorem dropEndWhile_append_of_forall (h : ∀ d ∈ before, inClass d = false) (after : List Char) :
    dropEndWhile inClass (before ++ after) = before ++ dropEndWhile inClass after := by
  induction before with
  | nil => rfl
  | cons d before ih =>
    have hd : dropEndWhile inClass (d :: (before ++ after)) =
        d :: dropEndWhile inClass (before ++ after) :=
      dropEndWhile_append_cons (h d (List.mem_cons_self ..)) [] _
    rw [List.cons_append, hd, ih fun e he => h e (List.mem_cons_of_mem _ he), List.cons_append]

theorem length_dropEndWhile_append_le (before after : List Char) :
    (dropEndWhile inClass after).length ≤ (dropEndWhile inClass (before ++ after)).length := by
  rw [dropEndWhile, dropEndWhile, List.reverse_append, List.dropWhile_append]
  split
  · next hempty =>
    have hnil : after.reverse.dropWhile inClass = [] := by simpa using hempty
    simp [hnil]
  · simp

/-- From both ends no more is left than from the end alone. -/
theorem length_dropEnds_le (inClass : Char → Bool) (cs : List Char) :
    (dropEnds inClass cs).length ≤ (dropEndWhile inClass cs).length := by
  have hle : (dropEndWhile inClass (cs.dropWhile inClass)).length ≤
      (dropEndWhile inClass (cs.takeWhile inClass ++ cs.dropWhile inClass)).length :=
    length_dropEndWhile_append_le (cs.takeWhile inClass) (cs.dropWhile inClass)
  rwa [List.takeWhile_append_dropWhile] at hle

theorem dropEnds_cons (hc : inClass c = false) (cs : List Char) :
    dropEnds inClass (c :: cs) = c :: dropEndWhile inClass cs := by
  rw [dropEnds, List.dropWhile_cons_of_neg (by simp [hc])]
  exact dropEndWhile_append_cons hc [] cs

theorem dropEnds_cons_of_mem (hc : inClass c = true) (cs : List Char) :
    dropEnds inClass (c :: cs) = dropEnds inClass cs := by
  rw [dropEnds, List.dropWhile_cons_of_pos hc]
  rfl

/-- No member of the class is left at either end. -/
theorem ends_dropEnds (inClass : Char → Bool) (cs : List Char) :
    (∀ c, (dropEnds inClass cs).head? = some c → inClass c = false) ∧
      ∀ c, (dropEnds inClass cs).getLast? = some c → inClass c = false := by
  constructor
  · intro c hc
    obtain ⟨kept, hkept⟩ := List.head?_eq_some_iff.1 hc
    have hbegins : dropEnds inClass cs <+: cs.dropWhile inClass := dropEndWhile_begins _ _
    rw [hkept] at hbegins
    obtain ⟨more, hmore⟩ := hbegins
    have hhead := List.head?_dropWhile_not inClass cs
    rwa [← hmore] at hhead
  · intro c hc
    have hhead := List.head?_dropWhile_not inClass (cs.dropWhile inClass).reverse
    rw [dropEnds, dropEndWhile, List.getLast?_reverse] at hc
    rwa [hc] at hhead

/-- What is put after a text and ends outside the class makes more of it be left. -/
theorem length_dropEnds_append (hc : inClass c = false) (before after : List Char) :
    (dropEnds inClass before).length < (dropEnds inClass (before ++ c :: after)).length := by
  have hdrop : (before ++ c :: after).dropWhile inClass =
      before.dropWhile inClass ++ c :: after := by
    rw [List.dropWhile_append]
    split
    · next hempty =>
      have hnil : before.dropWhile inClass = [] := by simpa using hempty
      simp [hnil, hc]
    · rfl
  have hle := length_dropEndWhile_le inClass (before.dropWhile inClass)
  rw [dropEnds, dropEnds, hdrop, dropEndWhile_append_cons hc, List.length_append, List.length_cons]
  omega

end Classes

section Last

variable {d : Char} {name : List Char}

/-- Behind a separator nothing but a text without one is left. -/
theorem afterLast_append (h : d ∉ name) {before : List Char}
    (hbefore : before = [] ∨ before.getLast? = some d) : afterLast d (before ++ name) = name := by
  have hplain : ∀ c ∈ name.reverse, (c != d) = true := by
    intro c hc
    rw [bne_iff_ne]
    rintro rfl
    exact h (List.mem_reverse.1 hc)
  rw [afterLast, List.reverse_append, List.takeWhile_append_of_pos hplain]
  have hnone : before.reverse.takeWhile (· != d) = [] := by
    rcases hbefore with rfl | hlast
    · rfl
    · rw [← List.head?_reverse] at hlast
      cases hrev : before.reverse with
      | nil => rfl
      | cons c rest =>
        rw [hrev] at hlast
        obtain rfl : c = d := by simpa using hlast
        simp
  rw [hnone, List.append_nil, List.reverse_reverse]

/-- The part after the last separator stands at the start or behind a separator, and has none. -/
theorem exists_eq_append_afterLast (d : Char) (cs : List Char) :
    ∃ front, cs = front ++ afterLast d cs ∧ (front = [] ∨ front.getLast? = some d) ∧
      d ∉ afterLast d cs := by
  refine ⟨(cs.reverse.dropWhile (· != d)).reverse, ?_, ?_, ?_⟩
  · rw [afterLast, ← List.reverse_append, List.takeWhile_append_dropWhile, List.reverse_reverse]
  · rw [List.getLast?_reverse, List.reverse_eq_nil_iff]
    have hhead := List.head?_dropWhile_not (· != d) cs.reverse
    cases hdrop : cs.reverse.dropWhile (· != d) with
    | nil => exact .inl rfl
    | cons c rest =>
      rw [hdrop] at hhead
      exact .inr (by simpa using hhead)
  · intro hmem
    have hall := List.all_takeWhile (l := cs.reverse) (p := (· != d))
    have hne := List.all_eq_true.1 hall d (List.mem_reverse.1 hmem)
    simp at hne

end Last

section Case

theorem toNat_toLower (c : Char) :
    c.toLower.toNat = if 65 ≤ c.toNat ∧ c.toNat ≤ 90 then c.toNat + 32 else c.toNat := by
  have hval : c.val.toNat = c.toNat := rfl
  by_cases h : 65 ≤ c.toNat ∧ c.toNat ≤ 90
  · have hupper : c.val ≥ 'A'.val ∧ c.val ≤ 'Z'.val := by
      simpa [UInt32.le_iff_toNat_le, hval] using h
    have hadd : (c.val + ('a'.val - 'A'.val)).toNat = c.toNat + 32 := by
      rw [UInt32.toNat_add, hval]
      have hbound : ('a'.val - 'A'.val).toNat = 32 := rfl
      omega
    rw [if_pos h, show c.toLower = _ from dif_pos hupper]
    exact hadd
  · have hother : ¬ (c.val ≥ 'A'.val ∧ c.val ≤ 'Z'.val) := by
      simpa [UInt32.le_iff_toNat_le, hval] using h
    rw [if_neg h, show c.toLower = _ from dif_neg hother]

theorem toLower_toLower (c : Char) : c.toLower.toLower = c.toLower := by
  have h := toNat_toLower c
  have h' := toNat_toLower c.toLower
  rw [← Char.toNat_inj, h']
  split at h <;> split <;> omega

theorem toLower_eq_iff {c d : Char} (hd : d.toNat < 65) : c.toLower = d ↔ c = d := by
  rw [← Char.toNat_inj, ← Char.toNat_inj, toNat_toLower]
  split <;> omega

@[simp] theorem lower_lower (cs : List Char) : lower (lower cs) = lower cs := by
  rw [lower, lower, List.map_map]
  exact List.map_congr_left fun c _ => toLower_toLower c

theorem mem_lower_iff {d : Char} {cs : List Char} (hd : d.toNat < 65) : d ∈ lower cs ↔ d ∈ cs := by
  simp [lower, toLower_eq_iff hd]

end Case

section Parts

variable {c d : Char} {cs : List Char}

/-- The characters between the separators are all the others. -/
theorem eq_or_of_splitOn {inClass : Char → Bool}
    (h : ∀ part ∈ cs.splitOn d, ∀ c ∈ part, inClass c = true) (hc : c ∈ cs) :
    c = d ∨ inClass c = true := by
  induction cs with
  | nil => cases hc
  | cons e cs ih =>
    obtain ⟨part, parts, hparts⟩ := List.exists_cons_of_ne_nil (List.splitOn_ne_nil d cs)
    rw [List.splitOn_eq_splitOnP] at h hparts ih
    rw [List.splitOnP_cons_eq_if_modifyHead, hparts] at h
    rw [hparts] at ih
    by_cases he : e = d
    · rcases List.mem_cons.1 hc with rfl | hc
      · exact .inl he
      · rw [if_pos (by simpa using he)] at h
        exact ih (fun other hother => h other (List.mem_cons_of_mem _ hother)) hc
    · rw [if_neg (by simpa using he), List.modifyHead_cons] at h
      have hhead := h (e :: part) (List.mem_cons_self ..)
      rcases List.mem_cons.1 hc with rfl | hc
      · exact .inr (hhead c (List.mem_cons_self ..))
      · refine ih (fun other hother => ?_) hc
        rcases List.mem_cons.1 hother with rfl | hother
        · exact fun f hf => hhead f (List.mem_cons_of_mem _ hf)
        · exact h other (List.mem_cons_of_mem _ hother)

/-- A character that has no case separates the same parts in lower case. -/
theorem splitOn_lower (hd : d.toNat < 65) (cs : List Char) :
    (lower cs).splitOn d = (cs.splitOn d).map lower := by
  induction cs with
  | nil => simp [List.splitOn_nil]
  | cons e cs ih =>
    obtain ⟨part, parts, hparts⟩ := List.exists_cons_of_ne_nil (List.splitOn_ne_nil d cs)
    have hlower : lower (e :: cs) = e.toLower :: lower cs := rfl
    rw [hlower, List.splitOn_eq_splitOnP, List.splitOn_eq_splitOnP, List.splitOnP_cons_eq_if_modifyHead,
      List.splitOnP_cons_eq_if_modifyHead, ← List.splitOn_eq_splitOnP, ← List.splitOn_eq_splitOnP, ih,
      hparts]
    have hsame : (e.toLower == d) = (e == d) := by
      rw [Bool.eq_iff_iff, beq_iff_eq, beq_iff_eq]
      exact toLower_eq_iff hd
    rw [hsame]
    cases e == d <;> rfl

end Parts

end OverlayChain.Text
