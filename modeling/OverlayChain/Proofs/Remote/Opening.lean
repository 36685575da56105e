import Mathlib.Data.List.Sublists
import OverlayChain.Proofs.Text.Search
import OverlayChain.Remote.Split

/-!
# The openings of a reference

Openings are taken off a text one after the other, each at most once.

## Main definitions

- `Remote.Takes`: an opening is taken off a text.
- `Remote.Opens`: the openings that are taken off a text, and what is left.

## Main statements

- `Remote.Opens.before`: the same openings are taken off a shorter text.
- `Remote.Opens.query`: what a query changes about the openings.
-/

namespace OverlayChain.Remote

variable {opening cs taken rest : List Char} {openers : List (List Char)}

/-- An opening is taken off a text that begins with it, in any case, and goes on after it. -/
def Takes (opening cs : List Char) : Prop :=
  opening.length < cs.length ∧ Text.lower opening <+: Text.lower cs

theorem takeOpening_of_takes (h : Takes opening cs) (host : List Char) :
    takeOpening (host, cs) opening = (host ++ opening, cs.drop opening.length) := by
  have hhead : Text.lower (cs.take opening.length) = Text.lower opening := by
    have htake := List.prefix_iff_eq_take.1 h.2
    rw [Text.length_lower] at htake
    rw [htake, Text.lower, List.map_take]
    rfl
  rw [takeOpening, if_pos h.1, Text.dropPrefixIgnoringCase?,
    if_pos (by simpa [Text.sameIgnoringCase] using hhead)]

theorem takeOpening_of_not_takes (h : ¬ Takes opening cs) (host : List Char) :
    takeOpening (host, cs) opening = (host, cs) := by
  by_cases hlength : opening.length < cs.length
  · have hhead : Text.lower (cs.take opening.length) ≠ Text.lower opening := by
      intro hhead
      refine h ⟨hlength, ?_⟩
      rw [← hhead, Text.lower, Text.lower, List.map_take]
      exact List.take_prefix _ _
    rw [takeOpening, if_pos hlength, Text.dropPrefixIgnoringCase?,
      if_neg (by simpa [Text.sameIgnoringCase] using hhead)]
  · rw [takeOpening, if_neg hlength]

/-- The openings that are taken off a text, in their normal spelling, and the text that is left. -/
inductive Opens : List (List Char) → List Char → List Char → List Char → Prop
  | nil (cs : List Char) : Opens [] cs [] cs
  | take {opening cs taken rest : List Char} {openers : List (List Char)} (h : Takes opening cs)
      (hrest : Opens openers (cs.drop opening.length) taken rest) :
      Opens (opening :: openers) cs (opening ++ taken) rest
  | skip {opening cs taken rest : List Char} {openers : List (List Char)} (h : ¬ Takes opening cs)
      (hrest : Opens openers cs taken rest) : Opens (opening :: openers) cs taken rest

theorem exists_opens (openers : List (List Char)) (cs : List Char) :
    ∃ taken rest, Opens openers cs taken rest := by
  induction openers generalizing cs with
  | nil => exact ⟨_, _, .nil cs⟩
  | cons opening openers ih =>
    by_cases h : Takes opening cs
    · obtain ⟨taken, rest, hrest⟩ := ih (cs.drop opening.length)
      exact ⟨_, _, .take h hrest⟩
    · obtain ⟨taken, rest, hrest⟩ := ih cs
      exact ⟨_, _, .skip h hrest⟩

theorem Opens.foldl_takeOpening (h : Opens openers cs taken rest) (host : List Char) :
    openers.foldl takeOpening (host, cs) = (host ++ taken, rest) := by
  induction h generalizing host with
  | nil cs => simp
  | take htakes _ ih => rw [List.foldl_cons, takeOpening_of_takes htakes, ih, List.append_assoc]
  | skip htakes _ ih => rw [List.foldl_cons, takeOpening_of_not_takes htakes, ih]

/-- Taking openings off changes nothing but their case. -/
theorem Opens.lower_eq (h : Opens openers cs taken rest) :
    Text.lower cs = Text.lower taken ++ Text.lower rest := by
  induction h with
  | nil cs => simp
  | @take opening cs taken rest openers htakes _ ih =>
    have hhead := List.prefix_iff_eq_take.1 htakes.2
    rw [Text.length_lower] at hhead
    rw [Text.lower_append, List.append_assoc, ← ih, hhead, Text.lower, Text.lower, List.map_drop,
      List.take_append_drop]
  | skip _ _ ih => exact ih

theorem Opens.length_eq (h : Opens openers cs taken rest) :
    cs.length = taken.length + rest.length := by
  have hlength := congrArg List.length h.lower_eq
  simpa using hlength

theorem Opens.rest_ne_nil (h : Opens openers cs taken rest) (hcs : cs ≠ []) : rest ≠ [] := by
  induction h with
  | nil cs => exact hcs
  | take htakes _ ih =>
    refine ih fun hnil => ?_
    have hle := List.drop_eq_nil_iff.1 hnil
    have hlt := htakes.1
    omega
  | skip _ _ ih => exact ih hcs

theorem Opens.suffix (h : Opens openers cs taken rest) : rest <:+ cs := by
  induction h with
  | nil cs => exact List.suffix_rfl
  | take _ _ ih => exact ih.trans (List.drop_suffix _ _)
  | skip _ _ ih => exact ih

theorem Opens.exists_sublist (h : Opens openers cs taken rest) :
    ∃ used : List (List Char), used.Sublist openers ∧ taken = used.flatten := by
  induction h with
  | nil cs => exact ⟨[], .slnil, rfl⟩
  | @take opening cs taken rest openers _ _ ih =>
    obtain ⟨used, hused, rfl⟩ := ih
    exact ⟨opening :: used, hused.cons_cons opening, rfl⟩
  | skip _ _ ih =>
    obtain ⟨used, hused, rfl⟩ := ih
    exact ⟨used, hused.cons _, rfl⟩

/-- Before a text with which the rest begins, in any case, the same openings are taken. -/
theorem Opens.before (h : Opens openers cs taken rest) {more : List Char} (hmore : more ≠ [])
    (hbegins : Text.lower more <+: Text.lower rest) : Opens openers (taken ++ more) taken more := by
  induction h with
  | nil cs => exact .nil more
  | @take opening cs taken rest openers htakes hrest ih =>
    have htakes' : Takes opening (opening ++ (taken ++ more)) := by
      refine ⟨?_, by simp⟩
      have hpos := List.length_pos_iff.2 hmore
      simp only [List.length_append]
      omega
    rw [List.append_assoc]
    refine .take htakes' ?_
    rw [List.drop_left]
    exact ih hbegins
  | @skip opening cs taken rest openers htakes hrest ih =>
    refine .skip (fun hmoretakes => htakes ?_) (ih hbegins)
    -- The text begins with what was taken and with the shorter text.
    have hwhole : Text.lower (taken ++ more) <+: Text.lower cs := by
      rw [hrest.lower_eq, Text.lower_append]
      exact (List.prefix_append_right_inj _).2 hbegins
    have hle := hwhole.length_le
    rw [Text.length_lower, Text.length_lower] at hle
    exact ⟨Nat.lt_of_lt_of_le hmoretakes.1 hle, hmoretakes.2.trans hwhole⟩

theorem opens_of_not_takes (h : ∀ opening ∈ openers, ¬ Takes opening cs) : Opens openers cs [] cs := by
  induction openers with
  | nil => exact .nil cs
  | cons opening openers ih =>
    exact .skip (h opening (List.mem_cons_self ..)) (ih fun other hother => h other (.tail _ hother))

/-- Nothing is taken off a text that begins with a character of no opening. -/
theorem opens_excluded {d : Char} (hd : d.toLower = d)
    (hopeners : ∀ opening ∈ openers, opening ≠ [] ∧ d ∉ Text.lower opening) (more : List Char) :
    Opens openers (d :: more) [] (d :: more) := by
  refine opens_of_not_takes fun opening hopening htakes => ?_
  obtain ⟨hne, hplain⟩ := hopeners opening hopening
  have hlower : Text.lower (d :: more) = d :: Text.lower more := by
    rw [Text.lower, List.map_cons, hd, Text.lower]
  have hbegins : Text.lower opening <+: [] ++ d :: Text.lower more := hlower ▸ htakes.2
  have hnil := List.prefix_nil.1 (Text.prefix_of_prefix_append_cons hplain hbegins)
  exact hne (by simpa [Text.lower] using hnil)

theorem Takes.append (h : Takes opening cs) (more : List Char) : Takes opening (cs ++ more) := by
  have hlt := h.1
  refine ⟨?_, ?_⟩
  · rw [List.length_append]
    omega
  · rw [Text.lower_append]
    exact h.2.trans (List.prefix_append _ _)

theorem takes_whole (h : Text.lower opening = Text.lower cs) (more : List Char) :
    Takes opening (cs ++ '?' :: more) := by
  have hlength : opening.length = cs.length := by simpa using congrArg List.length h
  refine ⟨?_, ?_⟩
  · rw [List.length_append, List.length_cons]
    omega
  · rw [Text.lower_append, h]
    exact List.prefix_append _ _

/-- The question mark is in no opening, so an opening does not reach beyond the text before it. -/
theorem Takes.before_question (hopening : '?' ∉ Text.lower opening) {more : List Char}
    (h : Takes opening (cs ++ '?' :: more)) :
    Text.lower opening = Text.lower cs ∨ Takes opening cs := by
  have hbegins := h.2
  rw [Text.lower_append] at hbegins
  have hwithin : Text.lower opening <+: Text.lower cs :=
    Text.prefix_of_prefix_append_cons hopening hbegins
  have hle := hwithin.length_le
  rw [Text.length_lower, Text.length_lower] at hle
  by_cases hlength : opening.length = cs.length
  · exact .inl (hwithin.eq_of_length (by simpa using hlength))
  · exact .inr ⟨Nat.lt_of_le_of_ne hle hlength, hwithin⟩

/-- What is put after a text from a question mark on, stays behind the openings. It makes one more
of them be taken if the text ends with that one, and none else. -/
theorem Opens.query (h : Opens openers cs taken rest)
    (hopeners : ∀ opening ∈ openers, opening ≠ [] ∧ '?' ∉ Text.lower opening) :
    ∃ taken' rest', (∀ more, Opens openers (cs ++ '?' :: more) taken' (rest' ++ '?' :: more)) ∧
      (taken' = taken ∧ rest' = rest ∨ taken' ≠ taken ∧ rest' = []) := by
  induction h with
  | nil cs => exact ⟨[], cs, fun more => .nil _, .inl ⟨rfl, rfl⟩⟩
  | @take opening cs taken rest openers htakes hrest ih =>
    obtain ⟨taken', rest', hopens, hsame⟩ :=
      ih fun other hother => hopeners other (List.mem_cons_of_mem _ hother)
    refine ⟨opening ++ taken', rest', fun more => ?_, ?_⟩
    · refine .take (htakes.append _) ?_
      rw [List.drop_append_of_le_length (Nat.le_of_lt htakes.1)]
      exact hopens more
    · simpa using hsame
  | @skip opening cs taken rest openers htakes hrest ih =>
    have hopener := hopeners opening (List.mem_cons_self ..)
    have hothers := fun other hother => hopeners other (List.mem_cons_of_mem _ hother)
    by_cases hwhole : Text.lower opening = Text.lower cs
    · -- The text is this opening, which the question mark lets be taken.
      have hlength : opening.length = cs.length := by simpa using congrArg List.length hwhole
      refine ⟨opening, [], fun more => ?_, .inr ⟨?_, rfl⟩⟩
      · have hnone := opens_excluded rfl hothers more
        have htaken := Opens.take (takes_whole hwhole more) (by rwa [hlength, List.drop_left])
        simpa using htaken
      · rintro rfl
        have hne : cs ≠ [] := by
          intro hnil
          rw [hnil] at hlength
          exact hopener.1 (List.length_eq_zero_iff.1 hlength)
        have hrestlength := hrest.length_eq
        have hpos := List.length_pos_iff.2 (hrest.rest_ne_nil hne)
        omega
    · obtain ⟨taken', rest', hopens, hsame⟩ := ih hothers
      refine ⟨taken', rest', fun more => .skip (fun hmore => ?_) (hopens more), hsame⟩
      exact (hmore.before_question hopener.2).elim hwhole htakes

end OverlayChain.Remote
