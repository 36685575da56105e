/-!
# Searching and cutting text

Texts are lists of characters here, so a cut always falls between two characters.

## Main definitions

- `Text.dropPrefix?`: what stands after a pattern at the start.
- `Text.splitFirst?`: what stands before and after the first occurrence of a pattern.
- `Text.occurs`: whether a pattern occurs at all.
- `Text.dropEnds`: remove the characters of a class from both ends.

## Main statements

- `Text.eq_of_splitFirst?`: a cut loses nothing.
-/

namespace OverlayChain.Text

/-- The rest of a text after the pattern that it starts with. -/
def dropPrefix? : (pattern cs : List Char) → Option (List Char)
  | [], cs => some cs
  | _ :: _, [] => none
  | p :: ps, c :: cs => if p = c then dropPrefix? ps cs else none

/-- The text before and the text after the first occurrence of `pattern`. -/
def splitFirst? (pattern : List Char) : List Char → Option (List Char × List Char)
  | [] => if pattern.isEmpty then some ([], []) else none
  | c :: rest =>
    match dropPrefix? pattern (c :: rest) with
    | some after => some ([], after)
    | none => (splitFirst? pattern rest).map fun cut => (c :: cut.1, cut.2)

/-- Whether `pattern` occurs in the text. -/
def occurs (pattern cs : List Char) : Bool := (splitFirst? pattern cs).isSome

/-- The text up to its first character in the class, that character, and the rest. -/
def splitAtClass? (inClass : Char → Bool) : List Char → Option (List Char × Char × List Char)
  | [] => none
  | c :: rest =>
    if inClass c then some ([], c, rest)
    else (splitAtClass? inClass rest).map fun cut => (c :: cut.1, cut.2)

/-- Remove the longest run of class members from the end. -/
def dropEndWhile (inClass : Char → Bool) (cs : List Char) : List Char :=
  (cs.reverse.dropWhile inClass).reverse

/-- Remove the longest runs of class members from both ends. -/
def dropEnds (inClass : Char → Bool) (cs : List Char) : List Char :=
  dropEndWhile inClass (cs.dropWhile inClass)

/-- The part after the last separator, the whole text if there is none. -/
def afterLast (separator : Char) (cs : List Char) : List Char :=
  (cs.reverse.takeWhile (· != separator)).reverse

/-- The rest after a pattern, put after the pattern, is the text. -/
theorem dropPrefix?_eq_some_iff {pattern cs rest : List Char} :
    dropPrefix? pattern cs = some rest ↔ cs = pattern ++ rest := by
  induction pattern generalizing cs with
  | nil => simp [dropPrefix?]
  | cons p ps ih =>
    cases cs with
    | nil => simp [dropPrefix?]
    | cons c cs =>
      by_cases h : p = c
      · subst h
        simp [dropPrefix?, ih]
      · have h' : ¬ c = p := fun e => h e.symm
        simp [dropPrefix?, h, h']

/-- A cut at a pattern loses and invents nothing. -/
theorem eq_of_splitFirst? {pattern cs before after : List Char}
    (h : splitFirst? pattern cs = some (before, after)) : cs = before ++ pattern ++ after := by
  induction cs generalizing before with
  | nil =>
    unfold splitFirst? at h
    split at h
    · rename_i hp
      have hp' : pattern = [] := by simpa using hp
      simp only [Option.some.injEq, Prod.mk.injEq] at h
      simp [← h.1, ← h.2, hp']
    · cases h
  | cons c rest ih =>
    unfold splitFirst? at h
    split at h
    · rename_i after' hp
      simp only [Option.some.injEq, Prod.mk.injEq] at h
      rw [dropPrefix?_eq_some_iff.1 hp, ← h.1, h.2, List.nil_append]
    · obtain ⟨cut, hcut, heq⟩ := Option.map_eq_some_iff.1 h
      simp only [Prod.mk.injEq] at heq
      have hrest : splitFirst? pattern rest = some (cut.1, after) := by rw [hcut, ← heq.2]
      rw [ih hrest, ← heq.1]
      simp

/-- A cut at a class member loses and invents nothing. -/
theorem eq_of_splitAtClass? {inClass : Char → Bool} {cs before after : List Char} {c : Char}
    (h : splitAtClass? inClass cs = some (before, c, after)) :
    cs = before ++ c :: after ∧ inClass c = true ∧ ∀ d ∈ before, inClass d = false := by
  induction cs generalizing before with
  | nil => cases h
  | cons d rest ih =>
    unfold splitAtClass? at h
    split at h
    · rename_i hd
      simp only [Option.some.injEq, Prod.mk.injEq] at h
      obtain ⟨rfl, rfl, rfl⟩ := h
      exact ⟨rfl, hd, by simp⟩
    · rename_i hd
      obtain ⟨cut, hcut, heq⟩ := Option.map_eq_some_iff.1 h
      simp only [Prod.mk.injEq] at heq
      obtain ⟨rfl, heq⟩ := heq
      have hrest : splitAtClass? inClass rest = some (cut.1, c, after) := by rw [hcut, ← heq]
      obtain ⟨h1, h2, h3⟩ := ih hrest
      refine ⟨by rw [h1, List.cons_append], h2, ?_⟩
      intro x hx
      rcases List.mem_cons.1 hx with rfl | hx
      · simpa using hd
      · exact h3 x hx

end OverlayChain.Text
