import Mathlib.Computability.Language
import OverlayChain.Text.Pattern

/-!
# The language of a pattern

What a pattern covers is said apart from the order in which a match is tried: a language for each
way to put patterns together. The match goes on with a test of the rest, so it is compared with the
language for every test.

## Main definitions

- `Text.Pattern.language`: the texts that a pattern stands for.

## Main statements

- `Text.Pattern.matchesThen_iff`: a match cuts a text of the language off.
- `Text.Pattern.covers_iff`: a pattern covers the texts of its language.
- `Text.Pattern.mem_atMost_one_iff`: so many characters of a class at most.
-/

namespace OverlayChain.Text.Pattern

variable {inClass : Char → Bool} {cs : List Char} {count : Nat}

/-- The texts that a pattern stands for. -/
def language : Pattern → Language Char
  | one inClass => {cs | ∃ c, inClass c = true ∧ cs = [c]}
  | andThen first second => first.language * second.language
  | optional body => 1 + body.language
  | atMost count body => {cs | ∃ turns ≤ count, cs ∈ body.language ^ turns}

theorem mem_one_iff : cs ∈ (one inClass).language ↔ ∃ c, inClass c = true ∧ cs = [c] := Iff.rfl

theorem mem_andThen_iff {first second : Pattern} :
    cs ∈ (andThen first second).language ↔
      ∃ before ∈ first.language, ∃ after ∈ second.language, before ++ after = cs :=
  Language.mem_mul

theorem mem_optional_iff {body : Pattern} :
    cs ∈ (optional body).language ↔ cs = [] ∨ cs ∈ body.language := by
  show cs ∈ 1 + body.language ↔ _
  rw [Language.mem_add, Language.mem_one]

theorem mem_atMost_iff {body : Pattern} :
    cs ∈ (atMost count body).language ↔ ∃ turns ≤ count, cs ∈ body.language ^ turns := Iff.rfl

/-- So many turns and a last test, if a turn and a test is what a language says. -/
theorem repeatThen_iff {turn : (List Char → Bool) → List Char → Bool} {l : Language Char}
    (hturn : ∀ next cs, turn next cs = true ↔
      ∃ before after, cs = before ++ after ∧ before ∈ l ∧ next after = true)
    (count : Nat) (next : List Char → Bool) (cs : List Char) :
    repeatThen turn count next cs = true ↔
      ∃ before after, cs = before ++ after ∧ (∃ turns ≤ count, before ∈ l ^ turns) ∧
        next after = true := by
  induction count generalizing cs with
  | zero =>
    simp only [repeatThen, Nat.le_zero, exists_eq_left, pow_zero, Language.mem_one]
    constructor
    · intro h
      exact ⟨[], cs, rfl, rfl, h⟩
    · rintro ⟨_, after, rfl, rfl, h⟩
      exact h
  | succ count ih =>
    rw [repeatThen, Bool.or_eq_true, hturn]
    constructor
    · rintro (⟨first, rest, rfl, hfirst, hrest⟩ | h)
      · obtain ⟨before, after, rfl, ⟨turns, hle, hbefore⟩, hnext⟩ := (ih rest).1 hrest
        refine ⟨first ++ before, after, by simp, ⟨turns + 1, by omega, ?_⟩, hnext⟩
        rw [pow_succ']
        exact Language.append_mem_mul hfirst hbefore
      · exact ⟨[], cs, rfl, ⟨0, by omega, by simp⟩, h⟩
    · rintro ⟨before, after, rfl, ⟨turns, hle, hbefore⟩, hnext⟩
      cases turns with
      | zero =>
        -- No turn is taken, so the test is for the text itself.
        right
        have hnil : before = [] := by simpa using hbefore
        rwa [hnil]
      | succ turns =>
        left
        rw [pow_succ', Language.mem_mul] at hbefore
        obtain ⟨first, hfirst, more, hmore, rfl⟩ := hbefore
        refine ⟨first, more ++ after, by simp, hfirst, ?_⟩
        exact (ih (more ++ after)).2 ⟨more, after, rfl, ⟨turns, by omega, hmore⟩, hnext⟩

/-- A match cuts a text of the language off, whatever the test of the rest. -/
theorem matchesThen_iff (pattern : Pattern) (next : List Char → Bool) (cs : List Char) :
    pattern.matchesThen next cs = true ↔
      ∃ before after, cs = before ++ after ∧ before ∈ pattern.language ∧ next after = true := by
  induction pattern generalizing next cs with
  | one inClass =>
    cases cs with
    | nil => simp [matchesThen, mem_one_iff]
    | cons c rest =>
      rw [matchesThen, Bool.and_eq_true]
      constructor
      · rintro ⟨hc, hnext⟩
        exact ⟨[c], rest, rfl, ⟨c, hc, rfl⟩, hnext⟩
      · rintro ⟨_, after, heq, ⟨d, hd, rfl⟩, hnext⟩
        cases heq
        exact ⟨hd, hnext⟩
  | andThen first second ihfirst ihsecond =>
    rw [matchesThen, ihfirst]
    simp only [ihsecond, mem_andThen_iff]
    constructor
    · rintro ⟨before, _, rfl, hbefore, middle, after, rfl, hmiddle, hnext⟩
      exact ⟨before ++ middle, after, by simp, ⟨before, hbefore, middle, hmiddle, rfl⟩, hnext⟩
    · rintro ⟨_, after, rfl, ⟨before, hbefore, middle, hmiddle, rfl⟩, hnext⟩
      exact ⟨before, middle ++ after, by simp, hbefore, middle, after, rfl, hmiddle, hnext⟩
  | optional body ih =>
    rw [matchesThen, Bool.or_eq_true, ih]
    simp only [mem_optional_iff]
    constructor
    · rintro (⟨before, after, rfl, hbefore, hnext⟩ | hnext)
      · exact ⟨before, after, rfl, .inr hbefore, hnext⟩
      · exact ⟨[], cs, rfl, .inl rfl, hnext⟩
    · rintro ⟨before, after, rfl, rfl | hbefore, hnext⟩
      · exact .inr hnext
      · exact .inl ⟨before, after, rfl, hbefore, hnext⟩
  | atMost count body ih =>
    rw [matchesThen, repeatThen_iff ih]
    simp only [mem_atMost_iff]

/-- A pattern covers the texts of its language. -/
theorem covers_iff (pattern : Pattern) (cs : List Char) :
    pattern.covers cs = true ↔ cs ∈ pattern.language := by
  rw [covers, matchesThen_iff]
  constructor
  · rintro ⟨before, after, rfl, hbefore, hafter⟩
    have hnil : after = [] := by simpa using hafter
    simpa [hnil] using hbefore
  · intro h
    exact ⟨cs, [], by simp, h, rfl⟩

/-- So many characters of a class. -/
theorem mem_one_pow_iff (count : Nat) (cs : List Char) :
    cs ∈ (one inClass).language ^ count ↔ cs.length = count ∧ ∀ c ∈ cs, inClass c = true := by
  induction count generalizing cs with
  | zero =>
    rw [pow_zero, Language.mem_one, List.length_eq_zero_iff]
    constructor
    · rintro rfl
      simp
    · exact And.left
  | succ count ih =>
    rw [pow_succ', Language.mem_mul]
    constructor
    · rintro ⟨_, ⟨c, hc, rfl⟩, rest, hrest, rfl⟩
      obtain ⟨hlength, hall⟩ := (ih rest).1 hrest
      simpa [hlength, hc] using hall
    · rintro ⟨hlength, hall⟩
      obtain ⟨c, rest, rfl⟩ := List.exists_of_length_succ cs hlength
      rw [List.forall_mem_cons] at hall
      refine ⟨[c], ⟨c, hall.1, rfl⟩, rest, (ih rest).2 ⟨by simpa using hlength, hall.2⟩, rfl⟩

theorem mem_atMost_one_iff :
    cs ∈ (atMost count (one inClass)).language ↔
      cs.length ≤ count ∧ ∀ c ∈ cs, inClass c = true := by
  simp only [mem_atMost_iff, mem_one_pow_iff]
  constructor
  · rintro ⟨turns, hle, rfl, hall⟩
    exact ⟨hle, hall⟩
  · rintro ⟨hle, hall⟩
    exact ⟨cs.length, hle, rfl, hall⟩

end OverlayChain.Text.Pattern
