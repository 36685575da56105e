import OverlayChain.Proofs.Remote.Offsets

/-!
# What the parts of a reference are put together from

The parts of the rest of a reference, put one behind the other with the marks that were cut out, are
the rest again: nothing is lost, and nothing is there twice. The marks are the first ones that count,
so a suffix inside a name, or a later one, does not end the repository.

## Main definitions

- `Remote.Parts.joined`: repository, suffix, separator and path.
- `Remote.EndsQuery`: what stands behind the path.
- `Remote.SuffixBehind`: a suffix that ends a name behind a beginning of a text.
- `Remote.EndsAtSuffix`: the repository ends at the first such suffix, if there is one.
- `Remote.JoinsText`: the text before a query, with two slashes or a suffix behind the repository.

## Main statements

- `Remote.CutsRepository.exists_joined`, `Remote.CutsRepository.endsAtSuffix`: the rest of a
  reference to a server.
- `Remote.CutsFile.exists_joinsText`: the rest of a reference to a file of this machine.
- `Remote.cuts_lose_nothing`: both, with the slices of the bytes.
-/

namespace OverlayChain.Remote

open Text

section Marks

variable {cs before after rest : List Char} {parts : Parts}

/-- The parts one behind the other, without the query. -/
def Parts.joined (parts : Parts) (separator : List Char) : List Char :=
  parts.repository ++ parts.suffix ++ separator ++ parts.path

/-- What stands behind the path: nothing, or a query and the branch or tag that it names. -/
def EndsQuery : (ref : Option (List Char)) → (tail : List Char) → Prop
  | none, tail => tail = []
  | some ref, tail => ∃ query ∈ queries, tail = query ++ ref

/-- A suffix stands behind a beginning of a text, and a slash, a question mark or the end of the text
behind the suffix. -/
def SuffixBehind (cs before : List Char) : Prop :=
  ∃ after, cs = before ++ gitSuffix ++ after ∧
    (after = [] ∨ after.head? = some '/' ∨ after.head? = some '?')

/-- The repository ends at the first suffix that ends a name. Without its suffix it was cut because
there is none. -/
structure EndsAtSuffix (cs : List Char) (parts : Parts) : Prop where
  first : parts.suffixed = true → ∀ before, SuffixBehind cs before →
    parts.repository.length ≤ before.length
  missing : parts.suffixed = false → ∀ before, ¬ SuffixBehind cs before

theorem exists_endsQuery (cs : List Char) :
    ∃ tail, cs = (peelQuery cs).1 ++ tail ∧ EndsQuery (peelQuery cs).2 tail := by
  rcases peelQuery_cases cs with hnone | ⟨query, hquery, ref, heq, href⟩
  · rw [hnone]
    exact ⟨[], by simp, rfl⟩
  · rw [href]
    exact ⟨query ++ ref, by rw [← List.append_assoc, ← heq], query, hquery, rfl⟩

theorem endsName_iff :
    endsName after = true ↔ after = [] ∨ after.head? = some '/' ∨ after.head? = some '?' := by
  cases after <;> simp [endsName]

theorem suffixBehind_iff : SuffixBehind cs before ↔
    ∃ rest, cs = before ++ rest ∧ ((dropPrefix? gitSuffix rest).filter endsName).isSome := by
  constructor
  · rintro ⟨after, rfl, hends⟩
    have hdrop : dropPrefix? gitSuffix (gitSuffix ++ after) = some after :=
      dropPrefix?_eq_some_iff.2 rfl
    refine ⟨gitSuffix ++ after, by simp, ?_⟩
    rw [hdrop, Option.filter_some, if_pos (endsName_iff.2 hends)]
    rfl
  · rintro ⟨rest, rfl, hfound⟩
    obtain ⟨after, hafter⟩ := Option.isSome_iff_exists.1 hfound
    obtain ⟨hdrop, hends⟩ := Option.filter_eq_some_iff.1 hafter
    refine ⟨after, ?_, endsName_iff.1 hends⟩
    rw [dropPrefix?_eq_some_iff.1 hdrop, List.append_assoc]

/-- What is cut at a suffix is cut at the first one. -/
theorem endsAtSuffix_of_cut (hcut : splitSuffix? cs = some (before, after))
    (hrepository : parts.repository = before) (hsuffixed : parts.suffixed = true) :
    EndsAtSuffix cs parts where
  first := by
    rintro - front hbehind
    obtain ⟨rest, hcs, hfound⟩ := suffixBehind_iff.1 hbehind
    rw [hrepository]
    exact isSearch_splitSuffix?.length_le hcut hcs hfound
  missing h := by
    rw [hsuffixed] at h
    cases h

theorem endsAtSuffix_of_not_cut (hcut : splitSuffix? cs = none) (hplain : parts.suffixed = false) :
    EndsAtSuffix cs parts where
  first h := by
    rw [hplain] at h
    cases h
  missing := by
    rintro - front hbehind
    obtain ⟨rest, hcs, hfound⟩ := suffixBehind_iff.1 hbehind
    rw [isSearch_splitSuffix?.step_eq_none hcut hcs] at hfound
    cases hfound

end Marks

section Rest

variable {rest : List Char} {parts : Parts}

/-- The rest of a reference to a server is put together from its parts, with at most a slash before
the path, and from the query. -/
theorem CutsRepository.exists_joined (h : CutsRepository rest parts) :
    ∃ separator tail, (separator = [] ∨ separator = ['/']) ∧ EndsQuery parts.ref tail ∧
      rest = parts.joined separator ++ tail := by
  cases h with
  | @suffixed rest repository after hcut =>
    obtain ⟨hrest, -⟩ := eq_of_splitSuffix? hcut
    obtain ⟨tail, hafter, htail⟩ := exists_endsQuery after
    refine ⟨[], tail, .inl rfl, htail, ?_⟩
    rw [hrest, hafter]
    simp [Parts.joined, Parts.suffix, ← hafter]
  | @deep owner name inner =>
    obtain ⟨tail, hinner, htail⟩ := exists_endsQuery inner
    refine ⟨['/'], tail, .inr rfl, htail, ?_⟩
    simp [Parts.joined, Parts.suffix, ← hinner]
  | @flat owner name =>
    obtain ⟨tail, hrest, htail⟩ := exists_endsQuery (owner ++ '/' :: name)
    refine ⟨[], tail, .inl rfl, htail, ?_⟩
    simpa [Parts.joined, Parts.suffix] using hrest

theorem CutsRepository.endsAtSuffix (h : CutsRepository rest parts) : EndsAtSuffix rest parts := by
  cases h with
  | suffixed hcut => exact endsAtSuffix_of_cut hcut rfl rfl
  | deep hplain => exact endsAtSuffix_of_not_cut hplain rfl
  | flat hplain => exact endsAtSuffix_of_not_cut hplain rfl

/-- How the text before the query of a reference to a file is put together: with two slashes before
the path if there are two behind the first character, and then at the first two of them, and
otherwise without a separator, as a suffix says. -/
structure JoinsText (text : List Char) (parts : Parts) (separator : List Char) : Prop where
  joined : text = parts.joined separator
  known : separator = [] ∨ separator = ['/', '/']
  doubled : separator = ['/', '/'] ∧ parts.suffixed = false ↔ ['/', '/'] <:+: text.tail
  first : ∀ before after, before ≠ [] → text = before ++ ['/', '/'] ++ after →
    parts.repository.length ≤ before.length
  suffix : ¬ ['/', '/'] <:+: text.tail → EndsAtSuffix text parts

/-- Without two slashes behind the first character it is the suffix that counts. -/
theorem joinsText_of_single {text : List Char} (hsingle : ¬ ['/', '/'] <:+: text.tail)
    (hjoined : text = parts.joined []) (hsuffix : EndsAtSuffix text parts) :
    JoinsText text parts [] where
  joined := hjoined
  known := .inl rfl
  doubled := by simp [hsingle]
  first := by
    rintro before after hne rfl
    obtain ⟨c, before, rfl⟩ := List.exists_cons_of_ne_nil hne
    exact absurd ⟨before, after, rfl⟩ hsingle
  suffix _ := hsuffix

/-- The query of a reference to a file is cut off first. -/
theorem CutsFile.ref_eq (h : CutsFile rest parts) : parts.ref = (peelQuery rest).2 := by
  cases h <;> rfl

theorem CutsFile.exists_joinsText (h : CutsFile rest parts) :
    ∃ separator, JoinsText (peelQuery rest).1 parts separator := by
  cases h with
  | @nested below repository path hrest hcut =>
    have hbelow := eq_of_splitFirst? hcut
    have hdoubled : ['/', '/'] <:+: below := ⟨repository, path, hbelow.symm⟩
    rw [hrest]
    refine ⟨['/', '/'], ?_, .inr rfl, ?_, ?_, ?_⟩
    · rw [hbelow]
      simp [Parts.joined, Parts.suffix]
    · simpa using hdoubled
    · intro before after hne hcs
      obtain ⟨c, front, rfl⟩ := List.exists_cons_of_ne_nil hne
      have hfront : below = front ++ (['/', '/'] ++ after) := by
        rw [← List.append_assoc]
        exact (List.cons.inj hcs).2
      have hfound : (dropPrefix? ['/', '/'] (['/', '/'] ++ after)).isSome := rfl
      exact Nat.succ_le_succ ((isSearch_splitFirst? _).length_le hcut hfront hfound)
    · intro hsingle
      exact absurd hdoubled hsingle
  | @suffixed below repository path hrest hsingle hcut =>
    refine ⟨[], joinsText_of_single ?_ ?_ (endsAtSuffix_of_cut hcut rfl rfl)⟩
    · rw [hrest]
      exact splitFirst?_eq_none_iff.1 hsingle
    · obtain ⟨htext, -⟩ := eq_of_splitSuffix? hcut
      rw [htext]
      simp [Parts.joined, Parts.suffix]
  | @whole below hrest hsingle hplain =>
    refine ⟨[], joinsText_of_single ?_ ?_ (endsAtSuffix_of_not_cut hplain rfl)⟩
    · rw [hrest]
      exact splitFirst?_eq_none_iff.1 hsingle
    · simp [Parts.joined, Parts.suffix]

end Rest

/-- The rest of a reference that names a repository is put together from its parts and its query,
with at most a separator between repository and path, and the repository ends at the first mark that
counts. As bytes the parts are slices between characters: the cut by offsets fails nowhere, and it
yields the bytes of the same parts. -/
theorem cuts_lose_nothing (rest : String) :
    ((splitRepository rest.toList).repository ≠ [] →
      (∃ separator tail, (separator = [] ∨ separator = ['/']) ∧
        EndsQuery (splitRepository rest.toList).ref tail ∧
        rest.toList = (splitRepository rest.toList).joined separator ++ tail) ∧
      EndsAtSuffix rest.toList (splitRepository rest.toList)) ∧
    ((splitFile rest.toList).repository ≠ [] →
      ∃ text separator tail, rest.toList = text ++ tail ∧
        EndsQuery (splitFile rest.toList).ref tail ∧
        JoinsText text (splitFile rest.toList) separator) ∧
    splitRepositoryBytes? rest.toUTF8.toList = some (splitRepository rest.toList).slices ∧
    splitFileBytes? rest.toUTF8.toList = some (splitFile rest.toList).slices := by
  have hbytes : rest.toUTF8.toList = bytes rest.toList := by
    rw [← toList_toUTF8, String.ofList_toList]
  refine ⟨fun hne => ?_, fun hne => ?_, ?_, ?_⟩
  · have hparts := cutsRepository_of_ne hne
    exact ⟨hparts.exists_joined, hparts.endsAtSuffix⟩
  · have hparts := cutsFile_of_ne hne
    obtain ⟨separator, hjoins⟩ := hparts.exists_joinsText
    obtain ⟨tail, hrest, htail⟩ := exists_endsQuery rest.toList
    refine ⟨_, separator, tail, hrest, ?_, hjoins⟩
    rwa [hparts.ref_eq]
  · rw [hbytes, splitRepositoryBytes?_bytes]
  · rw [hbytes, splitFileBytes?_bytes]

/-- A name with a suffix inside it and one at its end, and characters of two bytes on both sides of the
cuts. -/
theorem Sample.parts_rejoined :
    (splitRepository "org/my.github-é.git/é?ref=v1".toList).repository ≠ [] ∧
      EndsAtSuffix "org/my.github-é.git/é?ref=v1".toList
        (splitRepository "org/my.github-é.git/é?ref=v1".toList) ∧
      (splitFile "/srv/é//é?version=2".toList).repository ≠ [] ∧
      (∃ text separator tail, "/srv/é//é?version=2".toList = text ++ tail ∧
        EndsQuery (splitFile "/srv/é//é?version=2".toList).ref tail ∧
        JoinsText text (splitFile "/srv/é//é?version=2".toList) separator) ∧
      splitFileBytes? "/srv/é//é?version=2".toUTF8.toList =
        some (splitFile "/srv/é//é?version=2".toList).slices := by
  obtain ⟨hserver, -⟩ := cuts_lose_nothing "org/my.github-é.git/é?ref=v1"
  obtain ⟨-, hfile, -, hslices⟩ := cuts_lose_nothing "/srv/é//é?version=2"
  have hrepository : (splitRepository "org/my.github-é.git/é?ref=v1".toList).repository ≠ [] := by
    decide +kernel
  have hpath : (splitFile "/srv/é//é?version=2".toList).repository ≠ [] := by decide +kernel
  exact ⟨hrepository, (hserver hrepository).2, hpath, hfile hpath, hslices⟩

end OverlayChain.Remote
