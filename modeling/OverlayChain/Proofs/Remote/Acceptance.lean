import OverlayChain.Proofs.Remote.Identity

/-!
# What is read as a remote reference

A text that is read as a remote reference begins with an opening of the host part, has a host, and
its path is trimmed. A repository on a server that is written without its suffix is cut behind the
second segment, but only the first one is looked at: the second may be empty, and a query may stand
in the first, so that no second one is left.

## Main definitions

- `Remote.IsPair`: two segments with a separator between them.
- `Remote.NamesPair`: what has to stand behind the host part for that.

## Main statements

- `Remote.exists_opening_of_splitHost`: a text with a host part begins with an opening.
- `Remote.CutsRepository.exists_owner`: a repository without its suffix has an owner.
- `Remote.CutsRepository.isPair_iff`: when it is a pair of an owner and a name.
- `RemoteRef.parse?_accepts`: what is read as a remote reference.
-/

namespace OverlayChain.Remote

variable {cs owner owner' below below' name rest : List Char} {parts : Parts}

/-- Two segments that hold something, and no separator. -/
structure Filled (owner name : List Char) : Prop where
  owner_ne : owner ≠ []
  owner_slash : '/' ∉ owner
  name_ne : name ≠ []
  name_slash : '/' ∉ name

/-- Two segments with a separator between them. -/
def IsPair (cs : List Char) : Prop :=
  ∃ owner name, Filled owner name ∧ cs = owner ++ '/' :: name

/-- Two segments stand behind the host part, up to a third one or up to the query. -/
def NamesPair (rest : List Char) : Prop :=
  ∃ owner name more, Filled owner name ∧ rest = owner ++ '/' :: (name ++ more) ∧
    (more.head? = some '/' ∨ (peelQuery rest).1 = owner ++ '/' :: name)

/-- The first segment ends at the first separator. -/
theorem eq_of_append_slash (hslash : '/' ∉ owner) (hslash' : '/' ∉ owner')
    (h : owner ++ '/' :: below = owner' ++ '/' :: below') : owner = owner' ∧ below = below' := by
  have hfirst := Text.splitFirst?_cons_of_not_mem hslash below
  have hfirst' := Text.splitFirst?_cons_of_not_mem hslash' below'
  rw [h, hfirst'] at hfirst
  cases hfirst
  exact ⟨rfl, rfl⟩

/-- A pair is cut at its only separator. -/
theorem isPair_append_iff (howner : owner ≠ []) (hslash : '/' ∉ owner) (hname : '/' ∉ name) :
    IsPair (owner ++ '/' :: name) ↔ name ≠ [] := by
  constructor
  · rintro ⟨owner', name', hfilled, heq⟩
    rw [(eq_of_append_slash hslash hfilled.owner_slash heq).2]
    exact hfilled.name_ne
  · intro hne
    exact ⟨owner, name, ⟨howner, hslash, hne, hname⟩, rfl⟩

/-- A text with a host part begins with an opening. -/
theorem exists_opening_of_splitHost (h : (splitHost cs).1 ≠ []) :
    ∃ opening ∈ openings, Text.lower opening <+: Text.lower cs := by
  obtain ⟨taken, rest, hopens⟩ := exists_opens openings cs
  obtain ⟨used, hused, rfl⟩ := hopens.exists_sublist
  cases used with
  | nil =>
    -- Nothing is taken off, so there is no host part.
    have hlength := hopens.length_eq
    have hrest : rest = cs := hopens.suffix.eq_of_length (by simpa using hlength.symm)
    rw [hrest] at hopens
    exact absurd (congrArg Prod.fst (splitHost_of_opens_nil hopens)) h
  | cons opening used =>
    refine ⟨opening, hused.subset (List.mem_cons_self ..), ?_⟩
    rw [hopens.lower_eq, List.flatten_cons, Text.lower_append, List.append_assoc]
    exact List.prefix_append _ _

/-- What is left of two segments before a query. -/
theorem peelQuery_segments (hslash : '/' ∉ owner) (name : List Char) :
    '/' ∉ (peelQuery (owner ++ '/' :: name)).1 ∨
      ∃ kept more, name = kept ++ more ∧ (peelQuery (owner ++ '/' :: name)).1 = owner ++ '/' :: kept := by
  obtain ⟨after, hafter, -⟩ := exists_eq_peelQuery_append (owner ++ '/' :: name)
  rcases List.append_eq_append_iff.1 hafter.symm with ⟨cut, howner, -⟩ | ⟨cut, hpeeled, hrest⟩
  · left
    intro hmem
    exact hslash (howner ▸ List.mem_append_left cut hmem)
  · cases cut with
    | nil =>
      left
      rw [hpeeled, List.append_nil]
      exact hslash
    | cons c kept =>
      obtain ⟨rfl, hkept⟩ := List.cons.inj hrest
      exact .inr ⟨kept, after, hkept, hpeeled⟩

/-- Before a third segment only the second one may be empty. -/
theorem namesPair_deep_iff (howner : owner ≠ []) (hslash : '/' ∉ owner) (hname : '/' ∉ name)
    (inner : List Char) : NamesPair (owner ++ '/' :: (name ++ '/' :: inner)) ↔ name ≠ [] := by
  constructor
  · rintro ⟨owner', name', more, hfilled, heq, -⟩ rfl
    -- The second segment is empty, so a separator follows the first one at once.
    obtain ⟨-, hbehind⟩ := eq_of_append_slash hslash hfilled.owner_slash heq
    rw [List.nil_append] at hbehind
    obtain ⟨c, kept, rfl⟩ := List.exists_cons_of_ne_nil hfilled.name_ne
    have hc : '/' = c := (List.cons.inj hbehind).1
    exact hfilled.name_slash (hc ▸ List.mem_cons_self ..)
  · intro hne
    exact ⟨owner, name, '/' :: inner, ⟨howner, hslash, hne, hname⟩, rfl, .inl rfl⟩

/-- Without a third segment both have to stand before the query. -/
theorem namesPair_flat_iff (hslash : '/' ∉ owner) (hname : '/' ∉ name) :
    NamesPair (owner ++ '/' :: name) ↔ IsPair (peelQuery (owner ++ '/' :: name)).1 := by
  constructor
  · rintro ⟨owner', name', more, hfilled, heq, hhead | hpeeled⟩
    · -- A third segment would need a second separator.
      obtain ⟨inner, rfl⟩ := List.head?_eq_some_iff.1 hhead
      obtain ⟨-, rfl⟩ := eq_of_append_slash hslash hfilled.owner_slash heq
      exact absurd (by simp) hname
    · exact ⟨owner', name', hfilled, hpeeled⟩
  · rintro ⟨owner', name', hfilled, heq⟩
    obtain ⟨after, hafter, -⟩ := exists_eq_peelQuery_append (owner ++ '/' :: name)
    refine ⟨owner', name', after, hfilled, ?_, .inr heq⟩
    rw [hafter, heq, List.append_assoc, List.cons_append]

/-- A repository on a server without its suffix begins with an owner, behind which at most a name
follows. -/
theorem CutsRepository.exists_owner (h : CutsRepository rest parts)
    (hplain : parts.suffixed = false) (hne : parts.repository ≠ []) :
    ∃ owner, owner ≠ [] ∧ '/' ∉ owner ∧
      (parts.repository = owner ∨ ∃ name, '/' ∉ name ∧ parts.repository = owner ++ '/' :: name) := by
  cases h with
  | suffixed => cases hplain
  | @deep owner name inner _ howner hslash hname =>
    exact ⟨owner, howner, hslash, .inr ⟨name, hname, rfl⟩⟩
  | @flat owner name _ howner hslash hname =>
    rcases peelQuery_segments hslash name with hsingle | ⟨kept, more, rfl, hpeeled⟩
    · exact ⟨_, hne, hsingle, .inl rfl⟩
    · rw [List.mem_append, not_or] at hname
      exact ⟨owner, howner, hslash, .inr ⟨kept, hname.1, hpeeled⟩⟩

/-- A repository on a server without its suffix is a pair exactly if two segments stand behind the
host part. -/
theorem CutsRepository.isPair_iff (h : CutsRepository rest parts)
    (hplain : parts.suffixed = false) : IsPair parts.repository ↔ NamesPair rest := by
  cases h with
  | suffixed => cases hplain
  | @deep owner name inner _ howner hslash hname =>
    rw [isPair_append_iff howner hslash hname, namesPair_deep_iff howner hslash hname]
  | flat _ _ hslash hname => exact (namesPair_flat_iff hslash hname).symm

end OverlayChain.Remote

namespace OverlayChain.RemoteRef

open Remote

variable {text : String} {a : RemoteRef} {host rest : List Char}

/-- A clone URL that ends with the repository has no suffix. -/
theorem Reads.suffixed_eq_false (h : Reads text a host rest)
    (hurl : a.cloneUrl = a.host ++ a.repository) : (cutRest host rest).suffixed = false := by
  have hcloned := congrArg String.toList hurl
  rw [String.toList_append, h.toList_cloneUrl, h.toList_host, h.toList_repository, cloned]
    at hcloned
  have hsuffix := List.append_cancel_left hcloned
  rw [List.append_right_eq_self, Parts.suffix] at hsuffix
  split at hsuffix
  · cases hsuffix
  · next hplain => exact eq_false_of_ne_true hplain

/-- What is read as a remote reference begins with an opening, in any case, and not at the root. Its
host is not empty and its path has no separator at its ends. A repository on a server that is cloned
without the suffix has an owner and at most a name, and it is a pair of both exactly if two segments
stand behind the host part: if the second is not empty, and, unless a third follows, does not begin
with a query, and none stands in the first. -/
theorem parse?_accepts (h : parse? text = some a) :
    (∃ opening ∈ openings, Text.lower opening <+: Text.lower text.toList) ∧
      (Path.mk text).isAbsolute = false ∧ a.host ≠ "" ∧
      a.path.toList.head? ≠ some '/' ∧ a.path.toList.getLast? ≠ some '/' ∧
      (a.host ≠ "file://" → a.cloneUrl = a.host ++ a.repository →
        (∃ owner, owner ≠ [] ∧ '/' ∉ owner ∧ (a.repository.toList = owner ∨
          ∃ name, '/' ∉ name ∧ a.repository.toList = owner ++ '/' :: name)) ∧
        (IsPair a.repository.toList ↔ NamesPair (splitHost text.toList).2)) := by
  obtain ⟨hlocal, -⟩ := parse?_eq_some_iff.1 h
  obtain ⟨host, rest, hreads⟩ := exists_reads h
  have hhost : (splitHost text.toList).1 ≠ [] := by
    rw [hreads.split]
    exact hreads.host_ne
  have hpath : a.path.toList = Text.dropEnds (· == '/') (cutRest host rest).path := by
    rw [hreads.eq]
    simp [ofParts]
  obtain ⟨hfirst, hlast⟩ := Text.ends_dropEnds (· == '/') (cutRest host rest).path
  refine ⟨exists_opening_of_splitHost hhost, (Bool.or_eq_false_iff.1 hlocal).2, ?_, ?_, ?_, ?_⟩
  · exact fun hempty => hreads.host_ne ((hreads.host_eq_iff "").1 hempty)
  · rw [hpath]
    exact fun hslash => absurd (hfirst '/' hslash) (by decide)
  · rw [hpath]
    exact fun hslash => absurd (hlast '/' hslash) (by decide)
  · intro hfile hurl
    have hplain := hreads.suffixed_eq_false hurl
    have hne := hreads.repository_ne
    have hcut : cutRest host rest = splitRepository rest :=
      if_neg fun heq => hfile ((hreads.host_eq_iff "file://").2 heq)
    rw [hcut] at hplain hne
    rw [hreads.toList_repository, hcut, hreads.split]
    have hparts := cutsRepository_of_ne hne
    exact ⟨hparts.exists_owner hplain hne, hparts.isPair_iff hplain⟩

/-- A repository with an owner and a name, and a query behind it. -/
theorem Sample.pair_accepted :
    ∃ a, parse? "GitHub.com/org/repo?ref=v1" = some a ∧ a.host ≠ "file://" ∧
      a.cloneUrl = a.host ++ a.repository ∧ IsPair a.repository.toList := by
  have h : parse? "GitHub.com/org/repo?ref=v1" = some ⟨"GitHub.com/org/repo?ref=v1",
      "https://github.com/", "org/repo", "", some "v1", false⟩ := by decide +kernel
  refine ⟨_, h, by decide, by decide +kernel, ?_⟩
  obtain ⟨-, -, -, -, -, hpair⟩ := parse?_accepts h
  refine (hpair (by decide) (by decide +kernel)).2.2 ?_
  refine ⟨"org".toList, "repo".toList, "?ref=v1".toList, ?_, by decide +kernel, .inr ?_⟩
  · exact ⟨by decide, by decide, by decide, by decide⟩
  · decide +kernel

/-- The name behind the owner may be empty, and the text is a remote reference still. -/
theorem Sample.name_missing :
    ∃ a, parse? "github.com/org/" = some a ∧ a.host ≠ "file://" ∧
      a.cloneUrl = a.host ++ a.repository ∧ ¬ IsPair a.repository.toList := by
  have h : parse? "github.com/org/" = some ⟨"github.com/org/", "https://github.com/", "org/", "", none,
      false⟩ := by decide +kernel
  refine ⟨_, h, by decide, by decide +kernel, fun hpair => ?_⟩
  have hiff : IsPair ("org".toList ++ '/' :: []) ↔ [] ≠ [] :=
    isPair_append_iff (by decide) (by decide) (by decide)
  exact hiff.1 hpair rfl

end OverlayChain.RemoteRef
