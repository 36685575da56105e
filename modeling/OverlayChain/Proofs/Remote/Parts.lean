import OverlayChain.Proofs.Path.Text
import OverlayChain.Remote.Reference

/-!
# The parts of a reference

## Main definitions

- `Remote.cutRest`: the cut of what stands behind the host part.
- `RemoteRef.ofParts`: the reference with these parts.

## Main statements

- `RemoteRef.parse?_eq_some_iff`: when a text is a remote reference.
- `Remote.exists_eq_repository_append`: the rest begins with what is cloned.
- `Remote.not_suffix_of_not_suffixed`: a repository cut without its suffix does not end with it.
-/

namespace OverlayChain.Remote

/-- The cut of what stands behind the host part. -/
def cutRest (host rest : List Char) : Parts :=
  if host = RemoteRef.fileHost then splitFile rest else splitRepository rest

/-- The suffix as it stands behind the repository. -/
def Parts.suffix (parts : Parts) : List Char := if parts.suffixed then gitSuffix else []

section Suffix

variable {cs before after : List Char}

theorem isSearch_splitSuffix? :
    Text.IsSearch (fun cs => (Text.dropPrefix? gitSuffix cs).filter endsName) splitSuffix? where
  nil := rfl
  cons _ _ := rfl

theorem eq_of_splitSuffix? (h : splitSuffix? cs = some (before, after)) :
    cs = before ++ gitSuffix ++ after ∧ endsName after = true := by
  induction cs generalizing before with
  | nil => cases h
  | cons c rest ih =>
    rw [splitSuffix?] at h
    cases hdrop : (Text.dropPrefix? gitSuffix (c :: rest)).filter endsName with
    | some after' =>
      rw [hdrop] at h
      cases h
      obtain ⟨hafter, hends⟩ := Option.filter_eq_some_iff.1 hdrop
      exact ⟨Text.dropPrefix?_eq_some_iff.1 hafter, hends⟩
    | none =>
      rw [hdrop] at h
      obtain ⟨cut, hcut, heq⟩ := Option.map_eq_some_iff.1 h
      cases heq
      obtain ⟨hrest, hends⟩ := ih hcut
      exact ⟨congrArg (c :: ·) hrest, hends⟩

theorem splitSuffix?_of_endsName (hends : endsName after = true) :
    splitSuffix? (gitSuffix ++ after) = some ([], after) := by
  have hcons : gitSuffix ++ after = '.' :: ("git".toList ++ after) := rfl
  have hdrop : Text.dropPrefix? gitSuffix (gitSuffix ++ after) = some after :=
    Text.dropPrefix?_eq_some_iff.2 rfl
  rw [hcons] at hdrop ⊢
  rw [splitSuffix?, hdrop, Option.filter_some, if_pos hends]

theorem endsName_of_splitSuffix?_eq_none (h : splitSuffix? (before ++ gitSuffix ++ after) = none) :
    endsName after = false := by
  induction before with
  | nil =>
    cases hends : endsName after with
    | false => rfl
    | true =>
      have hcut := splitSuffix?_of_endsName hends
      exact absurd (h.symm.trans hcut) (by simp)
  | cons c before ih =>
    refine ih ?_
    rw [List.cons_append, List.cons_append, splitSuffix?] at h
    split at h
    · cases h
    · exact Option.map_eq_none_iff.1 h

/-- A character that ends a name does so as the end of the text does. -/
theorem splitSuffix?_append_cons {d : Char} (hends : ∀ more, endsName (d :: more) = true)
    (hd : d ∉ gitSuffix) (cs more : List Char) :
    splitSuffix? (cs ++ d :: more) =
      match splitSuffix? cs with
      | some cut => some (cut.1, cut.2 ++ d :: more)
      | none => (splitSuffix? (d :: more)).map fun cut => (cs ++ cut.1, cut.2) := by
  induction cs with
  | nil => simp [splitSuffix?]
  | cons c rest ih =>
    have hbehind : ∀ after, endsName (after ++ d :: more) = endsName after := by
      intro after
      cases after with
      | nil => exact hends more
      | cons => rfl
    have hdrop : (Text.dropPrefix? gitSuffix (c :: rest ++ d :: more)).filter endsName =
        ((Text.dropPrefix? gitSuffix (c :: rest)).filter endsName).map (· ++ d :: more) := by
      cases hcut : Text.dropPrefix? gitSuffix (c :: rest) with
      | some after =>
        have hlong : Text.dropPrefix? gitSuffix (c :: rest ++ d :: more) =
            some (after ++ d :: more) := by
          rw [Text.dropPrefix?_eq_some_iff, Text.dropPrefix?_eq_some_iff.1 hcut, List.append_assoc]
        rw [hlong, Option.filter_some, Option.filter_some, hbehind]
        split <;> rfl
      | none =>
        have hlong : Text.dropPrefix? gitSuffix (c :: rest ++ d :: more) = none := by
          rw [Text.dropPrefix?_eq_none_iff] at hcut ⊢
          exact fun hbegins => hcut (Text.prefix_of_prefix_append_cons hd hbegins)
        rw [hlong]
        rfl
    rw [List.cons_append] at hdrop ⊢
    rw [splitSuffix?, splitSuffix?, hdrop, ih]
    cases (Text.dropPrefix? gitSuffix (c :: rest)).filter endsName with
    | some after => rfl
    | none =>
      cases splitSuffix? rest with
      | some cut => rfl
      | none => simp [Function.comp_def]

theorem splitSuffix?_append_of_not_mem (h : '.' ∉ before) (cs : List Char) :
    splitSuffix? (before ++ cs) = (splitSuffix? cs).map fun cut => (before ++ cut.1, cut.2) := by
  induction before with
  | nil => simp
  | cons c before ih =>
    have hc : ¬ '.' = c := fun hc => h (hc ▸ List.mem_cons_self ..)
    have hdrop : Text.dropPrefix? gitSuffix (c :: (before ++ cs)) = none := by
      rw [Text.dropPrefix?_eq_none_iff]
      exact fun hbegins => hc (List.cons_prefix_cons.1 hbegins).1
    rw [List.cons_append, splitSuffix?, hdrop, ih fun hmem => h (.tail _ hmem)]
    simp [Function.comp_def]

end Suffix

section Query

variable {cs before ref : List Char}

theorem peelQuery_of_not_mem (h : '?' ∉ cs) : peelQuery cs = (cs, none) := by
  have href : Text.splitFirst? "?ref=".toList cs = none := Text.splitFirst?_of_not_mem h
  have hversion : Text.splitFirst? "?version=".toList cs = none := Text.splitFirst?_of_not_mem h
  rw [peelQuery, href, hversion]

/-- The queries that name a branch or a tag. -/
def queries : List (List Char) := ["?ref=".toList, "?version=".toList]

theorem peelQuery_cases (cs : List Char) :
    peelQuery cs = (cs, none) ∨
      ∃ query ∈ queries, ∃ ref, cs = (peelQuery cs).1 ++ query ++ ref ∧ (peelQuery cs).2 = some ref := by
  unfold peelQuery
  cases href : Text.splitFirst? "?ref=".toList cs with
  | some cut => exact .inr ⟨_, .head _, cut.2, Text.eq_of_splitFirst? href, rfl⟩
  | none =>
    cases hversion : Text.splitFirst? "?version=".toList cs with
    | some cut => exact .inr ⟨_, .tail _ (.head _), cut.2, Text.eq_of_splitFirst? hversion, rfl⟩
    | none => exact .inl rfl

theorem exists_eq_peelQuery_append (cs : List Char) : ∃ after, cs = (peelQuery cs).1 ++ after ∧
    (after = [] ∨ after.head? = some '?') := by
  rcases peelQuery_cases cs with h | ⟨query, hquery, ref, heq, -⟩
  · rw [h]
    exact ⟨[], by simp, .inl rfl⟩
  · refine ⟨query ++ ref, by rw [← List.append_assoc, ← heq], .inr ?_⟩
    have hhead : ∀ query ∈ queries, query.head? = some '?' := by decide
    rw [List.head?_append, hhead query hquery]
    rfl

/-- A branch or tag stands at the end of the text from which it is cut off, behind its query. -/
theorem exists_query_of_peelQuery (h : (peelQuery cs).2 = some ref) :
    ∃ query ∈ queries, query ++ ref <:+ cs := by
  rcases peelQuery_cases cs with hnone | ⟨query, hquery, ref', heq, href⟩
  · rw [hnone] at h
    cases h
  · rw [href] at h
    cases h
    exact ⟨query, hquery, (peelQuery cs).1, by rw [← List.append_assoc, ← heq]⟩

/-- A query is cut off where it was put, if no other one stands before or in it. -/
theorem peelQuery_query {query : List Char} (hquery : query ∈ queries) (hbefore : '?' ∉ before)
    (href : '?' ∉ ref) : peelQuery (before ++ query ++ ref) = (before, some ref) := by
  have hcases : query = "?ref=".toList ∨ query = "?version=".toList := by simpa [queries] using hquery
  rcases hcases with rfl | rfl
  · have hcut : Text.splitFirst? "?ref=".toList (before ++ "?ref=".toList ++ ref) =
        some (before, ref) := Text.splitFirst?_append_pattern hbefore ref
    rw [peelQuery, hcut]
  · have hnone : Text.splitFirst? "?ref=".toList (before ++ "?version=".toList ++ ref) = none := by
      have htail : '?' ∉ "version=".toList ++ ref := by
        rw [List.mem_append, not_or]
        exact ⟨by decide, href⟩
      have hrest : Text.splitFirst? "?ref=".toList ("version=".toList ++ ref) = none :=
        Text.splitFirst?_of_not_mem htail
      have hdrop : Text.dropPrefix? "?ref=".toList ('?' :: ("version=".toList ++ ref)) = none := rfl
      have hquery : "?version=".toList ++ ref = '?' :: ("version=".toList ++ ref) := rfl
      have hbehind : Text.splitFirst? "?ref=".toList ("?version=".toList ++ ref) = none := by
        rw [hquery, Text.splitFirst?, hdrop, hrest]
        rfl
      have happend : Text.splitFirst? "?ref=".toList (before ++ ("?version=".toList ++ ref)) =
          (Text.splitFirst? "?ref=".toList ("?version=".toList ++ ref)).map
            fun cut => (before ++ cut.1, cut.2) := Text.splitFirst?_append_of_not_mem hbefore _
      rw [List.append_assoc, happend, hbehind]
      rfl
    have hcut : Text.splitFirst? "?version=".toList (before ++ "?version=".toList ++ ref) =
        some (before, ref) := Text.splitFirst?_append_pattern hbefore ref
    rw [peelQuery, hnone, hcut]

end Query

/-- The cut of a rest that names a repository on a server. -/
inductive CutsRepository : List Char → Parts → Prop
  | suffixed {rest repository after : List Char}
      (hcut : splitSuffix? rest = some (repository, after)) :
      CutsRepository rest ⟨repository, (peelQuery after).1, (peelQuery after).2, true⟩
  | deep {owner name inner : List Char}
      (hplain : splitSuffix? (owner ++ '/' :: (name ++ '/' :: inner)) = none) (hne : owner ≠ [])
      (howner : '/' ∉ owner) (hname : '/' ∉ name) :
      CutsRepository (owner ++ '/' :: (name ++ '/' :: inner))
        ⟨owner ++ '/' :: name, (peelQuery inner).1, (peelQuery inner).2, false⟩
  | flat {owner name : List Char} (hplain : splitSuffix? (owner ++ '/' :: name) = none)
      (hne : owner ≠ []) (howner : '/' ∉ owner) (hname : '/' ∉ name) :
      CutsRepository (owner ++ '/' :: name)
        ⟨(peelQuery (owner ++ '/' :: name)).1, [], (peelQuery (owner ++ '/' :: name)).2, false⟩

/-- The cut of a rest that names a repository on this machine. -/
inductive CutsFile : List Char → Parts → Prop
  | nested {rest below repository path : List Char} (hrest : (peelQuery rest).1 = '/' :: below)
      (hcut : Text.splitFirst? ['/', '/'] below = some (repository, path)) :
      CutsFile rest ⟨'/' :: repository, path, (peelQuery rest).2, false⟩
  | suffixed {rest below repository path : List Char} (hrest : (peelQuery rest).1 = '/' :: below)
      (hsingle : Text.splitFirst? ['/', '/'] below = none)
      (hcut : splitSuffix? (peelQuery rest).1 = some (repository, path)) :
      CutsFile rest ⟨repository, path, (peelQuery rest).2, true⟩
  | whole {rest below : List Char} (hrest : (peelQuery rest).1 = '/' :: below)
      (hsingle : Text.splitFirst? ['/', '/'] below = none)
      (hplain : splitSuffix? (peelQuery rest).1 = none) :
      CutsFile rest ⟨(peelQuery rest).1, [], (peelQuery rest).2, false⟩

section Cuts

variable {rest : List Char} {parts : Parts}

theorem CutsRepository.eq (h : CutsRepository rest parts) : splitRepository rest = parts := by
  cases h with
  | suffixed hcut => rw [splitRepository, hcut]
  | @deep owner name inner hplain hne howner hname =>
    have hfirst := Text.splitFirst?_cons_of_not_mem howner (name ++ '/' :: inner)
    have hsecond := Text.splitFirst?_cons_of_not_mem hname inner
    rw [splitRepository, hplain, hfirst]
    cases owner with
    | nil => exact absurd rfl hne
    | cons c owner =>
      dsimp only
      rw [hsecond]
  | @flat owner name hplain hne howner hname =>
    have hfirst := Text.splitFirst?_cons_of_not_mem howner name
    rw [splitRepository, hplain, hfirst]
    cases owner with
    | nil => exact absurd rfl hne
    | cons c owner =>
      dsimp only
      rw [Text.splitFirst?_of_not_mem hname]

theorem cutsRepository_of_ne (h : (splitRepository rest).repository ≠ []) :
    CutsRepository rest (splitRepository rest) := by
  cases hcut : splitSuffix? rest with
  | some cut =>
    have hparts : CutsRepository rest _ := .suffixed hcut
    rwa [hparts.eq]
  | none =>
    rw [splitRepository, hcut] at h
    cases hfirst : Text.splitFirst? ['/'] rest with
    | none =>
      rw [hfirst] at h
      exact absurd rfl h
    | some cut =>
      obtain ⟨owner, below⟩ := cut
      rw [hfirst] at h
      cases owner with
      | nil => exact absurd rfl h
      | cons c owner =>
        have hrest := Text.eq_of_splitFirst? hfirst
        have howner := Text.not_mem_of_splitFirst? hfirst
        rw [List.append_assoc, List.singleton_append] at hrest
        subst hrest
        cases hsecond : Text.splitFirst? ['/'] below with
        | none =>
          have hname := Text.not_mem_of_splitFirst?_eq_none hsecond
          have hparts : CutsRepository _ _ := .flat hcut (List.cons_ne_nil c owner) howner hname
          rwa [hparts.eq]
        | some cut =>
          obtain ⟨name, inner⟩ := cut
          have hbelow := Text.eq_of_splitFirst? hsecond
          have hname := Text.not_mem_of_splitFirst? hsecond
          rw [List.append_assoc, List.singleton_append] at hbelow
          subst hbelow
          have hparts : CutsRepository _ _ := .deep hcut (List.cons_ne_nil c owner) howner hname
          rwa [hparts.eq]

theorem CutsFile.eq (h : CutsFile rest parts) : splitFile rest = parts := by
  cases h with
  | nested hrest hcut => simp only [splitFile, hrest, hcut]
  | suffixed hrest hsingle hcut =>
    rw [hrest] at hcut
    simp only [splitFile, hrest, hsingle, hcut]
  | whole hrest hsingle hplain =>
    rw [hrest] at hplain
    simp only [splitFile, hrest, hsingle, hplain]

theorem cutsFile_of_ne (h : (splitFile rest).repository ≠ []) : CutsFile rest (splitFile rest) := by
  cases hrest : (peelQuery rest).1 with
  | nil =>
    rw [splitFile] at h
    dsimp only at h
    rw [hrest] at h
    exact absurd rfl h
  | cons c below =>
    by_cases hc : c = '/'
    · subst hc
      cases hsingle : Text.splitFirst? ['/', '/'] below with
      | some cut =>
        have hparts : CutsFile rest _ := .nested hrest hsingle
        rwa [hparts.eq]
      | none =>
        cases hcut : splitSuffix? (peelQuery rest).1 with
        | some cut =>
          have hparts : CutsFile rest _ := .suffixed hrest hsingle hcut
          rwa [hparts.eq]
        | none =>
          have hparts : CutsFile rest _ := .whole hrest hsingle hcut
          rwa [hparts.eq]
    · rw [splitFile] at h
      dsimp only at h
      rw [hrest] at h
      split at h
      · next heq => exact absurd (List.cons.inj heq).1 hc
      · exact absurd rfl h

theorem exists_of_splitRepository (h : (splitRepository rest).repository ≠ []) :
    ∃ after, rest = (splitRepository rest).repository ++ (splitRepository rest).suffix ++ after ∧
      endsName after = true := by
  have hparts := cutsRepository_of_ne h
  generalize splitRepository rest = parts at hparts ⊢
  cases hparts with
  | suffixed hcut =>
    obtain ⟨hrest, hends⟩ := eq_of_splitSuffix? hcut
    exact ⟨_, hrest, hends⟩
  | @deep owner name inner =>
    refine ⟨'/' :: inner, ?_, rfl⟩
    simp [Parts.suffix]
  | @flat owner name =>
    obtain ⟨after, hafter, hends⟩ := exists_eq_peelQuery_append (owner ++ '/' :: name)
    refine ⟨after, by simpa [Parts.suffix] using hafter, ?_⟩
    rcases hends with rfl | hhead
    · rfl
    · simp [endsName, hhead]

theorem exists_of_splitFile (h : (splitFile rest).repository ≠ []) :
    ∃ after, rest = (splitFile rest).repository ++ (splitFile rest).suffix ++ after := by
  have hparts := cutsFile_of_ne h
  obtain ⟨after, hafter, -⟩ := exists_eq_peelQuery_append rest
  generalize splitFile rest = parts at hparts ⊢
  cases hparts with
  | @nested below repository path hrest hcut =>
    have hbelow := Text.eq_of_splitFirst? hcut
    refine ⟨['/', '/'] ++ path ++ after, ?_⟩
    rw [hafter, hrest, hbelow]
    simp [Parts.suffix]
  | @suffixed below repository path hrest hsingle hcut =>
    obtain ⟨hpeeled, -⟩ := eq_of_splitSuffix? hcut
    refine ⟨path ++ after, ?_⟩
    rw [hafter, hpeeled]
    simp [Parts.suffix]
  | whole => exact ⟨after, by simpa [Parts.suffix] using hafter⟩

/-- The rest begins with what is cloned. -/
theorem exists_eq_repository_append {host : List Char} (h : (cutRest host rest).repository ≠ []) :
    ∃ after, rest = (cutRest host rest).repository ++ (cutRest host rest).suffix ++ after := by
  unfold cutRest at h ⊢
  split at h
  · rw [if_pos ‹_›]
    exact exists_of_splitFile h
  · rw [if_neg ‹_›]
    obtain ⟨after, hafter, -⟩ := exists_of_splitRepository h
    exact ⟨after, hafter⟩

/-- A repository on a server that was cut without its suffix does not end with it. -/
theorem not_suffix_of_not_suffixed (h : (splitRepository rest).repository ≠ [])
    (hplain : (splitRepository rest).suffixed = false) :
    ¬ gitSuffix <:+ (splitRepository rest).repository := by
  rintro ⟨before, hbefore⟩
  obtain ⟨after, hafter, hends⟩ := exists_of_splitRepository h
  have hnone : splitSuffix? rest = none := by
    have hparts := cutsRepository_of_ne h
    generalize splitRepository rest = parts at hparts hplain
    cases hparts with
    | suffixed => cases hplain
    | deep hnone => exact hnone
    | flat hnone => exact hnone
  rw [Parts.suffix, hplain, ← hbefore] at hafter
  rw [hafter] at hnone
  have hinner : endsName after = false := endsName_of_splitSuffix?_eq_none (by simpa using hnone)
  rw [hends] at hinner
  cases hinner

/-- The branch or tag of a rest stands at its end, behind its query. -/
theorem exists_query_of_cutRest {host ref : List Char} (h : (cutRest host rest).repository ≠ [])
    (href : (cutRest host rest).ref = some ref) : ∃ query ∈ queries, query ++ ref <:+ rest := by
  unfold cutRest at h href
  split at h
  · rw [if_pos ‹_›] at href
    have hparts := cutsFile_of_ne h
    generalize splitFile rest = parts at hparts href
    cases hparts with
    | nested => exact exists_query_of_peelQuery href
    | suffixed => exact exists_query_of_peelQuery href
    | whole => exact exists_query_of_peelQuery href
  · rw [if_neg ‹_›] at href
    have hparts := cutsRepository_of_ne h
    generalize splitRepository rest = parts at hparts href
    cases hparts with
    | @suffixed rest repository after hcut =>
      obtain ⟨query, hquery, hends⟩ := exists_query_of_peelQuery href
      obtain ⟨hrest, -⟩ := eq_of_splitSuffix? hcut
      exact ⟨query, hquery, hends.trans ⟨_, hrest.symm⟩⟩
    | @deep owner name inner =>
      obtain ⟨query, hquery, hends⟩ := exists_query_of_peelQuery href
      exact ⟨query, hquery, hends.trans ⟨owner ++ '/' :: (name ++ ['/']), by simp⟩⟩
    | flat => exact exists_query_of_peelQuery href

theorem length_lt_of_cutRest {host ref : List Char} (h : (cutRest host rest).repository ≠ [])
    (href : (cutRest host rest).ref = some ref) : ref.length < rest.length := by
  obtain ⟨query, hquery, hends⟩ := exists_query_of_cutRest h href
  have hpos : ∀ query ∈ queries, 0 < query.length := by decide
  have hquerypos := hpos query hquery
  have hle := hends.length_le
  rw [List.length_append] at hle
  omega

end Cuts

end OverlayChain.Remote

namespace OverlayChain.RemoteRef

open Remote

/-- The reference with these parts. -/
def ofParts (text : String) (host : List Char) (parts : Parts) : RemoteRef where
  raw := text
  host := String.ofList host
  repository := String.ofList parts.repository
  path := String.ofList (Text.dropEnds (· == '/') parts.path)
  ref := (parts.ref.filter fun ref => !ref.isEmpty).map String.ofList
  suffixed := parts.suffixed

theorem isLocal_eq_false_iff {text : String} :
    (text.isEmpty || (Path.mk text).isAbsolute) = false ↔
      ∃ c cs, text.toList = c :: cs ∧ c ≠ '/' := by
  have hempty : text.isEmpty = text.toList.isEmpty := by
    rw [Bool.eq_iff_iff]
    simp
  rw [hempty, Bool.or_eq_false_iff, ← Bool.not_eq_true (Path.isAbsolute _), Path.isAbsolute_text_iff]
  cases text.toList with
  | nil => simp
  | cons c cs => simp

/-- A text is a remote reference if it has a host part and names a repository. -/
theorem parse?_eq_some_iff {text : String} {a : RemoteRef} :
    parse? text = some a ↔ (text.isEmpty || (Path.mk text).isAbsolute) = false ∧
      ∃ host rest, splitHost text.toList = (host, rest) ∧ host ≠ [] ∧
        (cutRest host rest).repository ≠ [] ∧ a = ofParts text host (cutRest host rest) := by
  obtain ⟨⟨host, rest⟩, hsplit⟩ : ∃ cut, splitHost text.toList = cut := ⟨_, rfl⟩
  have heq : parse? text =
      if text.isEmpty || (Path.mk text).isAbsolute then none
      else if host.isEmpty then none
      else if (cutRest host rest).repository.isEmpty then none
      else some (ofParts text host (cutRest host rest)) := by
    rw [parse?, hsplit]
    rfl
  have hunique : (∃ host rest, splitHost text.toList = (host, rest) ∧ host ≠ [] ∧
        (cutRest host rest).repository ≠ [] ∧ a = ofParts text host (cutRest host rest)) ↔
      host ≠ [] ∧ (cutRest host rest).repository ≠ [] ∧
        a = ofParts text host (cutRest host rest) := by
    rw [hsplit]
    constructor
    · rintro ⟨_, _, hpair, h⟩
      cases hpair
      exact h
    · intro h
      exact ⟨host, rest, rfl, h⟩
  rw [heq, hunique]
  cases htext : text.isEmpty || (Path.mk text).isAbsolute with
  | true => simp
  | false =>
    rw [if_neg Bool.false_ne_true]
    by_cases hhost : host = []
    · simp [hhost]
    · by_cases hrepository : (cutRest host rest).repository = []
      · simp [hrepository]
      · simp only [List.isEmpty_eq_false_iff.2 hhost, List.isEmpty_eq_false_iff.2 hrepository,
          Bool.false_eq_true, if_false, Option.some.injEq, ne_eq, hhost, hrepository,
          not_false_eq_true, true_and]
        exact eq_comm

/-- A text with a host part of a server and a repository is a remote reference. -/
theorem parse?_of_split {text : String} {host rest : List Char}
    (hlocal : ∃ c cs, text.toList = c :: cs ∧ c ≠ '/')
    (hsplit : splitHost text.toList = (host, rest)) (hhost : host ≠ []) (hfile : host ≠ fileHost)
    (hrepository : (splitRepository rest).repository ≠ []) :
    parse? text = some (ofParts text host (splitRepository rest)) := by
  have hcut : cutRest host rest = splitRepository rest := if_neg hfile
  refine parse?_eq_some_iff.2 ⟨isLocal_eq_false_iff.2 hlocal, host, rest, hsplit, hhost, ?_, ?_⟩
  · rwa [hcut]
  · rw [hcut]

theorem toList_cloneUrl_ofParts (text : String) (host : List Char) (parts : Parts) :
    (ofParts text host parts).cloneUrl.toList = host ++ (parts.repository ++ parts.suffix) := by
  rw [cloneUrl, ofParts, Parts.suffix]
  cases parts.suffixed <;> simp

end OverlayChain.RemoteRef
