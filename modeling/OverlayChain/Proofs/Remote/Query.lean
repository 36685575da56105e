import OverlayChain.Proofs.Remote.Identity

/-!
# A query behind a reference

A branch or tag is named by a query at the end of a reference. It leaves the rest of the reference
as it is, unless a part of it is taken for a part of the reference: an opening that ends at the
question mark, the end of a server, the suffix of a repository, or the separator behind the name of
a repository.

## Main definitions

- `Remote.ClosedTo`: no part of a branch or tag is taken for a part of the reference before it.

## Main statements

- `Remote.splitHost_query`, `Remote.cutRest_query`: the cuts of a reference with a query.
- `RemoteRef.parse?_query_iff`: a query leaves a reference as it is exactly if the reference is
  closed to it.
-/

namespace OverlayChain.Remote

open RemoteRef (fileHost cloned Reads)

/-- No part of a branch or tag is taken for a part of the host part before it. -/
structure HostClosedTo (reference ref : List Char) : Prop where
  /-- No opening ends where the query begins. -/
  opening : (openings.foldl takeOpening ([], reference ++ ['?'])).1 =
    (openings.foldl takeOpening ([], reference)).1
  /-- The server is closed in the reference, or not in the branch or tag. -/
  server : (∃ c ∈ (openings.foldl takeOpening ([], reference)).2,
      closesServer (openings.foldl takeOpening ([], reference)).1 c = true) ∨
    ∀ c ∈ ref, closesServer (openings.foldl takeOpening ([], reference)).1 c = false

/-- No part of a branch or tag is taken for a part of the reference before it. -/
structure ClosedTo (reference ref : List Char) : Prop extends HostClosedTo reference ref where
  /-- The repository is closed by its suffix or by a separator, or neither is in the branch or
  tag. A query behind a file of this machine is cut off first. -/
  repository : (splitHost reference).1 = fileHost ∨
    (splitSuffix? (splitHost reference).2).isSome = true ∨
    splitSuffix? ref = none ∧ (2 ≤ (splitHost reference).2.count '/' ∨ '/' ∉ ref)

section Host

variable {cs taken rest query ref : List Char}

theorem exists_query_eq (hquery : query ∈ queries) : ∃ name, query = '?' :: name := by
  have hcases : query = "?ref=".toList ∨ query = "?version=".toList := by simpa [queries] using hquery
  rcases hcases with rfl | rfl
  · exact ⟨"ref=".toList, rfl⟩
  · exact ⟨"version=".toList, rfl⟩

theorem question_not_mem_rest (h : Opens openings cs taken rest) (hcs : '?' ∉ cs) : '?' ∉ rest := by
  intro hmem
  refine hcs ((Text.mem_lower_iff (by decide)).1 ?_)
  rw [h.lower_eq]
  exact List.mem_append_right _ ((Text.mem_lower_iff (by decide)).2 hmem)

/-- No query has a separator in it. -/
theorem query_plain (hquery : query ∈ queries) : ':' ∉ query ∧ '/' ∉ query ∧ '.' ∉ query := by
  have hall : ∀ query ∈ queries, ':' ∉ query ∧ '/' ∉ query ∧ '.' ∉ query := by decide
  exact hall query hquery

theorem exists_or_forall (inClass : Char → Bool) (cs : List Char) :
    (∃ c ∈ cs, inClass c = true) ∨ ∀ c ∈ cs, inClass c = false := by
  by_cases h : ∃ c ∈ cs, inClass c = true
  · exact .inl h
  · refine .inr fun c hc => ?_
    by_contra hclass
    exact h ⟨c, hc, by simpa using hclass⟩

/-- The openings of a reference with a query. -/
theorem exists_opens_query (h : Opens openings cs taken rest) :
    ∃ taken' rest', (∀ more, Opens openings (cs ++ '?' :: more) taken' (rest' ++ '?' :: more)) ∧
      (taken' = taken ∧ rest' = rest ∨ taken' ≠ taken ∧ rest' = []) ∧
      ((openings.foldl takeOpening ([], cs ++ ['?'])).1 =
        (openings.foldl takeOpening ([], cs)).1 ↔ taken' = taken) := by
  have hopeners : ∀ opening ∈ openings, opening ≠ [] ∧ '?' ∉ Text.lower opening := by decide
  obtain ⟨taken', rest', hopens, hsame⟩ := h.query hopeners
  refine ⟨taken', rest', hopens, hsame, ?_⟩
  rw [(hopens []).foldl_takeOpening [], h.foldl_takeOpening []]
  rfl

theorem closesServer_query (hquery : query ∈ queries) (taken : List Char) :
    ∀ c ∈ query, closesServer taken c = false := by
  obtain ⟨hcolon, hslash, -⟩ := query_plain hquery
  intro c hc
  have hnocolon : c ≠ ':' := by
    rintro rfl
    exact hcolon hc
  have hnoslash : c ≠ '/' := by
    rintro rfl
    exact hslash hc
  simp [closesServer, hnocolon, hnoslash]

theorem takeThrough_append_of_mem {inClass : Char → Bool} (h : ∃ c ∈ rest, inClass c = true)
    (host more : List Char) :
    takeThrough inClass host (rest ++ more) =
      ((takeThrough inClass host rest).1, (takeThrough inClass host rest).2 ++ more) := by
  cases hcut : Text.splitAtClass? inClass rest with
  | none =>
    obtain ⟨c, hc, hclass⟩ := h
    rw [Text.splitAtClass?_eq_none_iff.1 hcut c hc] at hclass
    cases hclass
  | some cut =>
    obtain ⟨before, c, after⟩ := cut
    obtain ⟨rfl, hc, hbefore⟩ := Text.eq_of_splitAtClass? hcut
    rw [takeThrough_append_cons hbefore hc, List.append_assoc, List.cons_append,
      takeThrough_append_cons hbefore hc]

/-- Where the server ends in the branch or tag, less is left than the branch or tag. -/
theorem length_takeThrough_lt {inClass : Char → Bool} (hrest : ∀ c ∈ rest, inClass c = false)
    (h : ∃ c ∈ ref, inClass c = true) (host : List Char) :
    (takeThrough inClass host (rest ++ ref)).2.length < ref.length := by
  cases hcut : Text.splitAtClass? inClass ref with
  | none =>
    obtain ⟨c, hc, hclass⟩ := h
    rw [Text.splitAtClass?_eq_none_iff.1 hcut c hc] at hclass
    cases hclass
  | some cut =>
    obtain ⟨before, c, after⟩ := cut
    obtain ⟨rfl, hc, hbefore⟩ := Text.eq_of_splitAtClass? hcut
    have hfront : ∀ d ∈ rest ++ before, inClass d = false :=
      List.forall_mem_append.2 ⟨hrest, hbefore⟩
    rw [← List.append_assoc, takeThrough_append_cons hfront hc, List.length_append, List.length_cons]
    dsimp only
    omega

theorem splitHost_query (hquery : query ∈ queries) (h : HostClosedTo cs ref) :
    splitHost (cs ++ query ++ ref) = ((splitHost cs).1, (splitHost cs).2 ++ query ++ ref) := by
  obtain ⟨taken, rest, hopens⟩ := exists_opens openings cs
  obtain ⟨taken', rest', hmore, hsame, hiff⟩ := exists_opens_query hopens
  obtain rfl := hiff.1 h.opening
  obtain ⟨-, rfl⟩ := hsame.resolve_right fun hother => hother.1 rfl
  obtain ⟨name, rfl⟩ := exists_query_eq hquery
  have hwith : Opens openings (cs ++ '?' :: name ++ ref) taken' (rest' ++ ('?' :: name ++ ref)) := by
    rw [List.append_assoc]
    exact hmore (name ++ ref)
  have hserver := h.server
  rw [hopens.foldl_takeOpening [], List.nil_append] at hserver
  rw [splitHost_eq hwith, splitHost_eq hopens]
  rcases hserver with hinside | hplain
  · rw [takeThrough_append_of_mem hinside, List.append_assoc]
  · rcases exists_or_forall (closesServer taken') rest' with hinside | hrest
    · rw [takeThrough_append_of_mem hinside, List.append_assoc]
    · have hnone : ∀ c ∈ rest' ++ ('?' :: name ++ ref), closesServer taken' c = false :=
        List.forall_mem_append.2 ⟨hrest,
          List.forall_mem_append.2 ⟨closesServer_query hquery taken', hplain⟩⟩
      rw [takeThrough_of_not_mem hrest, takeThrough_of_not_mem hnone, List.append_assoc]

end Host

section Cut

variable {rest query ref : List Char} {parts : Parts}

/-- A suffix is found in the rest, or else in the branch or tag. -/
theorem splitSuffix?_query (hquery : query ∈ queries) (rest ref : List Char) :
    splitSuffix? (rest ++ query ++ ref) =
      match splitSuffix? rest with
      | some cut => some (cut.1, cut.2 ++ query ++ ref)
      | none => (splitSuffix? ref).map fun cut => (rest ++ query ++ cut.1, cut.2) := by
  have hbehind := splitSuffix?_append_of_not_mem (query_plain hquery).2.2 ref
  obtain ⟨name, rfl⟩ := exists_query_eq hquery
  rw [List.append_assoc]
  rw [List.cons_append] at hbehind ⊢
  rw [splitSuffix?_append_cons (fun _ => rfl) (by decide), hbehind]
  cases splitSuffix? rest with
  | some cut => simp
  | none => simp [Function.comp_def]

theorem CutsFile.withRef (h : CutsFile rest parts) (hquery : query ∈ queries) (hrest : '?' ∉ rest)
    (href : '?' ∉ ref) : CutsFile (rest ++ query ++ ref) { parts with ref := some ref } := by
  have hplain := peelQuery_of_not_mem hrest
  have hpeeled := peelQuery_query hquery hrest href
  have hfst : (peelQuery (rest ++ query ++ ref)).1 = (peelQuery rest).1 := by rw [hpeeled, hplain]
  have hsnd : (peelQuery (rest ++ query ++ ref)).2 = some ref := by rw [hpeeled]
  rw [← hsnd]
  cases h with
  | nested hbegins hcut => exact .nested (hfst.trans hbegins) hcut
  | suffixed hbegins hsingle hcut =>
    exact .suffixed (hfst.trans hbegins) hsingle (hfst ▸ hcut)
  | whole hbegins hsingle hplain =>
    rw [← hfst] at hbegins hplain ⊢
    exact .whole hbegins hsingle hplain

theorem CutsRepository.withRef (h : CutsRepository rest parts) (hquery : query ∈ queries)
    (hrest : '?' ∉ rest) (href : '?' ∉ ref)
    (hclosed : (splitSuffix? rest).isSome = true ∨
      splitSuffix? ref = none ∧ (2 ≤ rest.count '/' ∨ '/' ∉ ref)) :
    CutsRepository (rest ++ query ++ ref) { parts with ref := some ref } := by
  cases h with
  | @suffixed rest repository after hcut =>
    have hafter : '?' ∉ after := by
      intro hmem
      rw [(eq_of_splitSuffix? hcut).1] at hrest
      exact hrest (List.mem_append_right _ hmem)
    have hcut' : splitSuffix? (rest ++ query ++ ref) = some (repository, after ++ query ++ ref) := by
      rw [splitSuffix?_query hquery, hcut]
    have hparts := CutsRepository.suffixed hcut'
    rw [peelQuery_query hquery hafter href] at hparts
    rw [peelQuery_of_not_mem hafter]
    exact hparts
  | @deep owner name inner hplain hne howner hname =>
    have hinner : '?' ∉ inner := by
      intro hmem
      exact hrest (by simp [hmem])
    have hnone := (hclosed.resolve_left (by simp [hplain])).1
    have heq : owner ++ '/' :: (name ++ '/' :: inner) ++ query ++ ref =
        owner ++ '/' :: (name ++ '/' :: (inner ++ query ++ ref)) := by simp
    have hplain' : splitSuffix? (owner ++ '/' :: (name ++ '/' :: (inner ++ query ++ ref))) = none := by
      rw [← heq, splitSuffix?_query hquery, hplain, hnone]
      rfl
    have hparts := CutsRepository.deep hplain' hne howner hname
    rw [peelQuery_query hquery hinner href] at hparts
    rw [heq, peelQuery_of_not_mem hinner]
    exact hparts
  | @flat owner name hplain hne howner hname =>
    obtain ⟨hnone, hslash⟩ := hclosed.resolve_left (by simp [hplain])
    have hcount : (owner ++ '/' :: name).count '/' = 1 := by
      simp [List.count_eq_zero.2 howner, List.count_eq_zero.2 hname]
    have hslash' : '/' ∉ ref := hslash.resolve_left (by omega)
    have hname' : '/' ∉ name ++ query ++ ref := by
      simp [hname, (query_plain hquery).2.1, hslash']
    have heq : owner ++ '/' :: name ++ query ++ ref = owner ++ '/' :: (name ++ query ++ ref) := by
      simp
    have hplain' : splitSuffix? (owner ++ '/' :: (name ++ query ++ ref)) = none := by
      rw [← heq, splitSuffix?_query hquery, hplain, hnone]
      rfl
    have hparts := CutsRepository.flat hplain' hne howner hname'
    rw [← heq, peelQuery_query hquery hrest href] at hparts
    rw [peelQuery_of_not_mem hrest]
    exact hparts

/-- A query at the end changes nothing but the branch or tag. -/
theorem cutRest_query {host : List Char} (hquery : query ∈ queries) (hrest : '?' ∉ rest)
    (href : '?' ∉ ref) (hne : (cutRest host rest).repository ≠ [])
    (hclosed : host = fileHost ∨ (splitSuffix? rest).isSome = true ∨
      splitSuffix? ref = none ∧ (2 ≤ rest.count '/' ∨ '/' ∉ ref)) :
    cutRest host (rest ++ query ++ ref) = { cutRest host rest with ref := some ref } := by
  unfold cutRest at hne ⊢
  by_cases hfile : host = fileHost
  · rw [if_pos hfile] at hne
    rw [if_pos hfile, if_pos hfile]
    exact ((cutsFile_of_ne hne).withRef hquery hrest href).eq
  · rw [if_neg hfile] at hne
    rw [if_neg hfile, if_neg hfile]
    exact ((cutsRepository_of_ne hne).withRef hquery hrest href (hclosed.resolve_left hfile)).eq

/-- Where a suffix or a separator in the branch or tag is taken for the end of the repository, the
query is in the repository. -/
theorem question_mem_repository (hquery : query ∈ queries)
    (hne : (splitRepository rest).repository ≠ []) (hplain : splitSuffix? rest = none)
    (hopen : ¬ (splitSuffix? ref = none ∧ (2 ≤ rest.count '/' ∨ '/' ∉ ref))) :
    '?' ∈ (splitRepository (rest ++ query ++ ref)).repository := by
  have hmark : '?' ∈ query := by
    obtain ⟨name, rfl⟩ := exists_query_eq hquery
    exact List.mem_cons_self ..
  have hcut := splitSuffix?_query hquery rest ref
  rw [hplain] at hcut
  cases hsuffix : splitSuffix? ref with
  | some cut =>
    rw [hsuffix] at hcut
    have hparts := CutsRepository.suffixed hcut
    rw [hparts.eq]
    simp [hmark]
  | none =>
    rw [hsuffix] at hcut
    have hslash : rest.count '/' < 2 ∧ '/' ∈ ref := by
      simpa [hsuffix] using hopen
    obtain ⟨hcount, hslash⟩ := hslash
    have hparts := cutsRepository_of_ne hne
    generalize splitRepository rest = parts at hparts
    cases hparts with
    | suffixed hsome =>
      rw [hplain] at hsome
      cases hsome
    | deep =>
      simp only [List.count_append, List.count_cons_self] at hcount
      omega
    | @flat owner name _ howne howner hname =>
      cases hfirst : Text.splitFirst? ['/'] ref with
      | none => exact absurd hslash (Text.not_mem_of_splitFirst?_eq_none hfirst)
      | some cut =>
        obtain ⟨before, after⟩ := cut
        have href := Text.eq_of_splitFirst? hfirst
        have hbefore := Text.not_mem_of_splitFirst? hfirst
        have hname' : '/' ∉ name ++ query ++ before := by
          simp [hname, (query_plain hquery).2.1, hbefore]
        have heq : owner ++ '/' :: name ++ query ++ ref =
            owner ++ '/' :: (name ++ query ++ before ++ '/' :: after) := by simp [href]
        rw [heq] at hcut ⊢
        have hparts := CutsRepository.deep hcut howne howner hname'
        rw [hparts.eq]
        simp [hmark]

end Cut

section Converse

variable {cs host rest query ref : List Char}

theorem question_not_mem_splitHost (hcs : '?' ∉ cs) : '?' ∉ (splitHost cs).2 := by
  obtain ⟨taken, rest, hopens⟩ := exists_opens openings cs
  obtain ⟨server, after, rfl, -, hcut, -⟩ := exists_server (closesServer_toLower taken) rest
  rw [splitHost_eq hopens, hcut]
  exact fun hmem => question_not_mem_rest hopens hcs (List.mem_append_right _ hmem)

/-- Where more is left than the branch or tag, and the repository is not cut from the query, the
host part is closed to the query. -/
theorem hostClosedTo_of_splitHost (hquery : query ∈ queries)
    (hsplit : splitHost (cs ++ query ++ ref) = (host, rest)) (hlength : ref.length < rest.length)
    (hhead : rest.head? ≠ some '?') :
    HostClosedTo cs ref := by
  obtain ⟨taken, behind, hopens⟩ := exists_opens openings cs
  obtain ⟨taken', behind', hmore, hsame, hiff⟩ := exists_opens_query hopens
  obtain ⟨name, rfl⟩ := exists_query_eq hquery
  have hwith : Opens openings (cs ++ '?' :: name ++ ref) taken' (behind' ++ '?' :: name ++ ref) := by
    have hlong := hmore (name ++ ref)
    rwa [← List.cons_append, ← List.append_assoc, ← List.append_assoc] at hlong
  rw [splitHost_eq hwith, Prod.mk.injEq] at hsplit
  obtain ⟨-, rfl⟩ := hsplit
  -- A server that ends in the branch or tag leaves too little.
  have hserver : (∃ c ∈ behind', closesServer taken' c = true) ∨
      ∀ c ∈ behind' ++ '?' :: name ++ ref, closesServer taken' c = false := by
    rcases exists_or_forall (closesServer taken') behind' with hinside | hbehind
    · exact .inl hinside
    · have hfront : ∀ c ∈ behind' ++ '?' :: name, closesServer taken' c = false :=
        List.forall_mem_append.2 ⟨hbehind, closesServer_query hquery taken'⟩
      rcases exists_or_forall (closesServer taken') ref with hinside | href
      · have hlt := length_takeThrough_lt hfront hinside taken'
        omega
      · exact .inr (List.forall_mem_append.2 ⟨hfront, href⟩)
  have htaken : taken' = taken := by
    rcases hsame with ⟨htaken, -⟩ | ⟨-, rfl⟩
    · exact htaken
    · rcases hserver with ⟨c, hc, -⟩ | hnone
      · cases hc
      · rw [takeThrough_of_not_mem hnone] at hhead
        exact absurd rfl hhead
  obtain ⟨-, rfl⟩ := hsame.resolve_right fun hother => hother.1 htaken
  refine ⟨hiff.2 htaken, ?_⟩
  rw [hopens.foldl_takeOpening [], List.nil_append, ← htaken]
  rcases hserver with hinside | hnone
  · exact .inl hinside
  · exact .inr fun c hc => hnone c (List.mem_append_right _ hc)

/-- A cut that gives the repository and the branch or tag is that of a closed reference. -/
theorem closedTo_of_cutRest (hquery : query ∈ queries) (hcs : '?' ∉ cs)
    (hne : (cutRest (splitHost cs).1 (splitHost cs).2).repository ≠ [])
    (hsplit : splitHost (cs ++ query ++ ref) = (host, rest))
    (hrepository : (cutRest host rest).repository =
      (cutRest (splitHost cs).1 (splitHost cs).2).repository)
    (href : (cutRest host rest).ref = some ref) : ClosedTo cs ref := by
  have hrest := question_not_mem_splitHost hcs
  have hplain : '?' ∉ (cutRest (splitHost cs).1 (splitHost cs).2).repository := by
    obtain ⟨after, hafter⟩ := exists_eq_repository_append hne
    intro hmem
    rw [hafter] at hrest
    exact hrest (by simp [hmem])
  rw [← hrepository] at hne hplain
  have hhead : rest.head? ≠ some '?' := by
    obtain ⟨after, hafter⟩ := exists_eq_repository_append hne
    intro hhead
    cases hbegins : (cutRest host rest).repository with
    | nil => exact hne hbegins
    | cons c repository =>
      rw [hbegins] at hafter hplain
      rw [hafter] at hhead
      have hc : c = '?' := by simpa using hhead
      exact hplain (hc ▸ List.mem_cons_self ..)
  have hhost := hostClosedTo_of_splitHost hquery hsplit (length_lt_of_cutRest hne href) hhead
  refine ⟨hhost, ?_⟩
  rw [splitHost_query hquery hhost, Prod.mk.injEq] at hsplit
  obtain ⟨rfl, rfl⟩ := hsplit
  by_cases hfile : (splitHost cs).1 = fileHost
  · exact .inl hfile
  · refine .inr ?_
    cases hsuffix : splitSuffix? (splitHost cs).2 with
    | some cut => exact .inl rfl
    | none =>
      refine .inr ?_
      by_contra hopen
      rw [hrepository, cutRest, if_neg hfile] at hne
      rw [cutRest, if_neg hfile] at hplain
      exact hplain (question_mem_repository hquery hne hsuffix hopen)

end Converse

end OverlayChain.Remote

namespace OverlayChain.RemoteRef

open Remote

/-- A query that names a branch or a tag. -/
structure Names (query ref : String) : Prop where
  query : query = "?ref=" ∨ query = "?version="
  ref_ne : ref ≠ ""
  ref_plain : '?' ∉ ref.toList

variable {text query ref : String} {a b : RemoteRef}

theorem Names.mem_queries (h : Names query ref) : query.toList ∈ queries := by
  rcases h.query with rfl | rfl
  · exact .head _
  · exact .tail _ (.head _)

/-- What a query leaves as it is. -/
structure SameApartFromRef (a b : RemoteRef) : Prop where
  host : b.host = a.host
  repository : b.repository = a.repository
  path : b.path = a.path
  cloneUrl : b.cloneUrl = a.cloneUrl
  identity : b.identity = a.identity

theorem parse?_query_of_closedTo (htext : '?' ∉ text.toList) (hnames : Names query ref)
    (h : parse? text = some a) (hclosed : ClosedTo text.toList ref.toList) :
    ∃ b, parse? (text ++ query ++ ref) = some b ∧ b.ref = some ref ∧ SameApartFromRef a b := by
  obtain ⟨hremote, host, rest, hsplit, hhost, hrepository, rfl⟩ := parse?_eq_some_iff.1 h
  have hlist : (text ++ query ++ ref).toList = text.toList ++ query.toList ++ ref.toList := by simp
  have hrest : '?' ∉ rest := by
    have hmark := question_not_mem_splitHost htext
    rwa [hsplit] at hmark
  have hlong := splitHost_query hnames.mem_queries hclosed.toHostClosedTo
  rw [hsplit, ← hlist] at hlong
  have hrepositories := hclosed.repository
  rw [hsplit] at hrepositories
  have hcut := cutRest_query hnames.mem_queries hrest hnames.ref_plain hrepository hrepositories
  have hparsed : parse? (text ++ query ++ ref) =
      some (ofParts (text ++ query ++ ref) host
        (cutRest host (rest ++ query.toList ++ ref.toList))) := by
    refine parse?_eq_some_iff.2 ⟨?_, host, _, hlong, hhost, ?_, rfl⟩
    · obtain ⟨c, cs, hcs, hc⟩ := isLocal_eq_false_iff.1 hremote
      refine isLocal_eq_false_iff.2 ⟨c, cs ++ query.toList ++ ref.toList, ?_, hc⟩
      rw [hlist, hcs]
      rfl
    · rw [hcut]
      exact hrepository
  refine ⟨_, hparsed, ?_, ?_⟩
  · have hne : ref.toList ≠ [] := by simpa using hnames.ref_ne
    rw [hcut]
    simp [ofParts, hnames.ref_ne]
  · rw [hcut]
    exact ⟨rfl, rfl, rfl, rfl, rfl⟩

theorem closedTo_of_parse? (htext : '?' ∉ text.toList) (hnames : Names query ref)
    (h : parse? text = some a) (hb : parse? (text ++ query ++ ref) = some b)
    (href : b.ref = some ref) (hrepository : b.repository = a.repository) :
    ClosedTo text.toList ref.toList := by
  obtain ⟨host, rest, ha⟩ := exists_reads h
  obtain ⟨host', rest', hb⟩ := exists_reads hb
  have hlist : (text ++ query ++ ref).toList = text.toList ++ query.toList ++ ref.toList := by simp
  have hsplit := hb.split
  rw [hlist] at hsplit
  have hsplit' := ha.split
  refine closedTo_of_cutRest hnames.mem_queries htext ?_ hsplit ?_ ?_
  · rw [hsplit']
    exact ha.repository_ne
  · rw [hsplit', ← hb.toList_repository, hrepository, ha.toList_repository]
  · rw [hb.eq] at href
    obtain ⟨cut, hcut, heq⟩ := Option.map_eq_some_iff.1 href
    rw [← heq, String.toList_ofList]
    exact (Option.filter_eq_some_iff.1 hcut).1

/-- A query leaves a reference as it is, but for the branch or tag, exactly if the reference is
closed to it. References that differ in nothing else overlap. -/
theorem parse?_query_iff (htext : '?' ∉ text.toList) (hnames : Names query ref)
    (h : parse? text = some a) :
    ((∃ b, parse? (text ++ query ++ ref) = some b ∧ b.ref = some ref ∧ SameApartFromRef a b) ↔
        ClosedTo text.toList ref.toList) ∧
      ∀ query' ref', Names query' ref' → ClosedTo text.toList ref.toList →
        ClosedTo text.toList ref'.toList → ∀ b c, parse? (text ++ query ++ ref) = some b →
          parse? (text ++ query' ++ ref') = some c → b.overlaps c = true := by
  constructor
  · constructor
    · rintro ⟨b, hb, href, hsame⟩
      exact closedTo_of_parse? htext hnames h hb href hsame.repository
    · exact parse?_query_of_closedTo htext hnames h
  · intro query' ref' hnames' hclosed hclosed' b c hb hc
    obtain ⟨b', hb', -, hsame⟩ := parse?_query_of_closedTo htext hnames h hclosed
    obtain ⟨c', hc', -, hsame'⟩ := parse?_query_of_closedTo htext hnames' h hclosed'
    obtain rfl : b' = b := Option.some.inj (hb'.symm.trans hb)
    obtain rfl : c' = c := Option.some.inj (hc'.symm.trans hc)
    rw [overlaps, hsame.identity, hsame'.identity]
    simp

/-- Behind the suffix of the repository a branch or tag may hold separators. -/
theorem Sample.release_apart :
    ∃ a b, parse? "git::https://git.example.com/org/repo.git//app" = some a ∧
      parse? "git::https://git.example.com/org/repo.git//app?ref=release/1.0" = some b ∧
        b.ref = some "release/1.0" ∧ SameApartFromRef a b := by
  have ha : parse? "git::https://git.example.com/org/repo.git//app" =
      some ⟨"git::https://git.example.com/org/repo.git//app", "https://git.example.com/", "org/repo",
        "app", none, true⟩ := by decide +kernel
  have hnames : Names "?ref=" "release/1.0" := ⟨.inl rfl, by decide, by decide⟩
  have hclosed : ClosedTo "git::https://git.example.com/org/repo.git//app".toList
      "release/1.0".toList := by
    refine ⟨⟨?_, .inl ⟨'/', ?_, ?_⟩⟩, .inr (.inl ?_)⟩ <;> decide +kernel
  obtain ⟨b, hb, href, hsame⟩ := (parse?_query_iff (by decide) hnames ha).1.2 hclosed
  exact ⟨_, b, ha, hb, href, hsame⟩

/-- Without a suffix, a separator in a branch is taken for the one behind the repository. -/
theorem Sample.branch_differs :
    ∃ a b c, parse? "github.com/org/repo" = some a ∧
      parse? "github.com/org/repo?ref=feature/x" = some b ∧
        parse? "github.com/org/repo?ref=feature/y" = some c ∧
          b.ref = none ∧ b.repository ≠ a.repository ∧ b.identity ≠ a.identity ∧
            b.overlaps c = false := by
  let a : RemoteRef := ⟨"github.com/org/repo", "https://github.com/", "org/repo", "", none, false⟩
  let b : RemoteRef := ⟨"github.com/org/repo?ref=feature/x", "https://github.com/",
    "org/repo?ref=feature", "x", none, false⟩
  let c : RemoteRef := ⟨"github.com/org/repo?ref=feature/y", "https://github.com/",
    "org/repo?ref=feature", "y", none, false⟩
  refine ⟨a, b, c, ?_, ?_, ?_, ?_, ?_, ?_, ?_⟩ <;> decide +kernel

end OverlayChain.RemoteRef
