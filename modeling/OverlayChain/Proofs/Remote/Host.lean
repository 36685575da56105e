import OverlayChain.Proofs.Remote.Opening

/-!
# The host part of a reference

Behind the openings the server is cut off, and the host part is brought into its normal form. A
normal form put before the rest of its reference, or before a beginning of the rest, is read as
the host part again. This is so for all forms but a user name without a server.

## Main definitions

- `Remote.closesServer`: the characters at which the server ends.
- `Remote.settleHost`: the form in which a host part is kept.

## Main statements

- `Remote.splitHost_eq`: the host part in terms of the openings.
- `Remote.splitHost_append`: a host part is read again from what is cloned.
-/

namespace OverlayChain.Remote

section Server

variable {inClass : Char → Bool} {host rest : List Char}

theorem takeThrough_of_not_mem (h : ∀ c ∈ rest, inClass c = false) (host : List Char) :
    takeThrough inClass host rest = (host, rest) := by
  rw [takeThrough, Text.splitAtClass?_eq_none_iff.2 h]

theorem takeThrough_append_cons {before : List Char} {c : Char}
    (hbefore : ∀ d ∈ before, inClass d = false) (hc : inClass c = true) (host after : List Char) :
    takeThrough inClass host (before ++ c :: after) = (host ++ before ++ [c], after) := by
  rw [takeThrough, Text.splitAtClass?_append hbefore hc]

/-- A server is cut off again in another case and before a beginning of what follows it. -/
theorem exists_server (hclass : ∀ c : Char, inClass c.toLower = inClass c) (rest : List Char) :
    ∃ server after, rest = server ++ after ∧ (server ≠ [] → ∃ c, inClass c = true) ∧
      (∀ host, takeThrough inClass host rest = (host ++ server, after)) ∧
      ∀ host server' more, Text.lower server' = Text.lower server → more <+: after →
        takeThrough inClass host (server' ++ more) = (host ++ server', more) := by
  cases hcut : Text.splitAtClass? inClass rest with
  | none =>
    have hnone := Text.splitAtClass?_eq_none_iff.1 hcut
    refine ⟨[], rest, rfl, by simp, fun host => ?_, fun host server' more hserver hmore => ?_⟩
    · rw [takeThrough_of_not_mem hnone, List.append_nil]
    · have hnil : server' = [] := by simpa [Text.lower] using hserver
      subst hnil
      rw [List.nil_append, List.append_nil]
      exact takeThrough_of_not_mem (fun c hc => hnone c (hmore.mem hc)) host
  | some cut =>
    obtain ⟨before, c, after⟩ := cut
    obtain ⟨rfl, hc, hbefore⟩ := Text.eq_of_splitAtClass? hcut
    refine ⟨before ++ [c], after, by simp, fun _ => ⟨c, hc⟩, fun host => ?_,
      fun host server' more hserver _ => ?_⟩
    · rw [takeThrough_append_cons hbefore hc, List.append_assoc]
    · rw [Text.lower, Text.lower, List.map_append, List.map_eq_append_iff] at hserver
      obtain ⟨before', last, rfl, hsame, hlast⟩ := hserver
      obtain ⟨c', rfl, hc'⟩ := List.map_eq_singleton_iff.1 hlast
      have hbefore' : ∀ d ∈ before', inClass d = false := by
        intro d hd
        have hmem : d.toLower ∈ before.map Char.toLower := hsame ▸ List.mem_map_of_mem hd
        obtain ⟨e, he, hed⟩ := List.mem_map.1 hmem
        rw [← hclass d, ← hed, hclass e]
        exact hbefore e he
      have hclose : inClass c' = true := by rw [← hclass c', hc', hclass c, hc]
      rw [List.append_assoc, List.singleton_append, takeThrough_append_cons hbefore' hclose,
        List.append_assoc]

end Server

section Normal

variable {host : List Char}

theorem normalizeHost_cases (host : List Char) :
    normalizeHost host = "git@github.com:".toList ∨
    normalizeHost host = "https://github.com/".toList ∨
    Text.occurs "github.com".toList (Text.lower host) = false ∧
      (Text.lower host = "git::".toList ++ normalizeHost host ∨
        ¬ "git::".toList <+: Text.lower host ∧ normalizeHost host = host) := by
  unfold normalizeHost
  dsimp only
  by_cases hknown : Text.occurs "github.com".toList (Text.lower host) = true
  · rw [if_pos hknown]
    split
    · exact .inl rfl
    · exact .inr (.inl rfl)
  · rw [if_neg hknown]
    refine .inr (.inr ⟨by simpa using hknown, ?_⟩)
    cases hdrop : Text.dropPrefix? "git::".toList (Text.lower host) with
    | some unwrapped => exact .inl (Text.dropPrefix?_eq_some_iff.1 hdrop)
    | none => exact .inr ⟨Text.dropPrefix?_eq_none_iff.1 hdrop, rfl⟩

theorem normalizeHost_of_plain
    (hknown : Text.occurs "github.com".toList (Text.lower host) = false)
    (hplain : ¬ "git::".toList <+: Text.lower host) : normalizeHost host = host := by
  rw [normalizeHost, if_neg (Bool.eq_false_iff.1 hknown), Text.dropPrefix?_eq_none_iff.2 hplain]

end Normal

/-- The characters at which the server ends that follows the openings. -/
def closesServer (taken : List Char) (c : Char) : Bool :=
  if taken = "git@".toList then c == ':' || c == '/' else endsWithScheme taken && c == '/'

theorem closesServer_of_not_scheme {taken : List Char} (huser : taken ≠ "git@".toList)
    (hscheme : endsWithScheme taken = false) (c : Char) : closesServer taken c = false := by
  rw [closesServer, if_neg huser, hscheme, Bool.false_and]

/-- No server is cut off where no character ends it. -/
theorem server_eq_nil {taken server : List Char}
    (hclosed : server ≠ [] → ∃ c, closesServer taken c = true)
    (hopen : ∀ c, closesServer taken c = false) : server = [] := by
  by_contra hserver
  obtain ⟨c, hc⟩ := hclosed hserver
  rw [hopen c] at hc
  cases hc

/-- The form in which a host part is kept. -/
def settleHost (taken host : List Char) : List Char :=
  if taken = "git@".toList then host else normalizeHost host

variable {cs taken rest host : List Char}

theorem splitHost_eq (h : Opens openings cs taken rest) :
    splitHost cs = (settleHost taken (takeThrough (closesServer taken) taken rest).1,
      (takeThrough (closesServer taken) taken rest).2) := by
  have hopen : openings.foldl takeOpening ([], cs) = (taken, rest) := h.foldl_takeOpening []
  rw [splitHost, hopen]
  dsimp only
  by_cases huser : taken = "git@".toList
  · have hclass : closesServer taken = fun c => c == ':' || c == '/' := by
      funext c
      rw [closesServer, if_pos huser]
    rw [if_pos huser, hclass, settleHost, if_pos huser]
  · rw [if_neg huser, settleHost, if_neg huser]
    by_cases hscheme : endsWithScheme taken = true
    · have hclass : closesServer taken = (· == '/') := by
        funext c
        rw [closesServer, if_neg huser, hscheme, Bool.true_and]
      rw [if_pos hscheme, hclass]
    · have hclass := closesServer_of_not_scheme huser (eq_false_of_ne_true hscheme)
      rw [if_neg hscheme, takeThrough_of_not_mem fun c _ => hclass c]

/-- A text off which nothing is taken has no host part. -/
theorem splitHost_of_opens_nil (h : Opens openings cs [] cs) : splitHost cs = ([], cs) := by
  have hopen : ∀ c, closesServer [] c = false :=
    closesServer_of_not_scheme (by decide) (by decide)
  rw [splitHost_eq h, takeThrough_of_not_mem fun c _ => hopen c]
  rfl

theorem closesServer_toLower (taken : List Char) (c : Char) :
    closesServer taken c.toLower = closesServer taken c := by
  have hcolon : c.toLower = ':' ↔ c = ':' := Text.toLower_eq_iff (by decide)
  have hslash : c.toLower = '/' ↔ c = '/' := Text.toLower_eq_iff (by decide)
  simp only [closesServer, Bool.beq_eq_decide_eq, hcolon, hslash]

/-- Only the first opening wraps, so what begins with another one is not wrapped. -/
theorem not_wrapper_of_sublist {used : List (List Char)} (hused : used.Sublist openings.tail)
    (hne : used.flatten ≠ []) (more : List Char) :
    ¬ "git::".toList <+: Text.lower (used.flatten ++ more) := by
  have hheads : ∀ opening ∈ openings.tail,
      (Text.lower opening).take 4 ≠ "git:".toList ∧ 4 ≤ (Text.lower opening).length := by decide
  cases used with
  | nil => exact absurd rfl hne
  | cons opening used =>
    obtain ⟨hhead, hlength⟩ := hheads opening (hused.subset (List.mem_cons_self ..))
    rintro ⟨after, hafter⟩
    refine hhead ?_
    have htake := congrArg (List.take 4) hafter
    rw [List.flatten_cons, List.append_assoc, Text.lower_append,
      List.take_append_of_le_length hlength] at htake
    exact htake.symm

theorem lower_flatten {used : List (List Char)} (hused : used.Sublist openings) :
    Text.lower used.flatten = used.flatten := by
  have hlower : ∀ opening ∈ openings, Text.lower opening = opening := by decide
  induction used with
  | nil => rfl
  | cons opening used ih =>
    have hopening := hlower opening (hused.subset (List.mem_cons_self ..))
    rw [List.flatten_cons, Text.lower_append, hopening, ih ((List.sublist_cons_self ..).trans hused)]

/-- No opening is shorter than a user name, so a host part that is one holds nothing else. -/
theorem eq_user_of_append {used : List (List Char)} {server : List Char}
    (hused : used.Sublist openings) (hne : used.flatten ≠ [])
    (huser : used.flatten ++ server = "git@".toList) :
    used.flatten = "git@".toList ∧ server = [] := by
  have hlengths : ∀ opening ∈ openings, 4 ≤ opening.length := by decide
  cases used with
  | nil => exact absurd rfl hne
  | cons opening used =>
    have hopening := hlengths opening (hused.subset (List.mem_cons_self ..))
    have hlength : (opening :: used).flatten.length + server.length = 4 := by
      rw [← List.length_append, huser]
      rfl
    rw [List.flatten_cons, List.length_append] at hlength
    have hnil : server = [] := List.length_eq_zero_iff.1 (by omega)
    subst hnil
    exact ⟨by rwa [List.append_nil] at huser, rfl⟩

theorem closesServer_wrapped {used : List (List Char)} (hused : used.Sublist openings.tail) (c : Char) :
    closesServer ("git::".toList ++ used.flatten) c =
      (endsWithScheme used.flatten && c == '/') := by
  have hscheme : ∀ used ∈ openings.tail.sublists, "git::".toList ++ used.flatten ≠ "git@".toList ∧
      endsWithScheme ("git::".toList ++ used.flatten) = endsWithScheme used.flatten := by
    decide +kernel
  obtain ⟨huser, hends⟩ := hscheme used (List.mem_sublists.2 hused)
  rw [closesServer, if_neg huser, hends]

/-- How a host part is read again: what is taken off, and the server behind it. A user name alone
is not settled, since a server may follow it. -/
structure Rereads (host rest taken server : List Char) : Prop where
  user : host = "git@".toList → taken = "git@".toList ∧ server = []
  opens : ∀ more, more ≠ [] → more <+: rest → Opens openings (host ++ more) taken (server ++ more)
  settled : host ≠ "git@".toList → settleHost taken host = host
  closed : host ≠ "git@".toList → ∀ more, more <+: rest →
    takeThrough (closesServer taken) taken (server ++ more) = (host, more)

theorem Opens.unwrap (h : Opens openings cs taken rest) :
    ∃ used : List (List Char), used.Sublist openings.tail ∧ (taken = used.flatten ∨
      taken = "git::".toList ++ used.flatten ∧
        Opens openings.tail (cs.drop "git::".toList.length) used.flatten rest) := by
  have h' : Opens ("git::".toList :: openings.tail) cs taken rest := h
  cases h' with
  | take _ hrest =>
    obtain ⟨used, hused, rfl⟩ := hrest.exists_sublist
    exact ⟨used, hused, .inr ⟨rfl, hrest⟩⟩
  | skip _ hrest =>
    obtain ⟨used, hused, rfl⟩ := hrest.exists_sublist
    exact ⟨used, hused, .inl rfl⟩

/-- Behind the wrapper the host part is kept in lower case, and is read again without it. -/
theorem Opens.rereads_wrapped {used : List (List Char)} {server after : List Char}
    (hused : used.Sublist openings.tail) (hne : used.flatten ≠ [])
    (h : Opens openings.tail cs used.flatten (server ++ after))
    (hclosed : server ≠ [] → ∃ c, closesServer ("git::".toList ++ used.flatten) c = true)
    (hagain : ∀ host server' more, Text.lower server' = Text.lower server → more <+: after →
      takeThrough (closesServer ("git::".toList ++ used.flatten)) host (server' ++ more) =
        (host ++ server', more))
    (hknown : Text.occurs "github.com".toList
      ("git::".toList ++ (used.flatten ++ Text.lower server)) = false) :
    Rereads (used.flatten ++ Text.lower server) after used.flatten (Text.lower server) := by
  have hlower : Text.lower used.flatten = used.flatten :=
    lower_flatten (hused.trans (List.tail_sublist openings))
  -- Behind a wrapped user name no server is cut off.
  have huser : used.flatten = "git@".toList → server = [] := by
    intro heq
    have hends : endsWithScheme "git@".toList = false := by decide
    refine server_eq_nil hclosed fun c => ?_
    rw [closesServer_wrapped hused, heq, hends, Bool.false_and]
  have hnot : used.flatten ++ Text.lower server ≠ "git@".toList → used.flatten ≠ "git@".toList := by
    intro hhost heq
    rw [huser heq, Text.lower_nil, List.append_nil] at hhost
    exact hhost heq
  refine ⟨fun hhost => ?_, fun more hmore hbegins => ?_, fun hhost => ?_,
    fun hhost more hbegins => ?_⟩
  · exact eq_user_of_append (hused.trans (List.tail_sublist openings)) hne hhost
  · rw [List.append_assoc]
    refine .skip (fun htakes => not_wrapper_of_sublist hused hne _ htakes.2) ?_
    refine h.before (by simp [hmore]) ?_
    rw [Text.lower_append, Text.lower_append, Text.lower_lower]
    exact (List.prefix_append_right_inj _).2 (hbegins.map Char.toLower)
  · rw [settleHost, if_neg (hnot hhost)]
    refine normalizeHost_of_plain ?_ (not_wrapper_of_sublist hused hne _)
    rw [Text.lower_append, hlower, Text.lower_lower]
    rw [Text.occurs_eq_false_iff] at hknown ⊢
    exact fun hoccurs => hknown (hoccurs.trans (List.suffix_append _ _).isInfix)
  · have hclass : closesServer used.flatten = closesServer ("git::".toList ++ used.flatten) := by
      funext c
      rw [closesServer_wrapped hused, closesServer, if_neg (hnot hhost)]
    rw [hclass]
    exact hagain used.flatten (Text.lower server) more (Text.lower_lower server) hbegins

section Rereads

variable {server after : List Char}

theorem Opens.before_server (h : Opens openings cs taken (server ++ after)) {more : List Char}
    (hmore : more ≠ []) (hbegins : more <+: after) :
    Opens openings (taken ++ server ++ more) taken (server ++ more) := by
  rw [List.append_assoc]
  refine h.before (by simp [hmore]) ?_
  exact ((List.prefix_append_right_inj server).2 hbegins).map Char.toLower

theorem Opens.rereads_user (h : Opens openings cs "git@".toList (server ++ after))
    (hagain : ∀ more, more <+: after →
      takeThrough (closesServer "git@".toList) "git@".toList (server ++ more) =
        ("git@".toList ++ server, more)) :
    Rereads ("git@".toList ++ server) after "git@".toList server := by
  refine ⟨fun hhost => ⟨rfl, ?_⟩, fun more hmore hbegins => h.before_server hmore hbegins,
    fun _ => if_pos rfl, fun _ => hagain⟩
  rwa [List.append_right_eq_self] at hhost

/-- A host part that is kept as it was written is read again. -/
theorem Opens.rereads_plain {used : List (List Char)} (hused : used.Sublist openings)
    (hne : used.flatten ≠ []) (huser : used.flatten ≠ "git@".toList)
    (h : Opens openings cs used.flatten (server ++ after))
    (hagain : ∀ more, more <+: after →
      takeThrough (closesServer used.flatten) used.flatten (server ++ more) =
        (used.flatten ++ server, more))
    (hnormal : normalizeHost (used.flatten ++ server) = used.flatten ++ server) :
    Rereads (used.flatten ++ server) after used.flatten server := by
  refine ⟨eq_user_of_append hused hne, fun more hmore hbegins => h.before_server hmore hbegins,
    fun _ => ?_, fun _ => hagain⟩
  rw [settleHost, if_neg huser, hnormal]

/-- A host part is one of the normal forms of the best known host, or it is read again as it is
kept. -/
theorem splitHost_rereads (h : splitHost cs = (host, rest)) (hne : host ≠ []) :
    host = "git@github.com:".toList ∨ host = "https://github.com/".toList ∨
      ∃ taken server, Rereads host rest taken server := by
  obtain ⟨taken, behind, hopens⟩ := exists_opens openings cs
  obtain ⟨server, after, rfl, hclosed, hcut, hagain⟩ :=
    exists_server (closesServer_toLower taken) behind
  rw [splitHost_eq hopens, hcut] at h
  obtain ⟨rfl, rfl⟩ := Prod.mk.inj h
  dsimp only at hne ⊢
  by_cases huser : taken = "git@".toList
  · subst huser
    refine .inr (.inr ⟨"git@".toList, server, ?_⟩)
    rw [settleHost, if_pos rfl]
    exact hopens.rereads_user fun more hbegins => hagain _ server more rfl hbegins
  · obtain ⟨used, hused, rfl⟩ := hopens.exists_sublist
    rw [settleHost, if_neg huser] at hne ⊢
    -- Where nothing is taken off, no server is cut off, and there is no host part.
    have htaken : used.flatten ≠ [] := by
      intro hnil
      have hserver : server = [] :=
        server_eq_nil hclosed (closesServer_of_not_scheme huser (by rw [hnil]; decide))
      rw [hnil, hserver] at hne
      exact hne (by decide)
    rcases normalizeHost_cases (used.flatten ++ server) with
      hbest | hbest | ⟨hknown, hwrapped | ⟨hplain, hnormal⟩⟩
    · exact .inl hbest
    · exact .inr (.inl hbest)
    · refine .inr (.inr ?_)
      obtain ⟨others, hothers, heq | ⟨heq, hinner⟩⟩ := hopens.unwrap
      · rw [heq] at hwrapped htaken
        exact absurd ⟨_, hwrapped.symm⟩ (not_wrapper_of_sublist hothers htaken server)
      · have hlower := lower_flatten hused
        have hnormal : normalizeHost (used.flatten ++ server) =
            others.flatten ++ Text.lower server := by
          rw [Text.lower_append, hlower, heq, List.append_assoc, List.append_cancel_left_eq]
            at hwrapped
          rw [heq, ← hwrapped]
        rw [heq] at hclosed hagain
        have hbehind : others.flatten ≠ [] := by
          intro hnil
          have hends : endsWithScheme [] = false := by decide
          have hserver : server = [] := by
            refine server_eq_nil hclosed fun c => ?_
            rw [closesServer_wrapped hothers, hnil, hends, Bool.false_and]
          rw [hnormal, hnil, hserver] at hne
          exact hne rfl
        rw [hnormal]
        refine ⟨_, _, hinner.rereads_wrapped hothers hbehind hclosed hagain ?_⟩
        rwa [Text.lower_append, hlower, heq, List.append_assoc] at hknown
    · refine .inr (.inr ⟨used.flatten, server, ?_⟩)
      have hkept := normalizeHost_of_plain hknown hplain
      rw [hkept]
      exact hopens.rereads_plain hused htaken huser
        (fun more hbegins => hagain _ server more rfl hbegins) hkept

end Rereads

section Best

variable {head more : List Char} {openers : List (List Char)}

theorem Opens.skip_heads (skipped : List (List Char))
    (hskipped : ∀ opening ∈ skipped, ¬ Text.lower opening <+: Text.lower head ∧
      ¬ Text.lower head <+: Text.lower opening)
    (h : Opens openers (head ++ more) taken rest) :
    Opens (skipped ++ openers) (head ++ more) taken rest := by
  induction skipped with
  | nil => exact h
  | cons opening skipped ih =>
    obtain ⟨hnot, hnot'⟩ := hskipped opening (List.mem_cons_self ..)
    refine .skip (fun htakes => ?_) (ih fun other hother => hskipped other (.tail _ hother))
    have hbegins := htakes.2
    rw [Text.lower_append] at hbegins
    exact (List.prefix_or_prefix_of_prefix hbegins (List.prefix_append ..)).elim hnot hnot'

theorem Opens.take_head (hmore : more ≠ []) (opening head : List Char)
    (h : Opens openers (head ++ more) taken rest) :
    Opens (opening :: openers) (opening ++ head ++ more) (opening ++ taken) rest := by
  have hpos := List.length_pos_iff.2 hmore
  have hlength : opening.length < (opening ++ head ++ more).length := by
    simp only [List.length_append]
    omega
  refine .take ⟨hlength, ?_⟩ ?_
  · rw [List.append_assoc, Text.lower_append]
    exact List.prefix_append ..
  · rwa [List.append_assoc, List.drop_left]

/-- Other openings may follow, but none that changes what the host part is. -/
theorem opens_best (hmore : more ≠ [])
    (hbest : host = "git@github.com:".toList ∨ host = "https://github.com/".toList) :
    ∃ used ∈ ["github.com/".toList, "file://".toList].sublists, ∃ rest,
      Opens openings (host ++ more) (host ++ used.flatten) rest := by
  rcases hbest with rfl | rfl
  · obtain ⟨taken, rest, hrest⟩ := exists_opens ["github.com/".toList, "file://".toList] more
    obtain ⟨used, hused, rfl⟩ := hrest.exists_sublist
    have hserver := hrest.take_head hmore "github.com:".toList []
    have huser := hserver.take_head hmore "git@".toList _
    refine ⟨used, List.mem_sublists.2 hused, rest, ?_⟩
    exact huser.skip_heads (["git::", "ssh://", "https://", "http://"].map String.toList) (by decide)
  · obtain ⟨taken, rest, hrest⟩ := exists_opens ["file://".toList] more
    obtain ⟨used, hused, rfl⟩ := hrest.exists_sublist
    have hserver := hrest.take_head hmore "github.com/".toList []
    have hplain := hserver.skip_heads (["http://", "git@", "github.com:"].map String.toList)
      (by decide)
    have hscheme := hplain.take_head hmore "https://".toList _
    refine ⟨used, List.mem_sublists.2 (hused.cons _), rest, ?_⟩
    exact hscheme.skip_heads (["git::", "ssh://"].map String.toList) (by decide)

/-- The normal forms of the best known host are read again before any text. -/
theorem splitHost_best (hmore : more ≠ [])
    (hbest : host = "git@github.com:".toList ∨ host = "https://github.com/".toList) :
    (splitHost (host ++ more)).1 = host := by
  obtain ⟨used, hused, rest, hopens⟩ := opens_best hmore hbest
  have hfacts : ∀ host ∈ ["git@github.com:".toList, "https://github.com/".toList],
      ∀ used ∈ ["github.com/".toList, "file://".toList].sublists,
        host ++ used.flatten ≠ "git@".toList ∧ endsWithScheme (host ++ used.flatten) = false ∧
          normalizeHost (host ++ used.flatten) = host := by
    decide +kernel
  obtain ⟨huser, hscheme, hnormal⟩ := hfacts host (by simpa using hbest) used hused
  have hopen := closesServer_of_not_scheme huser hscheme
  rw [splitHost_eq hopens, takeThrough_of_not_mem fun c _ => hopen c, settleHost, if_neg huser]
  exact hnormal

end Best

/-- A host part is read again from what is cloned. -/
theorem splitHost_append (h : splitHost cs = (host, rest)) (hne : host ≠ [])
    (huser : host ≠ "git@".toList) {more : List Char} (hmore : more ≠ []) (hbegins : more <+: rest) :
    (splitHost (host ++ more)).1 = host := by
  rcases splitHost_rereads h hne with hbest | hbest | ⟨taken, server, hagain⟩
  · exact splitHost_best hmore (.inl hbest)
  · exact splitHost_best hmore (.inr hbest)
  · rw [splitHost_eq (hagain.opens more hmore hbegins), hagain.closed huser more hbegins]
    exact hagain.settled huser

/-- Behind a user name alone the openings end before what is cloned. -/
theorem opens_user (h : splitHost cs = ("git@".toList, rest)) {more : List Char} (hmore : more ≠ [])
    (hbegins : more <+: rest) : Opens openings ("git@".toList ++ more) "git@".toList more := by
  have hne : "git@".toList ≠ [] := by decide
  rcases splitHost_rereads h hne with hbest | hbest | ⟨taken, server, hagain⟩
  · exact absurd hbest (by decide)
  · exact absurd hbest (by decide)
  · obtain ⟨rfl, rfl⟩ := hagain.user rfl
    exact hagain.opens more hmore hbegins

end OverlayChain.Remote
