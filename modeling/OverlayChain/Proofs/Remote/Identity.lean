import OverlayChain.Proofs.Remote.Host
import OverlayChain.Proofs.Remote.Parts
import OverlayChain.Proofs.Url.Server

/-!
# The identity of what is cloned

Two references with one clone URL and one path have one identity, with two exceptions: a
repository of this machine is named with its suffix or without it, and a wrapped user name hides
the server that stands behind it.

## Main definitions

- `RemoteRef.CutAlike`: two spellings of one clone URL are cut at the same places.

## Main statements

- `RemoteRef.identity_eq_iff_of_cloneUrl_eq`: one clone URL has one identity exactly if it is cut
  at the same places.
-/

namespace OverlayChain

namespace RemoteRef

open Remote

/-- Two spellings of one clone URL are cut at the same places: a repository of this machine has
its suffix in both or in none, and a user name has its server in both or in none. A server without
a name is none. -/
structure CutAlike (a b : RemoteRef) : Prop where
  suffixed : a.host = "file://" → b.host = "file://" → a.suffixed = b.suffixed
  user : a.host = "git@" → b.host = "git@" ∨ b.host = "git@/"
  user_symm : b.host = "git@" → a.host = "git@" ∨ a.host = "git@/"

section Reading

variable {s : String} {a : RemoteRef}

/-- What a text says about the reference that it is read as. -/
structure Reads (s : String) (a : RemoteRef) (host rest : List Char) : Prop where
  split : splitHost s.toList = (host, rest)
  host_ne : host ≠ []
  repository_ne : (cutRest host rest).repository ≠ []
  eq : a = ofParts s host (cutRest host rest)

theorem exists_reads (h : parse? s = some a) : ∃ host rest, Reads s a host rest := by
  obtain ⟨-, host, rest, hsplit, hhost, hrepository, ha⟩ := parse?_eq_some_iff.1 h
  exact ⟨host, rest, hsplit, hhost, hrepository, ha⟩

variable {host rest : List Char}

theorem Reads.toList_host (h : Reads s a host rest) : a.host.toList = host := by
  rw [h.eq]
  simp [ofParts]

theorem Reads.toList_repository (h : Reads s a host rest) :
    a.repository.toList = (cutRest host rest).repository := by
  rw [h.eq]
  simp [ofParts]

theorem Reads.suffixed (h : Reads s a host rest) : a.suffixed = (cutRest host rest).suffixed := by
  rw [h.eq]
  rfl

/-- What is cloned of a rest: the repository and its suffix. -/
def cloned (host rest : List Char) : List Char :=
  (cutRest host rest).repository ++ (cutRest host rest).suffix

theorem Reads.toList_cloneUrl (h : Reads s a host rest) :
    a.cloneUrl.toList = host ++ cloned host rest := by
  rw [h.eq, toList_cloneUrl_ofParts, cloned]

theorem Reads.cloned_ne (h : Reads s a host rest) : cloned host rest ≠ [] := by
  simp [cloned, h.repository_ne]

theorem Reads.cloned_prefix (h : Reads s a host rest) : cloned host rest <+: rest := by
  obtain ⟨after, hafter⟩ := exists_eq_repository_append h.repository_ne
  exact ⟨after, hafter.symm⟩

/-- A host part that is not a user name alone is read again from the clone URL. -/
theorem Reads.splitHost_cloneUrl (h : Reads s a host rest) (huser : host ≠ "git@".toList) :
    (splitHost a.cloneUrl.toList).1 = host := by
  rw [h.toList_cloneUrl]
  exact splitHost_append h.split h.host_ne huser h.cloned_ne h.cloned_prefix

end Reading

section Suffixes

variable {front rest rest' : List Char} {parts parts' : Parts}

/-- If one text is cloned, and not with the suffix in one repository and behind the other, then the
suffix is named in both spellings or in none. -/
theorem suffixed_eq_of_ne
    (hcloned : parts.repository ++ parts.suffix = front ++ (parts'.repository ++ parts'.suffix))
    (hne : parts.suffixed = false → parts.repository ≠ front ++ parts'.repository ++ gitSuffix)
    (hne' : parts'.suffixed = false → parts.repository ++ gitSuffix ≠ front ++ parts'.repository) :
    parts.suffixed = parts'.suffixed := by
  unfold Parts.suffix at hcloned
  cases h : parts.suffixed with
  | false =>
    cases h' : parts'.suffixed with
    | false => rfl
    | true =>
      rw [h, h', if_neg Bool.false_ne_true, if_pos rfl, List.append_nil, ← List.append_assoc]
        at hcloned
      exact absurd hcloned (hne h)
  | true =>
    cases h' : parts'.suffixed with
    | true => rfl
    | false =>
      rw [h, h', if_neg Bool.false_ne_true, if_pos rfl, List.append_nil] at hcloned
      exact absurd hcloned (hne' h')

/-- With a separator before it or with nothing, what is cloned from a server is named with its
suffix in both spellings or in none. -/
theorem suffixed_eq_of_append
    (hfront : ∀ more, gitSuffix <:+ front ++ more → gitSuffix <:+ more)
    (hne : (splitRepository rest).repository ≠ []) (hne' : (splitRepository rest').repository ≠ [])
    (heq : (splitRepository rest).repository ++ (splitRepository rest).suffix =
      front ++ ((splitRepository rest').repository ++ (splitRepository rest').suffix)) :
    (splitRepository rest).suffixed = (splitRepository rest').suffixed :=
  suffixed_eq_of_ne heq
    (fun hplain hends => not_suffix_of_not_suffixed hne hplain ⟨_, hends.symm⟩)
    (fun hplain hends => not_suffix_of_not_suffixed hne' hplain (hfront _ ⟨_, hends⟩))

end Suffixes

section Domain

variable {a b : RemoteRef}

theorem domain?_congr (hhost : a.host = b.host) (hurl : a.cloneUrl = b.cloneUrl) :
    a.domain? = b.domain? := by
  rw [domain?, domain?, hhost, hurl]

theorem domain?_of_user {more : List Char} (hurl : a.cloneUrl.toList = "git@".toList ++ more) :
    a.domain? = ((some (writtenDomain a.host.toList)).filter fun domain => !domain.isEmpty).map
      Text.lower := by
  rw [domain?, hurl, Url.parse?_user]

/-- The path as it stands at the end of the identity. -/
def below (path : String) : List Char := if path.isEmpty then [] else '/' :: path.toList

theorem toList_identity (a : RemoteRef) :
    a.identity.toList = a.domain?.getD [] ++
      '/' :: Text.dropEnds (· == '/') a.repository.toList ++ below a.path := by
  rw [identity, below]
  cases a.path.isEmpty <;> simp

theorem identity_eq_iff (hpath : a.path = b.path) :
    a.identity = b.identity ↔
      a.domain?.getD [] ++ '/' :: Text.dropEnds (· == '/') a.repository.toList =
        b.domain?.getD [] ++ '/' :: Text.dropEnds (· == '/') b.repository.toList := by
  rw [← String.toList_inj, toList_identity, toList_identity, hpath, List.append_left_inj]

end Domain

section Spellings

variable {s t : String} {a b : RemoteRef} {host rest rest' : List Char}

theorem suffixed_eq_of_cloned_eq (hfile : host ≠ fileHost)
    (hne : (cutRest host rest).repository ≠ []) (hne' : (cutRest host rest').repository ≠ [])
    (heq : cloned host rest = cloned host rest') :
    (cutRest host rest).suffixed = (cutRest host rest').suffixed := by
  have hcut : ∀ rest, cutRest host rest = splitRepository rest := fun rest => if_neg hfile
  rw [cloned, cloned, hcut, hcut] at heq
  rw [hcut] at hne hne' ⊢
  rw [hcut]
  have hfront : ∀ more, gitSuffix <:+ [] ++ more → gitSuffix <:+ more := fun _ h => h
  exact suffixed_eq_of_append hfront hne hne' heq

/-- What the suffix adds to a repository is left between the ends. -/
theorem suffixed_eq_of_dropEnds {parts parts' : Parts}
    (hcloned : parts.repository ++ parts.suffix = parts'.repository ++ parts'.suffix)
    (hends : Text.dropEnds (· == '/') parts.repository =
      Text.dropEnds (· == '/') parts'.repository) : parts.suffixed = parts'.suffixed := by
  have hlonger : ∀ cs, Text.dropEnds (· == '/') cs ≠ Text.dropEnds (· == '/') (cs ++ gitSuffix) := by
    intro cs heq
    have hlt : (Text.dropEnds (· == '/') cs).length <
        (Text.dropEnds (· == '/') (cs ++ gitSuffix)).length :=
      Text.length_dropEnds_append rfl cs ['g', 'i', 't']
    rw [← heq] at hlt
    exact Nat.lt_irrefl _ hlt
  have hcloned' : parts.repository ++ parts.suffix =
      [] ++ (parts'.repository ++ parts'.suffix) := hcloned
  refine suffixed_eq_of_ne hcloned' (fun _ hmore => ?_) (fun _ hmore => ?_)
  · rw [hmore, List.nil_append] at hends
    exact hlonger _ hends.symm
  · rw [List.nil_append] at hmore
    rw [← hmore] at hends
    exact hlonger _ hends

/-- Behind one host part the identities differ only for a repository of this machine. -/
theorem identity_eq_iff_of_host_eq (ha : Reads s a host rest) (hb : Reads t b host rest')
    (hurl : a.cloneUrl = b.cloneUrl) (hpath : a.path = b.path) :
    a.identity = b.identity ↔ (host = fileHost → a.suffixed = b.suffixed) := by
  have hhost : a.host = b.host := by
    rw [← String.toList_inj, ha.toList_host, hb.toList_host]
  have hcloned : cloned host rest = cloned host rest' := by
    have htext := congrArg String.toList hurl
    rwa [ha.toList_cloneUrl, hb.toList_cloneUrl, List.append_cancel_left_eq] at htext
  have hrepository : a.suffixed = b.suffixed → a.repository = b.repository := by
    intro hsuffixed
    rw [ha.suffixed, hb.suffixed] at hsuffixed
    rw [cloned, cloned, Parts.suffix, Parts.suffix, hsuffixed, List.append_cancel_right_eq] at hcloned
    rw [← String.toList_inj, ha.toList_repository, hb.toList_repository, hcloned]
  rw [identity_eq_iff hpath, domain?_congr hhost hurl, List.append_cancel_left_eq,
    List.cons_inj_right]
  constructor
  · intro hrest _
    rw [ha.toList_repository, hb.toList_repository] at hrest
    rw [ha.suffixed, hb.suffixed]
    exact suffixed_eq_of_dropEnds hcloned hrest
  · intro hfile
    rw [hrepository]
    by_cases hhostfile : host = fileHost
    · exact hfile hhostfile
    · rw [ha.suffixed, hb.suffixed]
      exact suffixed_eq_of_cloned_eq hhostfile ha.repository_ne hb.repository_ne hcloned

/-- A user name alone hides a server that another spelling of the clone URL cuts off. -/
theorem exists_server_of_user (ha : Reads s a "git@".toList rest) (hb : Reads t b host rest')
    (hurl : a.cloneUrl = b.cloneUrl) (huser : host ≠ "git@".toList) :
    ∃ server c, host = "git@".toList ++ (server ++ [c]) ∧ (c = ':' ∨ c = '/') ∧
      (∀ d ∈ server, d ≠ ':' ∧ d ≠ '/') ∧
      cloned "git@".toList rest = server ++ c :: cloned host rest' := by
  have hopens := opens_user ha.split ha.cloned_ne ha.cloned_prefix
  have hagain := hb.splitHost_cloneUrl huser
  have htext := congrArg String.toList hurl
  rw [ha.toList_cloneUrl, hb.toList_cloneUrl] at htext
  rw [hb.toList_cloneUrl, ← htext, splitHost_eq hopens, settleHost, if_pos rfl] at hagain
  cases hcut : Text.splitAtClass? (closesServer "git@".toList) (cloned "git@".toList rest) with
  | none =>
    rw [takeThrough, hcut] at hagain
    exact absurd hagain.symm huser
  | some cut =>
    obtain ⟨server, c, after⟩ := cut
    obtain ⟨hcloned, hc, hserver⟩ := Text.eq_of_splitAtClass? hcut
    rw [takeThrough, hcut] at hagain
    dsimp only at hagain
    rw [List.append_assoc] at hagain
    refine ⟨server, c, hagain.symm, ?_, fun d hd => ?_, ?_⟩
    · rw [closesServer, if_pos rfl] at hc
      simpa using hc
    · have hd' := hserver d hd
      rw [closesServer, if_pos rfl] at hd'
      simpa using hd'
    · generalize cloned host rest' = more at htext ⊢
      rw [hcloned, ← hagain, List.append_assoc, List.append_cancel_left_eq, List.append_assoc] at htext
      rw [hcloned]
      exact htext

/-- What closes a server is taken off its end. -/
theorem dropEndWhile_close {server : List Char} {c : Char} (hc : c = ':' ∨ c = '/')
    (hserver : ∀ d ∈ server, d ≠ ':' ∧ d ≠ '/') :
    Text.dropEndWhile (fun c => c == '/' || c == ':') (server ++ [c]) = server := by
  have hplain : ∀ d ∈ server, (d == '/' || d == ':') = false := by
    intro d hd
    simp [hserver d hd]
  have hclose : Text.dropEndWhile (fun c => c == '/' || c == ':') [c] = [] := by
    rcases hc with rfl | rfl <;> rfl
  rw [Text.dropEndWhile_append_of_forall hplain, hclose, List.append_nil]

/-- Behind a user name the server is written without the character that closes it. -/
theorem writtenDomain_user {server : List Char} {c : Char} (hc : c = ':' ∨ c = '/')
    (hserver : ∀ d ∈ server, d ≠ ':' ∧ d ≠ '/') :
    writtenDomain ("git@".toList ++ (server ++ [c])) = server := by
  have hbare : writtenDomain ("git@".toList ++ (server ++ [c])) =
      Text.dropEndWhile (fun c => c == '/' || c == ':') (server ++ [c]) := rfl
  rw [hbare, dropEndWhile_close hc hserver]

theorem repository_eq_cons {front : Char} (hfront : front ∉ gitSuffix) (hfile : host ≠ fileHost)
    (hne : (cutRest "git@".toList rest).repository ≠ []) (hne' : (cutRest host rest').repository ≠ [])
    (heq : cloned "git@".toList rest = front :: cloned host rest') :
    (cutRest "git@".toList rest).repository = front :: (cutRest host rest').repository := by
  have huserfile : "git@".toList ≠ fileHost := by decide
  rw [cloned, cloned] at heq
  rw [cutRest, if_neg huserfile] at heq hne ⊢
  rw [cutRest, if_neg hfile] at heq hne' ⊢
  have hreach : ∀ more, gitSuffix <:+ [front] ++ more → gitSuffix <:+ more := by
    intro more hends
    have hends' : gitSuffix <:+ [] ++ front :: more := hends
    exact Text.suffix_of_suffix_append_cons hfront hends'
  have hsuffixed := suffixed_eq_of_append hreach hne hne' heq
  rw [Parts.suffix, Parts.suffix, hsuffixed, ← List.cons_append, List.append_cancel_right_eq] at heq
  exact heq

/-- Beside a user name alone the server is missing from the identity, unless it has no name. -/
theorem identity_eq_iff_of_user (ha : Reads s a "git@".toList rest) (hb : Reads t b host rest')
    (hurl : a.cloneUrl = b.cloneUrl) (hpath : a.path = b.path) (huser : host ≠ "git@".toList) :
    a.identity = b.identity ↔ host = "git@/".toList := by
  obtain ⟨server, c, rfl, hc, hserver, hcloned⟩ := exists_server_of_user ha hb hurl huser
  have hdomain : a.domain? = none := by
    rw [domain?_of_user ha.toList_cloneUrl, ha.toList_host]
    rfl
  have hdomain' : b.domain?.getD [] = Text.lower server := by
    rw [domain?_of_user (hurl ▸ ha.toList_cloneUrl), hb.toList_host, writtenDomain_user hc hserver]
    cases server <;> rfl
  rw [identity_eq_iff hpath, hdomain, hdomain', ha.toList_repository, hb.toList_repository]
  have hfile : "git@".toList ++ (server ++ [c]) ≠ fileHost := by
    intro heq
    exact absurd (List.cons.inj heq).1 (by decide)
  cases server with
  | nil =>
    have hsuffix : c ∉ gitSuffix := by rcases hc with rfl | rfl <;> decide
    have hrepository := repository_eq_cons hsuffix hfile ha.repository_ne hb.repository_ne hcloned
    rw [hrepository]
    generalize (cutRest ("git@".toList ++ ([] ++ [c])) rest').repository = repository
    rw [Text.lower_nil, Option.getD_none, List.append_cancel_left_eq, List.cons_inj_right]
    rcases hc with rfl | rfl
    · have hle := Text.length_dropEnds_le (· == '/') repository
      have hlonger : Text.dropEnds (· == '/') (':' :: repository) ≠
          Text.dropEnds (· == '/') repository := by
        intro heq
        rw [← heq, Text.dropEnds_cons rfl, List.length_cons] at hle
        omega
      exact iff_of_false hlonger (by decide)
    · exact iff_of_true (Text.dropEnds_cons_of_mem rfl repository) rfl
  | cons d server =>
    have hd := (hserver d (List.mem_cons_self ..)).2
    refine iff_of_false (fun heq => ?_) (fun heq => ?_)
    · have hhead : '/' = d.toLower := (List.cons.inj heq).1
      exact hd ((Text.toLower_eq_iff (by decide)).1 hhead.symm)
    · have hslash : "git@/".toList = "git@".toList ++ ['/'] := by decide
      rw [hslash, List.append_cancel_left_eq] at heq
      exact hd (List.cons.inj heq).1

theorem Reads.host_eq_iff (h : Reads s a host rest) (text : String) :
    a.host = text ↔ host = text.toList := by
  rw [← String.toList_inj, h.toList_host]

theorem cutAlike_iff_of_host_eq (ha : Reads s a host rest) (hb : Reads t b host rest') :
    CutAlike a b ↔ (host = fileHost → a.suffixed = b.suffixed) := by
  constructor
  · exact fun h hfile => h.suffixed ((ha.host_eq_iff _).2 hfile) ((hb.host_eq_iff _).2 hfile)
  · intro h
    refine ⟨fun hfile _ => h ((ha.host_eq_iff _).1 hfile), fun huser => .inl ?_, fun huser => .inl ?_⟩
    · exact (hb.host_eq_iff _).2 ((ha.host_eq_iff _).1 huser)
    · exact (ha.host_eq_iff _).2 ((hb.host_eq_iff _).1 huser)

theorem cutAlike_iff_of_user (ha : Reads s a "git@".toList rest) (hb : Reads t b host rest')
    (huser : host ≠ "git@".toList) : CutAlike a b ↔ host = "git@/".toList := by
  have hauser : a.host = "git@" := (ha.host_eq_iff _).2 rfl
  have hbuser : b.host ≠ "git@" := fun h => huser ((hb.host_eq_iff _).1 h)
  constructor
  · intro h
    exact (hb.host_eq_iff _).1 ((h.user hauser).resolve_left hbuser)
  · intro hhost
    refine ⟨fun hfile _ => ?_, fun _ => .inr ((hb.host_eq_iff _).2 hhost), fun h => absurd h hbuser⟩
    rw [hauser] at hfile
    exact absurd hfile (by decide)

theorem cutAlike_comm : CutAlike a b ↔ CutAlike b a :=
  ⟨fun h => ⟨fun hb ha => (h.suffixed ha hb).symm, h.user_symm, h.user⟩,
    fun h => ⟨fun ha hb => (h.suffixed hb ha).symm, h.user_symm, h.user⟩⟩

theorem identity_eq_iff_cutAlike (ha : Reads s a host rest) {host' : List Char}
    (hb : Reads t b host' rest') (hurl : a.cloneUrl = b.cloneUrl) (hpath : a.path = b.path) :
    a.identity = b.identity ↔ CutAlike a b := by
  by_cases hhost : host = host'
  · subst hhost
    rw [identity_eq_iff_of_host_eq ha hb hurl hpath, cutAlike_iff_of_host_eq ha hb]
  · by_cases huser : host = "git@".toList
    · subst huser
      rw [identity_eq_iff_of_user ha hb hurl hpath (Ne.symm hhost),
        cutAlike_iff_of_user ha hb (Ne.symm hhost)]
    · by_cases huser' : host' = "git@".toList
      · subst huser'
        rw [eq_comm, identity_eq_iff_of_user hb ha hurl.symm hpath.symm huser, cutAlike_comm,
          cutAlike_iff_of_user hb ha huser]
      · -- Both host parts are read again from the one clone URL.
        have hagain := ha.splitHost_cloneUrl huser
        rw [hurl, hb.splitHost_cloneUrl huser'] at hagain
        exact absurd hagain.symm hhost

end Spellings

/-- One clone URL and one path have one identity exactly if the spellings are cut at the same
places; such references overlap. -/
theorem identity_eq_iff_of_cloneUrl_eq {s t : String} {a b : RemoteRef} (hs : parse? s = some a)
    (ht : parse? t = some b) (hurl : a.cloneUrl = b.cloneUrl) (hpath : a.path = b.path) :
    (a.identity = b.identity ↔ CutAlike a b) ∧ (CutAlike a b → a.overlaps b = true) := by
  obtain ⟨host, rest, ha⟩ := exists_reads hs
  obtain ⟨host', rest', hb⟩ := exists_reads ht
  have hiff := identity_eq_iff_cutAlike ha hb hurl hpath
  refine ⟨hiff, fun halike => ?_⟩
  rw [overlaps, hiff.2 halike]
  simp

/-- A wrapped spelling with a double slash and a plain one. -/
theorem Sample.wrapped_overlaps :
    let wrapped : RemoteRef := ⟨"git::https://git.example.com/org/repo.git//app",
      "https://git.example.com/", "org/repo", "app", none, true⟩
    let plain : RemoteRef := ⟨"https://git.example.com/org/repo.git/app?ref=v1",
      "https://git.example.com/", "org/repo", "app", some "v1", true⟩
    parse? wrapped.raw = some wrapped ∧ parse? plain.raw = some plain ∧
      wrapped.identity = plain.identity ∧ wrapped.overlaps plain = true := by
  intro wrapped plain
  have hwrapped : parse? wrapped.raw = some wrapped := by decide +kernel
  have hplain : parse? plain.raw = some plain := by decide +kernel
  have halike : CutAlike wrapped plain := ⟨fun _ _ => rfl, by decide, by decide⟩
  have hone := identity_eq_iff_of_cloneUrl_eq hwrapped hplain rfl rfl
  exact ⟨hwrapped, hplain, hone.1.2 halike, hone.2 halike⟩

/-- On this machine the double slash behind the suffix keeps the suffix in the identity. -/
theorem Sample.nested_differs :
    ∃ nested plain, parse? "file:///srv/app.git//deploy" = some nested ∧
      parse? "file:///srv/app.git/deploy" = some plain ∧ nested.cloneUrl = plain.cloneUrl ∧
        nested.path = plain.path ∧ nested.identity ≠ plain.identity ∧
          nested.overlaps plain = false := by
  let nested : RemoteRef := ⟨"file:///srv/app.git//deploy", "file://", "/srv/app.git", "deploy", none,
    false⟩
  let plain : RemoteRef := ⟨"file:///srv/app.git/deploy", "file://", "/srv/app", "deploy", none, true⟩
  refine ⟨nested, plain, ?_, ?_, ?_, ?_, ?_, ?_⟩ <;> decide +kernel

end RemoteRef

end OverlayChain
