import OverlayChain.Proofs.Remote.Server

/-!
# Spellings of one place

A directory of a repository on a server has several spellings. They differ in what stands before the
server and behind it, in the suffix of the repository, in the separators before the path, and the
server may be written in any case. All of them are known under one identity.

## Main definitions

- `Remote.Spelling`: how the server of a reference is spelled.
- `Remote.Place`: a directory of a repository on a server, `Remote.Place.spell` its spellings.

## Main statements

- `Remote.Spelling.exists_splitHost`: every spelling leaves the owner behind the host part.
- `RemoteRef.domain?_of_namesServer`: the server that a host part names.
- `Remote.Place.spellings_agree`: all spellings of a place have its identity.
-/

namespace OverlayChain

namespace Remote

open Url

/-- How the server of a reference is spelled: as a URL of the web, as one of a secure shell, behind a
user name, behind a wrapper, or without anything before it. -/
inductive Spelling where
  | web | plain | shell | user | wrapped | bare | colon
  deriving DecidableEq

/-- The host parts that name a server. -/
inductive NamesServer (server : List Char) : List Char → Prop
  | web {scheme : List Char} (h : scheme ∈ ["https".toList, "http".toList]) :
      NamesServer server (scheme ++ "://".toList ++ server ++ ['/'])
  | shell : NamesServer server ("ssh://git@".toList ++ server ++ ['/'])
  | user : NamesServer server ("git@".toList ++ server ++ [':'])

namespace Spelling

/-- What stands before the server. -/
def opening : Spelling → List Char
  | web => "https://".toList
  | plain => "http://".toList
  | shell => "ssh://git@".toList
  | user => "git@".toList
  | wrapped => "git::https://".toList
  | bare | colon => []

/-- The character behind the server. -/
def close : Spelling → Char
  | user | colon => ':'
  | web | plain | shell | wrapped | bare => '/'

/-- Whether a server may be spelled so: only the best known host goes without an opening. -/
def Fits (s : Spelling) (server : List Char) : Prop :=
  s = bare ∨ s = colon → Text.lower server = knownName

/-- The openings that are looked for behind what stands before the server. -/
def left : Spelling → List (List Char)
  | web | wrapped => openings.drop 3
  | plain => openings.drop 4
  | shell | user => openings.drop 5
  | bare | colon => openings

variable {text taken rest : List Char}

theorem opens (s : Spelling) (htext : text ≠ []) (h : Opens s.left text taken rest) :
    Opens openings (s.opening ++ text) (s.opening ++ taken) rest := by
  cases s with
  | web => exact RemoteRef.opens_https htext h
  | plain =>
    have hplain := Opens.take_head htext "http://".toList [] h
    exact hplain.skip_heads (["git::", "ssh://", "https://"].map String.toList) (by decide)
  | shell =>
    have huser := Opens.take_head htext "git@".toList [] h
    have hskipped := huser.skip_heads (["https://", "http://"].map String.toList) (by decide)
    have hshell := hskipped.take_head htext "ssh://".toList _
    exact hshell.skip_heads (["git::"].map String.toList) (by decide)
  | user =>
    have huser := Opens.take_head htext "git@".toList [] h
    exact huser.skip_heads (["git::", "ssh://", "https://", "http://"].map String.toList) (by decide)
  | wrapped =>
    have hscheme := Opens.take_head htext "https://".toList [] h
    have hskipped := hscheme.skip_heads (["ssh://"].map String.toList) (by decide)
    exact hskipped.take_head htext "git::".toList _
  | bare => exact h
  | colon => exact h

section Server

variable {server owner more : List Char}

/-- In any spelling the best known host is taken off, and the rest begins with the owner. -/
theorem opens_known (s : Spelling) (hknown : Text.lower server = knownName)
    (howner : Segment owner) (hother : Text.lower owner ≠ knownName) (hmore : more.head? ≠ some '/') :
    Opens openings (s.opening ++ (server ++ s.close :: (owner ++ '/' :: more)))
      (s.opening ++ (knownName ++ [s.close])) (owner ++ '/' :: more) := by
  obtain ⟨skipped, openers, hleft, hskipped, hopeners⟩ : ∃ skipped openers,
      s.left = skipped ++ (knownName ++ [s.close]) :: openers ∧
        (∀ opening ∈ skipped, ¬ Text.lower opening <+: knownName ++ [s.close] ∧
          ¬ knownName ++ [s.close] <+: Text.lower opening) ∧
        ∀ opening ∈ openers, opening = "file://".toList ∨ opening = "github.com/".toList := by
    -- What is looked for before the known host is skipped, what comes after it is not found.
    refine ⟨s.left.takeWhile (· != knownName ++ [s.close]),
      (s.left.dropWhile (· != knownName ++ [s.close])).tail, ?_, ?_, ?_⟩ <;>
        cases s <;> decide +kernel
  have hrest : Opens openers (owner ++ '/' :: more) [] (owner ++ '/' :: more) :=
    opens_owner howner.slash hmore fun opening hopening =>
      (hopeners opening hopening).imp_right fun heq => ⟨heq, hother⟩
  have hclose : s.close.toLower = s.close := by cases s <;> rfl
  have hserver := Remote.opens_known hknown hclose (by simp) hskipped hrest
  rw [← hleft, List.append_nil] at hserver
  exact s.opens (by simp) hserver

/-- In any spelling a server other than the best known host stays behind what stands before it. -/
theorem opens_other (s : Spelling) (hname : ∀ c ∈ server, isNameChar c = true)
    (hother : Text.lower server ≠ knownName) (hfits : s.Fits server) (howner : Segment owner) :
    Opens openings (s.opening ++ (server ++ s.close :: (owner ++ '/' :: more))) s.opening
      (server ++ s.close :: (owner ++ '/' :: more)) := by
  have hslashes : ¬ "//".toList <+: owner ++ '/' :: more := by
    rintro ⟨rest, hrest⟩
    have hhead := howner.head?_append_ne ('/' :: more)
    rw [← hrest] at hhead
    exact hhead rfl
  have hclose : s.close = '/' ∨ s.close = ':' := by
    cases s <;> decide
  have hleft : ∀ opening ∈ s.left, opening ∈ openings.tail := by
    cases s with
    | bare => exact absurd (hfits (.inl rfl)) hother
    | colon => exact absurd (hfits (.inr rfl)) hother
    | web => exact RemoteRef.tail_of_drop (by decide)
    | plain => exact RemoteRef.tail_of_drop (by decide)
    | shell => exact RemoteRef.tail_of_drop (by decide)
    | user => exact RemoteRef.tail_of_drop (by decide)
    | wrapped => exact RemoteRef.tail_of_drop (by decide)
  have hopens := s.opens (by simp) (opens_server hname hother hleft (hclose.imp_right (⟨·, hslashes⟩)))
  rwa [List.append_nil] at hopens

/-- A host part behind a wrapper is kept without it, in lower case. -/
theorem normalizeHost_wrapped (hserver : ¬ knownName <:+: Text.lower server) :
    normalizeHost ("git::https://".toList ++ server ++ ['/']) =
      "https://".toList ++ Text.lower server ++ ['/'] := by
  have hfront : Text.lower "git::https://".toList = "git::".toList ++ "https://".toList ∧
      Text.lower "git::https://".toList = "git::https:/".toList ++ ['/'] := by decide +kernel
  have hhost : Text.lower ("git::https://".toList ++ server ++ ['/']) =
      Text.lower "git::https://".toList ++ (Text.lower server ++ ['/']) := by
    rw [List.append_assoc, Text.lower_append, Text.lower_append]
    rfl
  have hunwrapped : Text.dropPrefix? "git::".toList
      (Text.lower ("git::https://".toList ++ server ++ ['/'])) =
        some ("https://".toList ++ Text.lower server ++ ['/']) := by
    rw [Text.dropPrefix?_eq_some_iff, hhost, hfront.1, List.append_assoc, List.append_assoc]
  have hplain : Text.occurs "github.com".toList
      (Text.lower ("git::https://".toList ++ server ++ ['/'])) = false := by
    have hnot : ¬ knownName <:+: "git::https:/".toList ++ '/' :: (Text.lower server ++ ['/']) :=
      not_known_of_server (by decide) (by decide +kernel) hserver
    rw [Text.occurs_eq_false_iff, hhost, hfront.2, List.append_assoc]
    exact hnot
  rw [normalizeHost, hplain, if_neg Bool.false_ne_true, hunwrapped]

/-- The best known host is kept in one of its normal forms. -/
theorem exists_splitHost_known (s : Spelling) (hknown : Text.lower server = knownName)
    (howner : Segment owner) (hother : Text.lower owner ≠ knownName) (hmore : more.head? ≠ some '/') :
    ∃ host, NamesServer knownName host ∧
      splitHost (s.opening ++ (server ++ s.close :: (owner ++ '/' :: more))) =
        (host, owner ++ '/' :: more) := by
  have hopens := s.opens_known hknown howner hother hmore
  have htaken : s.opening ++ (knownName ++ [s.close]) ≠ "git@".toList ∧
      endsWithScheme (s.opening ++ (knownName ++ [s.close])) = false := by
    cases s <;> decide +kernel
  have hnormal : normalizeHost (s.opening ++ (knownName ++ [s.close])) =
        "https".toList ++ "://".toList ++ knownName ++ ['/'] ∨
      normalizeHost (s.opening ++ (knownName ++ [s.close])) =
        "git@".toList ++ knownName ++ [':'] := by
    cases s <;> decide +kernel
  refine ⟨_, ?_, splitHost_of_named hopens htaken.1 htaken.2⟩
  rcases hnormal with hweb | huser
  · rw [hweb]
    exact .web (List.mem_cons_self ..)
  · rw [huser]
    exact .user

/-- Another server is kept as it is spelled, in lower case behind a wrapper. -/
theorem exists_splitHost_other (s : Spelling) (hname : ServerName server) (hfits : s.Fits server)
    (hplain : ¬ knownName <:+: Text.lower server) (howner : Segment owner) (more : List Char) :
    ∃ server' host, (server' = server ∨ server' = Text.lower server) ∧ NamesServer server' host ∧
      splitHost (s.opening ++ (server ++ s.close :: (owner ++ '/' :: more))) =
        (host, owner ++ '/' :: more) := by
  have hchars := hname.nameChar
  have hother : Text.lower server ≠ knownName := fun heq => hplain (heq ▸ List.infix_rfl)
  have hopens : Opens openings (s.opening ++ (server ++ s.close :: (owner ++ '/' :: more))) s.opening
      (server ++ s.close :: (owner ++ '/' :: more)) := s.opens_other hchars hother hfits howner
  have hslash : '/' ∉ server := not_mem_of_isNameChar hchars (by decide)
  have hscheme : s.close = '/' → s.opening ≠ "git@".toList → endsWithScheme s.opening = true →
      splitHost (s.opening ++ (server ++ s.close :: (owner ++ '/' :: more))) =
        (normalizeHost (s.opening ++ server ++ ['/']), owner ++ '/' :: more) := by
    intro hclose huser hends
    rw [hclose] at hopens ⊢
    exact splitHost_of_scheme hopens huser hends hslash
  have hkept := fun front hfront => @RemoteRef.normalizeHost_server front server hfront hplain
  cases s with
  | bare => exact absurd (hfits (.inl rfl)) hother
  | colon => exact absurd (hfits (.inr rfl)) hother
  | web =>
    have hhost : NamesServer server ("https".toList ++ "://".toList ++ server ++ ['/']) :=
      .web (List.mem_cons_self ..)
    have hfront : "https".toList ++ "://".toList = web.opening := by decide +kernel
    rw [hfront, ← hkept web.opening (by decide)] at hhost
    exact ⟨server, _, .inl rfl, hhost, hscheme rfl (by decide) (by decide)⟩
  | plain =>
    have hhost : NamesServer server ("http".toList ++ "://".toList ++ server ++ ['/']) :=
      .web (by decide)
    have hfront : "http".toList ++ "://".toList = plain.opening := by decide +kernel
    rw [hfront, ← hkept plain.opening (by decide)] at hhost
    exact ⟨server, _, .inl rfl, hhost, hscheme rfl (by decide) (by decide)⟩
  | shell =>
    have hhost : NamesServer server (shell.opening ++ server ++ ['/']) := .shell
    rw [← hkept shell.opening (by decide)] at hhost
    exact ⟨server, _, .inl rfl, hhost, hscheme rfl (by decide) (by decide)⟩
  | wrapped =>
    have hhost : NamesServer (Text.lower server)
        ("https".toList ++ "://".toList ++ Text.lower server ++ ['/']) := .web (List.mem_cons_self ..)
    have hfront : "https".toList ++ "://".toList = "https://".toList := by decide +kernel
    rw [hfront, ← normalizeHost_wrapped hplain] at hhost
    exact ⟨Text.lower server, _, .inr rfl, hhost, hscheme rfl (by decide) (by decide)⟩
  | user =>
    have hcolon : ':' ∉ server := not_mem_of_isNameChar hchars (by decide)
    exact ⟨server, _, .inl rfl, .user, splitHost_of_user hopens hcolon hslash⟩

/-- Every spelling leaves the owner behind a host part that names the server, in some case. -/
theorem exists_splitHost (s : Spelling) (hname : ServerName server) (hfits : s.Fits server)
    (hknown : Text.lower server = knownName ∨ ¬ knownName <:+: Text.lower server)
    (howner : Segment owner) (hother : Text.lower owner ≠ knownName) (hmore : more.head? ≠ some '/') :
    ∃ server' host, Text.lower server' = Text.lower server ∧ ServerName server' ∧
      NamesServer server' host ∧
        splitHost (s.opening ++ (server ++ s.close :: (owner ++ '/' :: more))) =
          (host, owner ++ '/' :: more) := by
  rcases hknown with hbest | hplain
  · obtain ⟨host, hhost, hsplit⟩ := s.exists_splitHost_known hbest howner hother hmore
    have hserver : ServerName knownName := by decide +kernel
    have hlower : Text.lower knownName = knownName := by decide
    exact ⟨knownName, host, hlower.trans hbest.symm, hserver, hhost, hsplit⟩
  · obtain ⟨server', host, hsame, hhost, hsplit⟩ :=
      s.exists_splitHost_other hname hfits hplain howner more
    rcases hsame with rfl | rfl
    · exact ⟨server', host, rfl, hname, hhost, hsplit⟩
    · exact ⟨Text.lower server, host, Text.lower_lower server, hname.lower, hhost, hsplit⟩

/-- A spelling does not begin as a path does. -/
theorem exists_cons (s : Spelling) (hname : ServerName server) (more : List Char) :
    ∃ c cs, s.opening ++ (server ++ more) = c :: cs ∧ c ≠ '/' := by
  have hserver : ∃ c cs, server ++ more = c :: cs ∧ c ≠ '/' := by
    cases server with
    | nil => exact absurd rfl hname.ne_nil
    | cons c server =>
      refine ⟨c, server ++ more, rfl, ?_⟩
      rintro rfl
      exact absurd (hname.nameChar '/' (List.mem_cons_self ..)) (by decide)
  cases s with
  | bare => exact hserver
  | colon => exact hserver
  | web => exact ⟨_, _, rfl, by decide⟩
  | plain => exact ⟨_, _, rfl, by decide⟩
  | shell => exact ⟨_, _, rfl, by decide⟩
  | user => exact ⟨_, _, rfl, by decide⟩
  | wrapped => exact ⟨_, _, rfl, by decide⟩

end Server

end Spelling

/-- A host part that names a server is neither empty nor that of this machine. -/
theorem NamesServer.ne {server host : List Char} (h : NamesServer server host) :
    host ≠ [] ∧ host ≠ RemoteRef.fileHost := by
  cases h with
  | @web scheme hscheme =>
    have hcases : scheme = "https".toList ∨ scheme = "http".toList := by simpa using hscheme
    rcases hcases with rfl | rfl
    · exact ⟨by simp, fun heq => absurd (List.cons.inj heq).1 (by decide)⟩
    · exact ⟨by simp, fun heq => absurd (List.cons.inj heq).1 (by decide)⟩
  | shell => exact ⟨by simp, fun heq => absurd (List.cons.inj heq).1 (by decide)⟩
  | user => exact ⟨by simp, fun heq => absurd (List.cons.inj heq).1 (by decide)⟩

end Remote

namespace RemoteRef

open Remote Url

section Domain

variable {server more : List Char} {a : RemoteRef}

/-- Behind the scheme of the web the server is written without what closes it. -/
theorem writtenDomain_web {scheme : List Char} (hscheme : scheme ∈ ["https".toList, "http".toList])
    (hchars : ∀ c ∈ server, isNameChar c = true) :
    writtenDomain (scheme ++ "://".toList ++ server ++ ['/']) = server := by
  have hclosed : ∀ d ∈ server, d ≠ ':' ∧ d ≠ '/' := fun d hd =>
    ⟨ne_of_isNameChar (hchars d hd) (by decide), ne_of_isNameChar (hchars d hd) (by decide)⟩
  -- No other opening stands before the server.
  have hnone : ∀ {body tail : List Char} {d : Char}, (∀ c ∈ body, isNameChar c = true) →
      isNameChar d = false → d ≠ '/' →
        Text.dropPrefix? (body ++ d :: tail) (server ++ ['/']) = none := by
    intro body tail d hbody hd hslash
    rw [Text.dropPrefix?_eq_none_iff]
    intro hbegins
    exact hslash (Text.eq_of_append_cons_prefix hbody hd hchars (by decide) hbegins).2.1
  have hhttp : Text.dropPrefix? "http://".toList (server ++ ['/']) = none := by
    have hcut : "http://".toList = "http".toList ++ ':' :: "//".toList := by decide +kernel
    rw [hcut]
    exact hnone (List.all_eq_true.1 (by decide)) (by decide) (by decide)
  have huser : Text.dropPrefix? "git@".toList (server ++ ['/']) = none := by
    have hcut : "git@".toList = "git".toList ++ '@' :: [] := by decide +kernel
    rw [hcut]
    exact hnone (List.all_eq_true.1 (by decide)) (by decide) (by decide)
  have hscheme' : scheme = "https".toList ∨ scheme = "http".toList := by simpa using hscheme
  have hbare : ["ssh://", "https://", "http://", "git@"].foldl
      (fun domain opening => (Text.dropPrefix? opening.toList domain).getD domain)
      (scheme ++ "://".toList ++ server ++ ['/']) = server ++ ['/'] := by
    simp only [List.foldl_cons, List.foldl_nil]
    rcases hscheme' with rfl | rfl
    · have hother : Text.dropPrefix? "ssh://".toList
          ("https".toList ++ "://".toList ++ server ++ ['/']) = none := rfl
      have hown : Text.dropPrefix? "https://".toList
          ("https".toList ++ "://".toList ++ server ++ ['/']) = some (server ++ ['/']) := rfl
      rw [hother, Option.getD_none, hown, Option.getD_some, hhttp, Option.getD_none, huser,
        Option.getD_none]
    · have hother : Text.dropPrefix? "ssh://".toList
          ("http".toList ++ "://".toList ++ server ++ ['/']) = none := rfl
      have hother' : Text.dropPrefix? "https://".toList
          ("http".toList ++ "://".toList ++ server ++ ['/']) = none := rfl
      have hown : Text.dropPrefix? "http://".toList
          ("http".toList ++ "://".toList ++ server ++ ['/']) = some (server ++ ['/']) := rfl
      rw [hother, Option.getD_none, hother', Option.getD_none, hown, Option.getD_some, huser,
        Option.getD_none]
  rw [writtenDomain, hbare, dropEndWhile_close (.inr rfl) hclosed]

/-- A host part and a clone URL that begins with it name the server, in lower case. -/
theorem domain?_of_namesServer {host : List Char} (hserver : NamesServer server host)
    (hhost : a.host.toList = host) (hurl : a.cloneUrl.toList = host ++ more)
    (hname : ServerName server) (hshown : ShownAsWritten server) :
    a.domain? = some (Text.lower server) := by
  have hchars := hname.nameChar
  have hkept : (some server).filter (fun domain => !domain.isEmpty) = some server := by
    have hne := hname.ne_nil
    simp [hne]
  cases hserver with
  | @web scheme hscheme =>
    have hparsed := parse?_web hscheme hname more
    have hfile : scheme ≠ "file".toList := by
      rintro rfl
      revert hscheme
      decide
    rw [List.append_assoc, List.singleton_append] at hurl
    rw [domain?, hurl, hparsed, hhost, writtenDomain_web hscheme hchars, hkept]
    cases hweb : webHost? server with
    | none => rfl
    | some shown =>
      rw [hshown shown hweb, Option.map_some]
      dsimp only
      rw [if_neg hfile, Option.some_or, Option.map_some, Text.lower_lower]
  | shell =>
    have hparsed := parse?_shell hname more
    rw [List.append_assoc, List.singleton_append] at hurl
    rw [domain?, hurl, hparsed]
    rfl
  | user =>
    rw [List.append_assoc] at hurl hhost
    have hclosed : ∀ d ∈ server, d ≠ ':' ∧ d ≠ '/' := fun d hd =>
      ⟨ne_of_isNameChar (hchars d hd) (by decide), ne_of_isNameChar (hchars d hd) (by decide)⟩
    rw [List.append_assoc] at hurl
    rw [domain?_of_user hurl, hhost, writtenDomain_user (.inl rfl) hclosed, hkept]
    rfl

end Domain

end RemoteRef

namespace Remote

open RemoteRef Url

/-- A directory of a repository on a server. The server is the best known host, or does not have the
name of that host in it, and the owner is not called like the best known host. -/
structure Place where
  server : List Char
  owner : List Char
  repository : List Char
  path : List (List Char)
  named : ServerName server
  known : Text.lower server = knownName ∨ ¬ knownName <:+: Text.lower server
  owner_segment : Segment owner
  owner_ne : Text.lower owner ≠ knownName
  repository_segment : Segment repository
  path_segments : ∀ segment ∈ path, Segment segment

namespace Place

/-- A reference to the place: with the suffix of the repository or without it, and with separators
before the path. -/
def spell (place : Place) (s : Spelling) (suffixed : Bool) (slashes : Nat) : String :=
  String.ofList (s.opening ++ (place.server ++
    s.close :: written place.owner place.repository suffixed slashes place.path))

/-- The name under which the place is known. -/
def identity (place : Place) : String :=
  String.ofList (Text.lower place.server ++
    '/' :: (place.owner ++ '/' :: place.repository ++ trail place.path))

/-- The directory above the place that only the first segments of the path lead to. -/
def above (place : Place) (n : Nat) : Place :=
  { place with
    path := place.path.take n
    path_segments := fun segment h => place.path_segments segment (List.mem_of_mem_take h) }

theorem identity_above_prefix (place : Place) (n : Nat) :
    (place.above n).identity.toList <+: place.identity.toList := by
  have htrail : trail (place.path.take n) <+: trail place.path :=
    ⟨trail (place.path.drop n), by rw [trail, trail, trail, ← List.flatMap_append, List.take_append_drop]⟩
  simp only [identity, above, String.toList_ofList]
  rw [List.prefix_append_right_inj, List.cons_prefix_cons]
  exact ⟨rfl, (List.prefix_append_right_inj _).2 htrail⟩

/-- The repository is left between the separators, and the path is put behind it again. -/
theorem toList_identity_of_parts {a : RemoteRef} (place : Place)
    (hdomain : a.domain? = some (Text.lower place.server))
    (hrepository : a.repository.toList = place.owner ++ '/' :: place.repository)
    (hpath : a.path.toList = (trail place.path).tail) : a.identity = place.identity := by
  have hsegments : ∀ segment ∈ [place.owner, place.repository], Segment segment := by
    simp [place.owner_segment, place.repository_segment]
  have hwhole : Text.dropEnds (· == '/') (place.owner ++ '/' :: place.repository) =
      place.owner ++ '/' :: place.repository := by
    have hends := dropEnds_trail hsegments 1
    simpa [trail, Text.dropEnds_cons_of_mem] using hends
  have hbelow : RemoteRef.below a.path = trail place.path := by
    have hempty : a.path.isEmpty = a.path.toList.isEmpty := by
      rw [Bool.eq_iff_iff]
      simp
    rw [RemoteRef.below, hempty, hpath]
    cases hcases : place.path with
    | nil => rfl
    | cons segment path =>
      have hne := (place.path_segments segment (hcases ▸ List.mem_cons_self ..)).ne_nil
      simp [trail, hne]
  rw [← String.toList_inj, RemoteRef.toList_identity, hdomain, hrepository, hwhole, hbelow, identity,
    String.toList_ofList, Option.getD_some]
  simp

/-- Every spelling of a place is a reference that is known under the name of the place. The case of
a server with a label in ASCII form is left to the reading of URLs. -/
theorem exists_parse? (place : Place)
    (hshown : isPlain place.server = false →
      ∀ name, Text.lower name = Text.lower place.server → ShownAsWritten name)
    {s : Spelling} (hfits : s.Fits place.server) (suffixed : Bool) (slashes : Nat) :
    ∃ a, RemoteRef.parse? (place.spell s suffixed slashes) = some a ∧ a.identity = place.identity := by
  have hwritten : written place.owner place.repository suffixed slashes place.path =
      place.owner ++ '/' :: (place.repository ++ ((if suffixed then gitSuffix else []) ++
        (List.replicate slashes '/' ++ trail place.path))) := by simp [written]
  have hmore := place.repository_segment.head?_append_ne ((if suffixed then gitSuffix else []) ++
    (List.replicate slashes '/' ++ trail place.path))
  obtain ⟨server, host, hsame, hname, hhost, hsplit⟩ := s.exists_splitHost place.named hfits
    place.known place.owner_segment place.owner_ne hmore
  have hlocal := s.exists_cons place.named
    (s.close :: written place.owner place.repository suffixed slashes place.path)
  rw [← hwritten] at hsplit
  have htext : (place.spell s suffixed slashes).toList = s.opening ++ (place.server ++
      s.close :: written place.owner place.repository suffixed slashes place.path) :=
    String.toList_ofList
  rw [← htext] at hsplit hlocal
  obtain ⟨a, ha, hahost, hrepository, hpath, hurl⟩ := parse?_written hlocal hsplit hhost.ne.1 hhost.ne.2
    place.owner_segment place.repository_segment place.path_segments
  have hserver : ShownAsWritten server := by
    cases hplain : isPlain place.server with
    | true =>
      refine hname.shownAsWritten ?_
      rw [← isPlain_lower, hsame, isPlain_lower, hplain]
    | false => exact hshown hplain server hsame
  have hdomain := domain?_of_namesServer hhost hahost hurl hname hserver
  rw [hsame] at hdomain
  exact ⟨a, ha, place.toList_identity_of_parts hdomain hrepository hpath⟩

/-- All spellings of a place have its identity, so any two of them overlap, and each overlaps the
spellings of the places above it. The first of those is the repository itself. A server with a label
in ASCII form has to be shown as it is written, if it is shown at all. -/
theorem spellings_agree (place : Place)
    (hshown : isPlain place.server = false →
      ∀ name, Text.lower name = Text.lower place.server → ShownAsWritten name) :
    (∀ s : Spelling, s.Fits place.server → ∀ suffixed slashes,
        ∃ a, RemoteRef.parse? (place.spell s suffixed slashes) = some a ∧
          a.identity = place.identity) ∧
      ∀ s t : Spelling, s.Fits place.server → t.Fits place.server →
        ∀ suffixed suffixed' slashes slashes' n a b,
          RemoteRef.parse? (place.spell s suffixed slashes) = some a →
            RemoteRef.parse? ((place.above n).spell t suffixed' slashes') = some b →
              a.overlaps b = true ∧ b.overlaps a = true := by
  refine ⟨fun s hs suffixed slashes => place.exists_parse? hshown hs suffixed slashes, ?_⟩
  intro s t hs ht suffixed suffixed' slashes slashes' n a b ha hb
  obtain ⟨a', ha', hidentity⟩ := place.exists_parse? hshown hs suffixed slashes
  obtain ⟨b', hb', hidentity'⟩ := (place.above n).exists_parse? hshown ht suffixed' slashes'
  obtain rfl : a' = a := Option.some.inj (ha'.symm.trans ha)
  obtain rfl : b' = b := Option.some.inj (hb'.symm.trans hb)
  have hprefix := place.identity_above_prefix n
  rw [← hidentity, ← hidentity'] at hprefix
  simp [RemoteRef.overlaps, List.isPrefixOf_iff_prefix, hprefix]

/-- A directory of a repository. -/
def Sample.base : Place where
  server := "Git.example.com".toList
  owner := "org".toList
  repository := "repo".toList
  path := ["deploy".toList, "base".toList]
  named := by decide +kernel
  known := .inr (by decide +kernel)
  owner_segment := by decide +kernel
  owner_ne := by decide +kernel
  repository_segment := by decide +kernel
  path_segments := by decide +kernel

/-- A spelling of the directory, and one of its repository. -/
theorem Sample.base_overlaps :
    ∃ a b, RemoteRef.parse? "git@Git.example.com:org/repo.git//deploy/base" = some a ∧
      RemoteRef.parse? "git::https://Git.example.com/org/repo.git" = some b ∧
        a.identity = "git.example.com/org/repo/deploy/base" ∧ a.overlaps b = true := by
  have hagree := Sample.base.spellings_agree fun h => absurd h (by decide +kernel)
  have hfits : ∀ s : Spelling, s ≠ .bare → s ≠ .colon → s.Fits Sample.base.server :=
    fun s hbare hcolon h => (h.elim hbare hcolon).elim
  have huser := hfits .user (by decide) (by decide)
  have hwrapped := hfits .wrapped (by decide) (by decide)
  obtain ⟨a, ha, hidentity⟩ := hagree.1 .user huser true 1
  have hspelled : Sample.base.spell .user true 1 = "git@Git.example.com:org/repo.git//deploy/base" := by
    decide +kernel
  have hname : Sample.base.identity = "git.example.com/org/repo/deploy/base" := by decide +kernel
  have hrepository : (Sample.base.above 0).spell .wrapped true 0 =
      "git::https://Git.example.com/org/repo.git" := by decide +kernel
  have hb : RemoteRef.parse? "git::https://Git.example.com/org/repo.git" =
      some ⟨"git::https://Git.example.com/org/repo.git", "https://git.example.com/", "org/repo", "",
        none, true⟩ := by decide +kernel
  have hoverlaps := hagree.2 .user .wrapped huser hwrapped true true 1 0 0 a _ ha (hrepository ▸ hb)
  exact ⟨a, _, hspelled ▸ ha, hb, hidentity.trans hname, hoverlaps.1⟩

end Place

end Remote

end OverlayChain
