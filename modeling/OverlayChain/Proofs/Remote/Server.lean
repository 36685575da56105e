import Mathlib.Data.List.TakeWhile
import OverlayChain.Proofs.Remote.Identity
import OverlayChain.Proofs.Remote.Segments

/-!
# The server of a reference

The name of a server holds no character at which an opening ends, so an opening is taken off it only
where it names the best known host. The name is kept in the clone URL, unless it has the name of the
best known host in it: then that host takes its place.

## Main definitions

- `Url.writtenServer`: the server that a clone URL names, as it is written there.
- `RemoteRef.TopOn`: a reference to the top of a repository on a server, whose name is kept.

## Main statements

- `Remote.opens_server`, `Remote.opens_known`: the openings that are taken off a server.
- `RemoteRef.topOn_iff`: when a reference keeps the server that it names.
-/

namespace OverlayChain

namespace Url

theorem isNameChar_toLower (c : Char) : isNameChar c.toLower = isNameChar c := by
  rw [Bool.eq_iff_iff, isNameChar_iff, isNameChar_iff, isLabelChar_iff, isLabelChar_iff,
    Text.toNat_toLower]
  split <;> omega

end Url

namespace Remote

open Url

section Openings

variable {name more taken rest : List Char} {c : Char} {openers skipped : List (List Char)}

/-- An opening that is taken off the name of a server spells the name, and goes on as the text does
behind it. -/
theorem Takes.server {opening : List Char} (hname : ∀ d ∈ name, isNameChar d = true)
    (hc : isNameChar c = false) (hopening : opening.dropWhile isNameChar ≠ [])
    (h : Takes opening (name ++ c :: more)) :
    Text.lower (opening.takeWhile isNameChar) = Text.lower name ∧
      Text.lower (opening.dropWhile isNameChar) <+: Text.lower (c :: more) := by
  have hbegins := h.2
  cases hrest : opening.dropWhile isNameChar with
  | nil => exact absurd hrest hopening
  | cons d tail =>
    have hd : isNameChar d = false := by
      have hhead := List.head_dropWhile_not isNameChar hopening
      simpa [hrest] using hhead
    have hbody : ∀ e ∈ Text.lower (opening.takeWhile isNameChar), isNameChar e = true := by
      intro e he
      obtain ⟨e', he', rfl⟩ := List.mem_map.1 he
      rw [isNameChar_toLower]
      exact List.mem_takeWhile_imp he'
    have hhead : ∀ e ∈ Text.lower name, isNameChar e = true := by
      intro e he
      obtain ⟨e', he', rfl⟩ := List.mem_map.1 he
      rw [isNameChar_toLower]
      exact hname e' he'
    have hcut : Text.lower opening =
        Text.lower (opening.takeWhile isNameChar) ++ d.toLower :: Text.lower tail := by
      have hsplit := congrArg Text.lower (List.takeWhile_append_dropWhile (p := isNameChar) (l := opening))
      rw [Text.lower_append, hrest] at hsplit
      exact hsplit.symm
    rw [hcut, Text.lower_append] at hbegins
    have hagree := Text.eq_of_append_cons_prefix hbody (by rw [isNameChar_toLower, hd]) hhead
      (by rw [isNameChar_toLower, hc]) hbegins
    refine ⟨hagree.1, ?_⟩
    exact List.cons_prefix_cons.2 hagree.2

/-- The name of the best known host. -/
def knownName : List Char := "github.com".toList

theorem openings_cases : ∀ opening ∈ openings.tail, opening.dropWhile isNameChar ≠ [] ∧
    (Text.lower (opening.takeWhile isNameChar) = knownName ∨
      Text.lower (opening.dropWhile isNameChar) = "://".toList ∨
        Text.lower (opening.dropWhile isNameChar) = "@".toList) := by
  decide

/-- Behind a wrapper, if there is one, no opening is taken off the name of a server other than the
best known host. -/
theorem opens_server (hname : ∀ d ∈ name, isNameChar d = true) (hother : Text.lower name ≠ knownName)
    (hopeners : ∀ opening ∈ openers, opening ∈ openings.tail)
    (hclose : c = '/' ∨ c = ':' ∧ ¬ "//".toList <+: more) :
    Opens openers (name ++ c :: more) [] (name ++ c :: more) := by
  refine opens_of_not_takes fun opening hopening htakes => ?_
  obtain ⟨hne, hcases⟩ := openings_cases opening (hopeners opening hopening)
  have hc : isNameChar c = false := by
    rcases hclose with rfl | ⟨rfl, -⟩ <;> rfl
  obtain ⟨hbody, hbegins⟩ := htakes.server hname hc hne
  rcases hcases with hknown | hscheme | huser
  · exact hother (hbody.symm.trans hknown)
  · rw [hscheme] at hbegins
    rcases hclose with rfl | ⟨rfl, hmore⟩
    · exact absurd (List.cons_prefix_cons.1 hbegins).1 (by decide)
    · obtain ⟨-, hslashes⟩ := List.cons_prefix_cons.1 hbegins
      refine hmore ?_
      cases more with
      | nil => exact absurd hslashes (by decide)
      | cons a more =>
        obtain ⟨ha, hbehind⟩ := List.cons_prefix_cons.1 hslashes
        obtain rfl := (Text.toLower_eq_iff (by decide)).1 ha.symm
        cases more with
        | nil => exact absurd hbehind (by decide)
        | cons b more =>
          obtain ⟨hb, -⟩ := List.cons_prefix_cons.1 hbehind
          obtain rfl := (Text.toLower_eq_iff (by decide)).1 hb.symm
          exact ⟨more, rfl⟩
  · rw [huser] at hbegins
    have hat := (List.cons_prefix_cons.1 hbegins).1
    rcases hclose with rfl | ⟨rfl, -⟩ <;> exact absurd hat (by decide)

/-- The best known host is taken off in any case, with the character behind it. -/
theorem opens_known (hknown : Text.lower name = knownName) (hc : c.toLower = c) (hmore : more ≠ [])
    (hskipped : ∀ opening ∈ skipped, ¬ Text.lower opening <+: knownName ++ [c] ∧
      ¬ knownName ++ [c] <+: Text.lower opening) (h : Opens openers more taken rest) :
    Opens (skipped ++ (knownName ++ [c]) :: openers) (name ++ c :: more)
      (knownName ++ [c] ++ taken) rest := by
  have hhead : Text.lower (name ++ [c]) = knownName ++ [c] := by
    rw [Text.lower_append, hknown, Text.lower, List.map_cons, hc, List.map_nil]
  have hlower : Text.lower (knownName ++ [c]) = knownName ++ [c] := by
    rw [← hhead, Text.lower_lower]
  have hlength : (knownName ++ [c]).length = (name ++ [c]).length := by
    rw [← hhead, Text.length_lower]
  have hcs : name ++ c :: more = (name ++ [c]) ++ more := by simp
  have hpos := List.length_pos_iff.2 hmore
  rw [hcs]
  refine Opens.skip_heads skipped (by rwa [hhead]) (.take ⟨?_, ?_⟩ ?_)
  · rw [hlength]
    simp only [List.length_append]
    omega
  · rw [hlower, Text.lower_append, hhead]
    exact List.prefix_append ..
  · rwa [hlength, List.drop_left]

/-- Behind the best known host no opening is taken off an owner. -/
theorem opens_owner {owner : List Char} (howner : '/' ∉ owner) (hmore : more.head? ≠ some '/')
    (hopeners : ∀ opening ∈ openers, opening = "file://".toList ∨
      opening = "github.com/".toList ∧ Text.lower owner ≠ knownName) :
    Opens openers (owner ++ '/' :: more) [] (owner ++ '/' :: more) := by
  refine opens_of_not_takes fun opening hopening htakes => ?_
  have hbegins := htakes.2
  have hplain : ∀ d ∈ Text.lower owner, (d != '/') = true := by
    intro d hd
    rw [bne_iff_ne]
    rintro rfl
    exact howner ((Text.mem_lower_iff (by decide)).1 hd)
  rw [Text.lower_append] at hbegins
  rcases hopeners opening hopening with rfl | ⟨rfl, hother⟩
  · have hfile : Text.lower "file://".toList = "file:".toList ++ '/' :: ['/'] := by decide
    rw [hfile] at hbegins
    obtain ⟨-, -, hslash⟩ := Text.eq_of_append_cons_prefix (List.all_eq_true.1 (by decide))
      (by decide) hplain (by decide) hbegins
    cases more with
    | nil => exact absurd hslash (by decide)
    | cons d more =>
      have hd := (List.cons_prefix_cons.1 hslash).1
      obtain rfl := (Text.toLower_eq_iff (by decide)).1 hd.symm
      exact hmore rfl
  · have hknown : Text.lower "github.com/".toList = knownName ++ '/' :: [] := by decide
    rw [hknown] at hbegins
    obtain ⟨hsame, -⟩ := Text.eq_of_append_cons_prefix (List.all_eq_true.1 (by decide))
      (by decide) hplain (by decide) hbegins
    exact hother hsame.symm

end Openings

section Split

variable {cs taken server rest : List Char}

/-- Behind a scheme the server is cut off at the next separator. -/
theorem splitHost_of_scheme (h : Opens openings cs taken (server ++ '/' :: rest))
    (huser : taken ≠ "git@".toList) (hscheme : endsWithScheme taken = true) (hserver : '/' ∉ server) :
    splitHost cs = (normalizeHost (taken ++ server ++ ['/']), rest) := by
  have hclass : closesServer taken = (· == '/') := by
    funext c
    rw [closesServer, if_neg huser, hscheme, Bool.true_and]
  have hplain : ∀ d ∈ server, (d == '/') = false := by
    intro d hd
    rw [beq_eq_false_iff_ne]
    rintro rfl
    exact hserver hd
  rw [splitHost_eq h, hclass, takeThrough_append_cons hplain rfl, settleHost, if_neg huser]

/-- Behind an opening that names the server nothing more is cut off. -/
theorem splitHost_of_named (h : Opens openings cs taken rest) (huser : taken ≠ "git@".toList)
    (hscheme : endsWithScheme taken = false) : splitHost cs = (normalizeHost taken, rest) := by
  have hopen := closesServer_of_not_scheme huser hscheme
  rw [splitHost_eq h, takeThrough_of_not_mem fun c _ => hopen c, settleHost, if_neg huser]

/-- Behind a user name the server is cut off at the next colon. -/
theorem splitHost_of_user (h : Opens openings cs "git@".toList (server ++ ':' :: rest))
    (hcolon : ':' ∉ server) (hslash : '/' ∉ server) :
    splitHost cs = ("git@".toList ++ server ++ [':'], rest) := by
  have hplain : ∀ d ∈ server, closesServer "git@".toList d = false := by
    intro d hd
    have hneither : d ≠ ':' ∧ d ≠ '/' := by
      constructor
      · rintro rfl
        exact hcolon hd
      · rintro rfl
        exact hslash hd
    rw [closesServer, if_pos rfl]
    simp [hneither]
  rw [splitHost_eq h, takeThrough_append_cons hplain rfl, settleHost, if_pos rfl]

/-- The best known host is found neither across the front nor across the end of a server. -/
theorem not_known_of_server {front : List Char} {d : Char} (hd : d ∉ knownName)
    (hfront : ¬ knownName <:+: front) (hserver : ¬ knownName <:+: server) :
    ¬ knownName <:+: front ++ d :: (server ++ ['/']) := by
  intro hoccurs
  rcases Text.infix_of_infix_append_cons hd hoccurs with hleft | hright
  · exact hfront hleft
  · rcases Text.infix_of_infix_append_cons (by decide) hright with hleft | hnil
    · exact hserver hleft
    · exact absurd hnil (by decide)

end Split

end Remote

namespace Url

/-- A port as it stands behind the name of a server, if there is one. -/
inductive WrittenPort : List Char → Prop
  | none : WrittenPort []
  | digits {digits : List Char} (hne : digits ≠ []) (h : ∀ d ∈ digits, Text.isDigit d = true) :
      WrittenPort (':' :: digits)

/-- The server that a clone URL names, as it is written there: behind the user, or else the host of
the authority. -/
def writtenServer (url : List Char) : List Char :=
  match Text.dropPrefix? "git@".toList url with
  | some rest => rest.takeWhile fun c => !(c == ':' || c == '/')
  | none =>
    match Text.splitFirst? "://".toList url with
    | some (_, rest) =>
      (splitHost false (withoutUser (rest.takeWhile fun c => !endsAuthority .web c)).1).1
    | none => []

open Remote (knownName)

variable {name port : List Char}

theorem WrittenPort.not_mem (h : WrittenPort port) {d : Char} (hd : Text.isDigit d = false)
    (hcolon : d ≠ ':') : d ∉ port := by
  cases h with
  | none => exact List.not_mem_nil
  | @digits digits _ hdigits =>
    intro hmem
    rcases List.mem_cons.1 hmem with rfl | hmem
    · exact hcolon rfl
    · rw [hdigits d hmem] at hd
      cases hd

theorem writtenServer_web (hname : ∀ c ∈ name, isNameChar c = true) (hport : WrittenPort port)
    (more : List Char) :
    writtenServer ("https://".toList ++ (name ++ port) ++ '/' :: more) = name := by
  have huser : Text.dropPrefix? "git@".toList ("https://".toList ++ (name ++ port) ++ '/' :: more) =
      none := rfl
  have hcut : Text.splitFirst? "://".toList ("https".toList ++ "://".toList ++
      (name ++ port ++ '/' :: more)) = some ("https".toList, name ++ port ++ '/' :: more) :=
    Text.splitFirst?_append_pattern (by decide) _
  have hends : ∀ c ∈ name ++ port, endsAuthority .web c = false := by
    refine List.forall_mem_append.2 ⟨fun c hc => endsAuthority_of_isNameChar (hname c hc), ?_⟩
    intro c hc
    have hother : ∀ d, Text.isDigit d = false → d ≠ ':' → c ≠ d := by
      rintro d hd hcolon rfl
      exact hport.not_mem hd hcolon hc
    simp [endsAuthority, hother '/' (by decide) (by decide), hother '?' (by decide) (by decide),
      hother '#' (by decide) (by decide), hother '\\' (by decide) (by decide)]
  have hauthority := takeWhile_authority hends more
  have hat : '@' ∉ name ++ port := by
    rw [List.mem_append, not_or]
    exact ⟨not_mem_of_isNameChar hname (by decide), hport.not_mem (by decide) (by decide)⟩
  have hserver : (withoutUser (name ++ port)).1 = name ++ port := withoutUser_append hat (.inl rfl)
  have hcolon : port = [] ∨ port.head? = some ':' := by
    cases hport with
    | none => exact .inl rfl
    | digits => exact .inr rfl
  have hhttps : "https://".toList ++ (name ++ port) ++ '/' :: more =
      "https".toList ++ "://".toList ++ (name ++ port ++ '/' :: more) := by simp
  rw [writtenServer, huser, hhttps, hcut]
  dsimp only
  rw [hauthority, hserver, splitHost_append hname hcolon]

/-- The normal forms of the best known host name it. -/
theorem writtenServer_known {host : List Char}
    (h : host = "git@github.com:".toList ∨ host = "https://github.com/".toList) (more : List Char) :
    writtenServer (host ++ more) = knownName := by
  rcases h with rfl | rfl
  · rfl
  · have hname : ∀ c ∈ knownName, isNameChar c = true := List.all_eq_true.1 (by decide)
    have hhost : "https://github.com/".toList = "https://".toList ++ (knownName ++ []) ++ ['/'] := by
      decide +kernel
    rw [hhost, List.append_assoc, List.singleton_append, writtenServer_web hname .none]

end Url

namespace RemoteRef

open Remote Url

variable {name port owner repository : List Char}

/-- The scheme is taken off, and the openings behind it are looked for in the rest. -/
theorem opens_https {text taken rest : List Char} (htext : text ≠ [])
    (h : Opens (openings.drop 3) text taken rest) :
    Opens openings ("https://".toList ++ text) ("https://".toList ++ taken) rest := by
  have htaken := Opens.take_head htext "https://".toList [] h
  exact htaken.skip_heads (["git::", "ssh://"].map String.toList) (by decide)

theorem tail_of_drop {n : Nat} (hn : 1 ≤ n) : ∀ opening ∈ openings.drop n, opening ∈ openings.tail := by
  intro opening hopening
  have hsuffix : openings.drop n <:+ openings.tail := by
    rw [← List.drop_one]
    exact List.drop_suffix_drop_left _ hn
  exact hsuffix.subset hopening

/-- A server other than the best known host is cut off whole, with its port. -/
theorem splitHost_https (hname : ∀ c ∈ name, isNameChar c = true) (hport : WrittenPort port)
    (hother : Text.lower name ≠ knownName) (rest : List Char) :
    splitHost ("https://".toList ++ (name ++ port ++ '/' :: rest)) =
      (normalizeHost ("https://".toList ++ (name ++ port) ++ ['/']), rest) := by
  have hopens : Opens (openings.drop 3) (name ++ port ++ '/' :: rest) [] (name ++ port ++ '/' :: rest) := by
    cases hport with
    | none =>
      rw [List.append_nil]
      exact opens_server hname hother (tail_of_drop (by decide)) (.inl rfl)
    | @digits digits hne hdigits =>
      have hslashes : ¬ "//".toList <+: digits ++ '/' :: rest := by
        cases digits with
        | nil => exact absurd rfl hne
        | cons d digits =>
          intro hbegins
          obtain ⟨rfl, -⟩ := List.cons_prefix_cons.1 hbegins
          exact absurd (hdigits '/' (List.mem_cons_self ..)) (by decide)
      rw [List.append_assoc, List.cons_append]
      exact opens_server hname hother (tail_of_drop (by decide)) (.inr ⟨rfl, hslashes⟩)
  have hslash : '/' ∉ name ++ port := by
    rw [List.mem_append, not_or]
    exact ⟨not_mem_of_isNameChar hname (by decide), hport.not_mem (by decide) (by decide)⟩
  have hhttps := opens_https (by simp) hopens
  rw [List.append_nil] at hhttps
  exact splitHost_of_scheme hhttps (by decide) (by decide) hslash

/-- A host part without the best known host in it is kept as it is. -/
theorem normalizeHost_server {front server : List Char}
    (hfront : front ∈ ["https://".toList, "http://".toList, "ssh://git@".toList])
    (hserver : ¬ knownName <:+: Text.lower server) :
    normalizeHost (front ++ server ++ ['/']) = front ++ server ++ ['/'] := by
  have hfacts : ∀ front ∈ ["https://".toList, "http://".toList, "ssh://git@".toList],
      Text.lower front = front ∧ front = front.dropLast ++ [front.getLast?.getD '/'] ∧
        front.getLast?.getD '/' ∉ knownName ∧ ¬ knownName <:+: front.dropLast ∧
          ¬ "git::".toList <+: front ∧ ¬ front <+: "git::".toList := by decide +kernel
  obtain ⟨hlower, hlast, hd, hbefore, hwrapper, hwrapper'⟩ := hfacts front hfront
  have hhost : Text.lower (front ++ server ++ ['/']) = front ++ (Text.lower server ++ ['/']) := by
    rw [Text.lower_append, Text.lower_append, hlower, List.append_assoc]
    rfl
  refine normalizeHost_of_plain ?_ ?_
  · rw [Text.occurs_eq_false_iff, hhost, hlast, List.append_assoc]
    exact not_known_of_server hd hbefore hserver
  · rw [hhost]
    exact fun hbegins => (List.prefix_or_prefix_of_prefix hbegins (List.prefix_append ..)).elim
      hwrapper hwrapper'

theorem not_mem_lower_digits {digits : List Char} (hdigits : ∀ d ∈ digits, Text.isDigit d = true) :
    'g' ∉ Text.lower digits := by
  intro hletter
  obtain ⟨d, hd, hlower⟩ := List.mem_map.1 hletter
  have hdigit := isDigit_iff.1 (hdigits d hd)
  have hcode := congrArg Char.toNat hlower
  rw [Text.toNat_toLower] at hcode
  have hg : 'g'.toNat = 103 := rfl
  split at hcode <;> omega

theorem lower_digits_ne {digits : List Char} (hdigits : ∀ d ∈ digits, Text.isDigit d = true) :
    Text.lower digits ≠ knownName := by
  intro hknown
  have hletter := not_mem_lower_digits hdigits
  rw [hknown] at hletter
  exact hletter (by decide)

/-- The best known host does not reach into a port. -/
theorem not_known_append_port (hport : WrittenPort port) (h : ¬ knownName <:+: Text.lower name) :
    ¬ knownName <:+: Text.lower (name ++ port) := by
  rw [Text.lower_append]
  cases hport with
  | none => rwa [Text.lower_nil, List.append_nil]
  | digits _ hdigits =>
    intro hoccurs
    have hcolon : ':' ∉ knownName := by decide
    rcases Text.infix_of_infix_append_cons hcolon hoccurs with hleft | hright
    · exact h hleft
    · exact not_mem_lower_digits hdigits (hright.subset (by decide))

/-- The best known host is taken off, and the rest begins with the owner. -/
theorem splitHost_known (hknown : Text.lower name = knownName) (howner : Segment owner)
    (hrepository : Segment repository) :
    splitHost ("https://".toList ++ (name ++ '/' :: (owner ++ '/' :: repository))) =
      ("https://github.com/".toList, owner ++ '/' :: repository) := by
  have hmore : repository.head? ≠ some '/' := by
    rw [← List.append_nil repository]
    exact hrepository.head?_append_ne []
  have hfile : Opens ["file://".toList] (owner ++ '/' :: repository) [] (owner ++ '/' :: repository) :=
    opens_owner howner.slash hmore (by simp)
  have hskipped : ∀ opening ∈ ["http://", "git@", "github.com:"].map String.toList,
      ¬ Text.lower opening <+: knownName ++ ['/'] ∧ ¬ knownName ++ ['/'] <+: Text.lower opening := by
    decide
  have hopens := opens_https (by simp) (opens_known hknown rfl (by simp) hskipped hfile)
  rw [List.append_nil] at hopens
  exact splitHost_of_named hopens (by decide) (by decide)

/-- Of the best known host with a port the name is taken off with the colon, so the rest begins with
the port. -/
theorem splitHost_known_port (hknown : Text.lower name = knownName) {digits : List Char}
    (hdigits : ∀ d ∈ digits, Text.isDigit d = true) (howner : Segment owner)
    (repository : List Char) :
    splitHost ("https://".toList ++ (name ++ ':' :: (digits ++ '/' :: (owner ++ '/' :: repository)))) =
      ("https://github.com/".toList, digits ++ '/' :: (owner ++ '/' :: repository)) := by
  have hslash : '/' ∉ digits := fun hmem => absurd (hdigits '/' hmem) (by decide)
  have hmore := howner.head?_append_ne ('/' :: repository)
  have hrest : Opens ["github.com/".toList, "file://".toList]
      (digits ++ '/' :: (owner ++ '/' :: repository)) []
      (digits ++ '/' :: (owner ++ '/' :: repository)) :=
    opens_owner hslash hmore (by simp [lower_digits_ne hdigits])
  have hskipped : ∀ opening ∈ ["http://", "git@"].map String.toList,
      ¬ Text.lower opening <+: knownName ++ [':'] ∧ ¬ knownName ++ [':'] <+: Text.lower opening := by
    decide
  have hopens := opens_https (by simp) (opens_known hknown rfl (by simp) hskipped hrest)
  rw [List.append_nil] at hopens
  exact splitHost_of_named hopens (by decide) (by decide)

/-- A host part with the best known host in it becomes one of its normal forms. -/
theorem normalizeHost_of_infix (h : knownName <:+: Text.lower name) (port : List Char) :
    normalizeHost ("https://".toList ++ (name ++ port) ++ ['/']) = "git@github.com:".toList ∨
      normalizeHost ("https://".toList ++ (name ++ port) ++ ['/']) = "https://github.com/".toList := by
  rcases normalizeHost_cases ("https://".toList ++ (name ++ port) ++ ['/']) with
    huser | hweb | ⟨hnot, -⟩
  · exact .inl huser
  · exact .inr hweb
  · refine absurd ?_ (Text.occurs_eq_false_iff.1 hnot)
    rw [Text.lower_append, Text.lower_append, Text.lower_append]
    exact h.trans ⟨Text.lower "https://".toList, Text.lower port ++ Text.lower ['/'], by simp⟩

theorem normalForm_ne {host : List Char}
    (h : host = "git@github.com:".toList ∨ host = "https://github.com/".toList) :
    host ≠ [] ∧ host ≠ fileHost := by
  rcases h with rfl | rfl <;> decide

theorem segment_digits {digits : List Char} (hne : digits ≠ [])
    (hdigits : ∀ d ∈ digits, Text.isDigit d = true) : Segment digits := by
  refine ⟨hne, fun hmem => ?_, fun hmem => ?_, fun hends => ?_⟩
  · exact absurd (hdigits _ hmem) (by decide)
  · exact absurd (hdigits _ hmem) (by decide)
  · have hdot : '.' ∈ digits := hends.subset (by decide)
    exact absurd (hdigits _ hdot) (by decide)

theorem written_flat (owner repository : List Char) :
    written owner repository false 0 [] = owner ++ '/' :: repository := by
  simp [written, trail]

/-- The top of a repository on a server, whose name is the one that the clone URL names. -/
structure TopOn (name owner repository : String) (a : RemoteRef) : Prop where
  repository : a.repository = owner ++ "/" ++ repository
  path : a.path = ""
  server : Text.lower (writtenServer a.cloneUrl.toList) = Text.lower name.toList

section Kept

variable {text name port owner repository : String} {host : List Char}

/-- Where the repository is cut whole, the server is kept if the host part names it. -/
theorem topOn_iff_of_split (hlocal : ∃ c cs, text.toList = c :: cs ∧ c ≠ '/')
    (hsplit : Remote.splitHost text.toList = (host, owner.toList ++ '/' :: repository.toList))
    (hhost : host ≠ []) (hfile : host ≠ fileHost) (howner : Segment owner.toList)
    (hrepository : Segment repository.toList) :
    (∃ a, parse? text = some a ∧ TopOn name owner repository a) ↔
      Text.lower (writtenServer (host ++ (owner.toList ++ '/' :: repository.toList))) =
        Text.lower name.toList := by
  have hpath : ∀ segment ∈ ([] : List (List Char)), Segment segment := by simp
  rw [← written_flat] at hsplit
  obtain ⟨a, ha, -, hwhole, htop, hurl⟩ :=
    parse?_written hlocal hsplit hhost hfile howner hrepository hpath
  rw [if_neg Bool.false_ne_true, List.append_nil] at hurl
  rw [← hurl]
  constructor
  · rintro ⟨b, hb, hon⟩
    obtain rfl : a = b := Option.some.inj (ha.symm.trans hb)
    exact hon.server
  · refine fun hserver => ⟨a, ha, String.toList_inj.1 ?_, String.toList_inj.1 htop, hserver⟩
    rw [hwhole]
    simp

/-- A port of the best known host is taken for the owner, and the repository for the path. -/
theorem not_topOn_of_port (hlocal : ∃ c cs, text.toList = c :: cs ∧ c ≠ '/') {digits : List Char}
    (hsplit : Remote.splitHost text.toList = ("https://github.com/".toList,
      digits ++ '/' :: (owner.toList ++ '/' :: repository.toList)))
    (hdigits : Segment digits) (howner : Segment owner.toList)
    (hrepository : Segment repository.toList) :
    ¬ ∃ a, parse? text = some a ∧ TopOn name owner repository a := by
  have hwritten : digits ++ '/' :: (owner.toList ++ '/' :: repository.toList) =
      written digits owner.toList false 0 [repository.toList] := by simp [written, trail]
  rw [hwritten] at hsplit
  obtain ⟨a, ha, -, -, hpath, -⟩ := parse?_written hlocal hsplit (by decide) (by decide)
    hdigits howner (by simpa using hrepository)
  rintro ⟨b, hb, hon⟩
  obtain rfl : a = b := Option.some.inj (ha.symm.trans hb)
  rw [hon.path] at hpath
  exact hrepository.ne_nil (by simpa [trail] using hpath.symm)

/-- A reference keeps the server that it names exactly if the name of the best known host is not in
it, or is all of it and no port follows. Else the best known host takes its place, or the port is
taken for the owner. -/
theorem topOn_iff (hname : ServerName name.toList) (hport : WrittenPort port.toList)
    (howner : Segment owner.toList) (hrepository : Segment repository.toList) :
    (∃ a, parse? ("https://" ++ name ++ port ++ "/" ++ owner ++ "/" ++ repository) = some a ∧
        TopOn name owner repository a) ↔
      ¬ knownName <:+: Text.lower name.toList ∨ Text.lower name.toList = knownName ∧ port = "" := by
  have htext : ("https://" ++ name ++ port ++ "/" ++ owner ++ "/" ++ repository).toList =
      "https://".toList ++ (name.toList ++ port.toList ++
        '/' :: (owner.toList ++ '/' :: repository.toList)) := by simp
  generalize "https://" ++ name ++ port ++ "/" ++ owner ++ "/" ++ repository = text at htext ⊢
  have hlocal : ∃ c cs, text.toList = c :: cs ∧ c ≠ '/' := by
    rw [htext]
    exact ⟨_, _, rfl, by decide⟩
  by_cases hknown : Text.lower name.toList = knownName
  · -- The name is consumed as an opening, with the colon before a port.
    have hinside : knownName <:+: Text.lower name.toList := hknown ▸ List.infix_rfl
    generalize hwritten : port.toList = written at hport htext
    cases hport with
    | none =>
      have hempty : port = "" := String.toList_inj.1 hwritten
      have hsplit := splitHost_known hknown howner hrepository
      rw [List.append_nil] at htext
      rw [← htext] at hsplit
      rw [topOn_iff_of_split hlocal hsplit (by decide) (by decide) howner hrepository,
        writtenServer_known (.inr rfl), hknown]
      exact iff_of_true (by decide) (.inr ⟨rfl, hempty⟩)
    | @digits digits hne hdigits =>
      have hfull : port ≠ "" := by
        rintro rfl
        cases hwritten
      have hsplit := splitHost_known_port hknown hdigits howner repository.toList
      rw [List.append_assoc, List.cons_append] at htext
      rw [← htext] at hsplit
      exact iff_of_false
        (not_topOn_of_port hlocal hsplit (segment_digits hne hdigits) howner hrepository)
        (by simp [hinside, hfull])
  · have hsplit := splitHost_https hname.nameChar hport hknown (owner.toList ++ '/' :: repository.toList)
    rw [← htext] at hsplit
    by_cases hinside : knownName <:+: Text.lower name.toList
    · -- The best known host takes the place of the server.
      have hbest := normalizeHost_of_infix hinside port.toList
      have hnot : ¬ (¬ knownName <:+: Text.lower name.toList ∨
          Text.lower name.toList = knownName ∧ port = "") := by simp [hinside, hknown]
      have hne := normalForm_ne hbest
      rw [topOn_iff_of_split hlocal hsplit hne.1 hne.2 howner hrepository, writtenServer_known hbest]
      exact iff_of_false (Ne.symm hknown) hnot
    · have hplain := not_known_append_port hport hinside
      rw [normalizeHost_server (by decide) hplain] at hsplit
      have hfile : "https://".toList ++ (name.toList ++ port.toList) ++ ['/'] ≠ fileHost := by
        intro heq
        exact absurd (List.cons.inj heq).1 (by decide)
      rw [topOn_iff_of_split hlocal hsplit (by simp) hfile howner hrepository, List.append_assoc,
        List.singleton_append, writtenServer_web hname.nameChar hport]
      exact iff_of_true rfl (.inl hinside)

/-- A server with a port. -/
theorem Sample.server_kept :
    ∃ a, parse? ("https://" ++ "git.example.com" ++ ":8443" ++ "/" ++ "org" ++ "/" ++ "repo") = some a ∧
      TopOn "git.example.com" "org" "repo" a := by
  have hname : ServerName "git.example.com".toList := by decide +kernel
  have hport : WrittenPort ":8443".toList := .digits (by decide) (List.all_eq_true.1 (by decide))
  have howner : Segment "org".toList := by decide +kernel
  have hrepository : Segment "repo".toList := by decide +kernel
  exact (topOn_iff hname hport howner hrepository).2 (.inl (by decide +kernel))

/-- A server with the name of the best known host in it is another one in the clone URL, and a port
of the best known host is part of the repository. -/
theorem Sample.server_replaced :
    ServerName "github.company.com".toList ∧
      (∃ a, parse? "https://github.company.com/org/repo" = some a ∧
        a.cloneUrl = "https://github.com/org/repo" ∧ ¬ TopOn "github.company.com" "org" "repo" a) ∧
      ∃ a, parse? "https://github.com:8443/org/repo" = some a ∧
        a.cloneUrl = "https://github.com/8443/org" ∧ ¬ TopOn "github.com" "org" "repo" a := by
  let company : RemoteRef := ⟨"https://github.company.com/org/repo", "https://github.com/", "org/repo",
    "", none, false⟩
  let port : RemoteRef := ⟨"https://github.com:8443/org/repo", "https://github.com/", "8443/org",
    "repo", none, false⟩
  refine ⟨?_, ⟨company, ?_, ?_, fun hon => ?_⟩, port, ?_, ?_, fun hon => ?_⟩
  · decide +kernel
  · decide +kernel
  · decide +kernel
  · have hother : Text.lower (writtenServer company.cloneUrl.toList) ≠
        Text.lower "github.company.com".toList := by decide +kernel
    exact hother hon.server
  · decide +kernel
  · decide +kernel
  · exact absurd hon.path (by decide +kernel)

end Kept

end RemoteRef

end OverlayChain
