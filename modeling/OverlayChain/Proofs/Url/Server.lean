import Mathlib.Data.List.Basic
import OverlayChain.Proofs.Text.Utf8
import OverlayChain.Url.Basic

/-!
# Names of servers

A server is named by labels of letters, digits and hyphens. A URL of the web shows such a name in
lower case, unless a label is in the ASCII form of another one, which is read and written anew. A URL
of another kind shows the name as it is written.

## Main definitions

- `Url.ServerName`: labels with dots between them, none of them an address.
- `Url.ShownAsWritten`: a name that is shown as it is written, but for its case.

## Main statements

- `Url.parse?_web`, `Url.parse?_shell`: the servers that URLs name.
- `Url.ServerName.shownAsWritten`: a plain name is shown as it is written.
-/

namespace OverlayChain

namespace Url

section Characters

variable {c d : Char}

/-- A character of a label. -/
def isLabelChar (c : Char) : Bool := Text.isLetter c || Text.isDigit c || c == '-'

/-- A character of the name of a server. -/
def isNameChar (c : Char) : Bool := isLabelChar c || c == '.'

theorem isLetter_iff : Text.isLetter c = true ↔
    (97 ≤ c.toNat ∧ c.toNat ≤ 122) ∨ (65 ≤ c.toNat ∧ c.toNat ≤ 90) := by
  have hval : c.val.toNat = c.toNat := rfl
  simp [Text.isLetter, Text.isLowerLetter, Char.le_def, UInt32.le_iff_toNat_le, hval]

theorem isDigit_iff : Text.isDigit c = true ↔ 48 ≤ c.toNat ∧ c.toNat ≤ 57 := by
  have hval : c.val.toNat = c.toNat := rfl
  simp [Text.isDigit, Char.le_def, UInt32.le_iff_toNat_le, hval]

theorem isLabelChar_iff : isLabelChar c = true ↔ (97 ≤ c.toNat ∧ c.toNat ≤ 122) ∨
    (65 ≤ c.toNat ∧ c.toNat ≤ 90) ∨ (48 ≤ c.toNat ∧ c.toNat ≤ 57) ∨ c.toNat = 45 := by
  have hhyphen : c = '-' ↔ c.toNat = 45 := by rw [← Char.toNat_inj]; rfl
  simp only [isLabelChar, Bool.or_eq_true, isLetter_iff, isDigit_iff, beq_iff_eq, hhyphen]
  omega

theorem isNameChar_iff : isNameChar c = true ↔ isLabelChar c = true ∨ c.toNat = 46 := by
  have hdot : c = '.' ↔ c.toNat = 46 := by rw [← Char.toNat_inj]; rfl
  simp only [isNameChar, Bool.or_eq_true, beq_iff_eq, hdot]

theorem isLabelChar_toLower (h : isLabelChar c = true) : isLabelChar c.toLower = true := by
  rw [isLabelChar_iff, Text.toNat_toLower]
  rw [isLabelChar_iff] at h
  split <;> omega

theorem isLetter_toLower {c : Char} (h : Text.isLetter c = true) : Text.isLetter c.toLower = true := by
  rw [isLetter_iff, Text.toNat_toLower]
  rw [isLetter_iff] at h
  split <;> omega

theorem ne_of_isNameChar (hc : isNameChar c = true) (hd : isNameChar d = false) : c ≠ d := by
  rintro rfl
  rw [hc] at hd
  cases hd

theorem not_mem_of_isNameChar {cs : List Char} {d : Char} (h : ∀ c ∈ cs, isNameChar c = true)
    (hd : isNameChar d = false) : d ∉ cs :=
  fun hmem => ne_of_isNameChar (h d hmem) hd rfl

end Characters

section Names

variable {name : List Char}

/-- The name of a server: labels of letters, digits and hyphens with dots between them. The last one
begins with a letter, so that the name is no address. -/
structure ServerName (name : List Char) : Prop where
  label_ne : ∀ label ∈ name.splitOn '.', label ≠ []
  label_plain : ∀ label ∈ name.splitOn '.', ∀ c ∈ label, isLabelChar c = true
  last : (name.splitOn '.').getLast?.any (fun label => label.head?.any Text.isLetter) = true

theorem serverName_iff : ServerName name ↔
    ((name.splitOn '.').all (fun label => label != [] && label.all isLabelChar) &&
      (name.splitOn '.').getLast?.any (fun label => label.head?.any Text.isLetter)) = true := by
  simp only [Bool.and_eq_true, List.all_eq_true, bne_iff_ne]
  constructor
  · intro h
    exact ⟨fun label hlabel => ⟨h.label_ne label hlabel, h.label_plain label hlabel⟩, h.last⟩
  · rintro ⟨hlabels, hlast⟩
    exact ⟨fun label hlabel => (hlabels label hlabel).1,
      fun label hlabel => (hlabels label hlabel).2, hlast⟩

instance : Decidable (ServerName name) := decidable_of_iff' _ serverName_iff

theorem ServerName.nameChar (h : ServerName name) : ∀ c ∈ name, isNameChar c = true := by
  intro c hc
  rcases Text.eq_or_of_splitOn h.label_plain hc with rfl | hlabel
  · rfl
  · exact isNameChar_iff.2 (.inl hlabel)

theorem ServerName.ne_nil (h : ServerName name) : name ≠ [] := by
  rintro rfl
  exact h.label_ne [] (by simp [List.splitOn_nil]) rfl

theorem ServerName.lower (h : ServerName name) : ServerName (Text.lower name) := by
  have hsplit : (Text.lower name).splitOn '.' = (name.splitOn '.').map Text.lower :=
    Text.splitOn_lower (by decide) name
  refine ⟨fun label hlabel => ?_, fun label hlabel c hc => ?_, ?_⟩
  · rw [hsplit] at hlabel
    obtain ⟨label', hlabel', rfl⟩ := List.mem_map.1 hlabel
    simpa [Text.lower] using h.label_ne label' hlabel'
  · rw [hsplit] at hlabel
    obtain ⟨label', hlabel', rfl⟩ := List.mem_map.1 hlabel
    obtain ⟨c', hc', rfl⟩ := List.mem_map.1 hc
    exact isLabelChar_toLower (h.label_plain label' hlabel' c' hc')
  · have hlast := h.last
    rw [hsplit, List.getLast?_map]
    cases hlabel : (name.splitOn '.').getLast? with
    | none => simp [hlabel] at hlast
    | some label =>
      rw [hlabel] at hlast
      cases label with
      | nil => simp at hlast
      | cons c label => exact isLetter_toLower hlast

theorem not_isDigit_of_isLetter {c : Char} (h : Text.isLetter c = true) : Text.isDigit c = false := by
  rw [Bool.eq_false_iff]
  intro hdigit
  rw [isDigit_iff] at hdigit
  rw [isLetter_iff] at h
  omega

theorem numberIn?_of_isLetter {c : Char} (h : Text.isLetter c = true) (cs : List Char) :
    numberIn? 10 (c :: cs) = none := by
  rw [numberIn?, List.foldl_cons]
  have hletter := isLetter_iff.1 h
  have hvalue : ∀ d, Text.hexValue? c = some d → ¬ d < 10 := by
    intro d hd
    rw [Text.hexValue?, not_isDigit_of_isLetter h, if_neg Bool.false_ne_true] at hd
    split at hd
    · cases hd
      omega
    · split at hd
      · cases hd
        omega
      · cases hd
  cases hhex : Text.hexValue? c with
  | none => exact List.foldl_fixed' (fun _ => rfl) cs
  | some d =>
    dsimp only
    rw [if_neg (hvalue d hhex)]
    exact List.foldl_fixed' (fun _ => rfl) cs

/-- The last label does not begin with a digit. -/
theorem ServerName.endsInNumber (h : ServerName name) : endsInNumber name = false := by
  have hlast := h.last
  cases hlabel : (name.splitOn '.').getLast? with
  | none => simp [hlabel] at hlast
  | some label =>
    rw [hlabel] at hlast
    cases label with
    | nil => simp at hlast
    | cons c label =>
      have hc : Text.isLetter c = true := hlast
      have hparts : (hostParts name).getLast? = some (c :: label) := by
        rw [hostParts, hlabel]
        exact hlabel
      have hzero : c ≠ '0' := by
        rintro rfl
        cases hc
      have hnumber : ipv4Number? (c :: label) = none := by
        rw [← numberIn?_of_isLetter hc label, ipv4Number?.eq_def]
        split <;> simp_all
      rw [Url.endsInNumber, hparts]
      simp [hnumber, not_isDigit_of_isLetter hc]

end Names

section Hosts

variable {name : List Char}

theorem percentDecode_of_not_mem {bytes : List UInt8} (h : 0x25 ∉ bytes) :
    percentDecode bytes = bytes := by
  induction bytes with
  | nil => rfl
  | cons byte bytes ih =>
    have hbyte : byte ≠ 0x25 := fun heq => h (heq ▸ List.mem_cons_self ..)
    rw [percentDecode.eq_def]
    split
    · next heq => exact absurd (List.cons.inj heq).1 hbyte
    · next heq =>
      cases heq
      rw [ih fun hmem => h (List.mem_cons_of_mem _ hmem)]
    · next heq => cases heq

/-- A name of a server is written without percent signs. -/
theorem fromUTF8?_percentDecode (h : ∀ c ∈ name, isNameChar c = true) :
    String.fromUTF8? (percentDecode (String.ofList name).toUTF8.toList).toByteArray =
      some (String.ofList name) := by
  have hplain : (0x25 : UInt8) ∉ (String.ofList name).toUTF8.toList := by
    rw [Text.toList_toUTF8]
    show '%'.toUInt8 ∉ Text.bytes name
    rw [Text.mem_bytes_iff (by decide)]
    exact not_mem_of_isNameChar h rfl
  rw [percentDecode_of_not_mem hplain, Text.toByteArray_toList, Text.fromUTF8?_toUTF8]

theorem contains_of_isNameChar {others : List Char} {c : Char} (hc : isNameChar c = true)
    (h : others.any isNameChar = false) : others.contains c = false := by
  rw [List.contains_eq_mem, decide_eq_false_iff_not]
  intro hmem
  exact List.any_eq_false.1 h c hmem hc

theorem any_isForbiddenInDomain (h : ∀ c ∈ name, isNameChar c = true) :
    name.any isForbiddenInDomain = false := by
  rw [List.any_eq_false]
  intro c hc
  have hname := h c hc
  have hlow : ¬ c.toNat ≤ 32 ∧ c.toNat ≠ 127 := by
    rw [isNameChar_iff, isLabelChar_iff] at hname
    omega
  rw [isForbiddenInDomain, contains_of_isNameChar hname (by decide)]
  simp [hlow]

theorem any_isForbiddenInOpaque (h : ∀ c ∈ name, isNameChar c = true) :
    name.any isForbiddenInOpaque = false := by
  rw [List.any_eq_false]
  intro c hc
  rw [isForbiddenInOpaque, contains_of_isNameChar (h c hc) (by decide)]
  exact Bool.false_ne_true

theorem head?_ne_bracket (h : ∀ c ∈ name, isNameChar c = true) : (name.head? == some '[') = false := by
  cases name with
  | nil => rfl
  | cons c name =>
    have hc : c ≠ '[' := ne_of_isNameChar (h c (List.mem_cons_self ..)) (by decide)
    simpa using hc

/-- The host of a URL that is not of the web is shown as it is written. -/
theorem opaqueHost?_of_nameChar (h : ∀ c ∈ name, isNameChar c = true) :
    opaqueHost? name = some name := by
  have hcontrols : percentEncodeControls name = name := by
    rw [percentEncodeControls]
    induction name with
    | nil => rfl
    | cons c name ih =>
      have hshown : (32 ≤ c.toNat && c.toNat < 127) = true := by
        have hc := h c (List.mem_cons_self ..)
        rw [isNameChar_iff, isLabelChar_iff] at hc
        simp only [Bool.and_eq_true, decide_eq_true_eq]
        omega
      rw [List.flatMap_cons, if_pos hshown, ih fun d hd => h d (List.mem_cons_of_mem _ hd)]
      rfl
  rw [opaqueHost?, head?_ne_bracket h, any_isForbiddenInOpaque h, hcontrols]
  rfl

theorem webHost?_of_nameChar (h : ∀ c ∈ name, isNameChar c = true) :
    webHost? name = match domain? name with
      | none => none
      | some [] => none
      | some shown => if endsInNumber shown then ipv4? shown else some shown := by
  have hdomain : domain? (String.ofList name).toList = domain? name := by rw [String.toList_ofList]
  rw [webHost?, head?_ne_bracket h, if_neg Bool.false_ne_true, fromUTF8?_percentDecode h]
  cases hshown : domain? name with
  | none => simp only [hdomain, hshown]
  | some shown => cases shown <;> simp only [hdomain, hshown]

/-- The name of a server on the web is shown as it is written, but for its case. -/
def ShownAsWritten (name : List Char) : Prop :=
  ∀ shown, webHost? name = some shown → shown = Text.lower name

/-- The case of a name does not decide whether a label of it is in ASCII form. -/
theorem isPlain_lower (name : List Char) : isPlain (Text.lower name) = isPlain name := by
  have hascii : (Text.lower name).all isAscii = name.all isAscii := by
    have hsame : isAscii ∘ Char.toLower = isAscii := by
      funext c
      simp only [Function.comp_apply, isAscii, Text.toNat_toLower]
      split
      · simp
        omega
      · simp
    rw [Text.lower, List.all_map, hsame]
  rw [isPlain, isPlain, hascii, Text.lower_lower]

/-- A name without a label in ASCII form is shown as it is written. -/
theorem ServerName.shownAsWritten (h : ServerName name) (hplain : isPlain name = true) :
    ShownAsWritten name := by
  have hdomain : domain? name = some (Text.lower name) := by
    rw [domain?, any_isForbiddenInDomain h.nameChar, if_neg Bool.false_ne_true, if_pos hplain]
  intro shown hshown
  rw [webHost?_of_nameChar h.nameChar, hdomain] at hshown
  cases hlower : Text.lower name with
  | nil => exact absurd hlower h.lower.ne_nil
  | cons c rest =>
    have hnumber := h.lower.endsInNumber
    rw [hlower] at hshown hnumber
    dsimp only at hshown
    rw [hnumber, if_neg Bool.false_ne_true] at hshown
    exact (Option.some.inj hshown).symm

end Hosts

section Reading

variable {front name more : List Char}

/-- What begins without a blank keeps its beginning. -/
theorem exists_trimmed_append (hne : front ≠ []) (h : front.all (fun c => 32 < c.toNat) = true)
    (more : List Char) : ∃ more', trimmed (front ++ more) = front ++ more' := by
  have hcodes : ∀ c ∈ front, 32 < c.toNat := fun c hc => of_decide_eq_true (List.all_eq_true.1 h c hc)
  have hkept : ∀ c ∈ front, decide (c.toNat ≤ 32) = false := fun c hc =>
    decide_eq_false (Nat.not_le_of_lt (hcodes c hc))
  have hends : Text.dropEnds (fun c => c.toNat ≤ 32) (front ++ more) =
      front ++ Text.dropEndWhile (fun c => c.toNat ≤ 32) more := by
    cases front with
    | nil => exact absurd rfl hne
    | cons c front =>
      have hfront := Text.dropEndWhile_append_of_forall
        (fun d hd => hkept d (List.mem_cons_of_mem _ hd)) more
      rw [List.cons_append, Text.dropEnds_cons (hkept c (List.mem_cons_self ..)), hfront,
        List.cons_append]
  have hfilter : front.filter (fun c => c != '\t' && c != '\n' && c != '\r') = front := by
    rw [List.filter_eq_self]
    intro c hc
    have hcode := hcodes c hc
    have hother : ∀ d : Char, d.toNat ≤ 32 → c ≠ d := by
      rintro d hd rfl
      omega
    simp [hother '\t' (by decide), hother '\n' (by decide), hother '\r' (by decide)]
  rw [trimmed, hends, List.filter_append, hfilter]
  exact ⟨_, rfl⟩

theorem exists_trimmed_server {opening : List Char}
    (hopening : opening.all (fun c => 32 < c.toNat) = true)
    (h : ∀ c ∈ name, isNameChar c = true) (more : List Char) :
    ∃ more', trimmed (opening ++ (name ++ '/' :: more)) = opening ++ (name ++ '/' :: more') := by
  have hname : name.all (fun c => 32 < c.toNat) = true := by
    rw [List.all_eq_true]
    intro c hc
    have hchar := h c hc
    rw [isNameChar_iff, isLabelChar_iff] at hchar
    rw [decide_eq_true_eq]
    omega
  have hfront : (opening ++ (name ++ ['/'])).all (fun c => 32 < c.toNat) = true := by
    rw [List.all_append, List.all_append, hopening, hname]
    rfl
  obtain ⟨more', hmore⟩ := exists_trimmed_append (by simp) hfront more
  exact ⟨more', by simpa using hmore⟩

/-- A user name is not a scheme. -/
theorem parse?_user (cs : List Char) : parse? ("git@".toList ++ cs) = none := by
  obtain ⟨more, hmore⟩ : ∃ more, trimmed ("git@".toList ++ cs) = "git@".toList ++ more :=
    exists_trimmed_append (by decide) (by decide) cs
  have hscheme : scheme? ("git@".toList ++ more) = none := by
    have hcut : Text.splitFirst? [':'] ("git@".toList ++ more) =
        (Text.splitFirst? [':'] more).map fun cut => ("git@".toList ++ cut.1, cut.2) :=
      Text.splitFirst?_append_of_not_mem (by decide) more
    rw [scheme?, hcut]
    cases Text.splitFirst? [':'] more with
    | none => rfl
    | some cut => rfl
  rw [parse?, hmore, hscheme]
  rfl

/-- The name of a server ends at the colon before a port. -/
theorem splitHost_append (h : ∀ c ∈ name, isNameChar c = true) {port : List Char}
    (hport : port = [] ∨ port.head? = some ':') : splitHost false (name ++ port) = (name, port) := by
  induction name with
  | nil =>
    cases port with
    | nil => rfl
    | cons c port =>
      obtain rfl : c = ':' := by simpa using hport
      rfl
  | cons c name ih =>
    have hc := h c (List.mem_cons_self ..)
    have hcolon : c ≠ ':' := ne_of_isNameChar hc (by decide)
    have hbracket : c ≠ '[' := ne_of_isNameChar hc (by decide)
    have hinner := ih fun d hd => h d (List.mem_cons_of_mem _ hd)
    rw [List.cons_append, splitHost]
    simp [hcolon, hbracket, hinner]

/-- What stands before the last `@` is the user. -/
theorem withoutUser_append (h : '@' ∉ name) {user : List Char}
    (huser : user = [] ∨ user.getLast? = some '@') :
    (withoutUser (user ++ name)).1 = name := Text.afterLast_append h huser

/-- The host of an authority that ends with the name of a server. -/
theorem hostOfAuthority?_of_server {kind : Kind} {authority rest : List Char}
    (h : ∀ c ∈ name, isNameChar c = true) (hne : name ≠ [])
    (hserver : (withoutUser authority).1 = name) :
    hostOfAuthority? kind authority rest =
      match kind with
      | .web => (webHost? name).map some
      | _ => (opaqueHost? name).map some := by
  have hsplit : splitHost false name = (name, []) := by
    have happend := splitHost_append h (.inl rfl)
    rwa [List.append_nil] at happend
  have hempty : name.isEmpty = false := by simpa using hne
  rw [hostOfAuthority?]
  rcases hwithout : withoutUser authority with ⟨server, named⟩
  obtain rfl : server = name := by
    rw [hwithout] at hserver
    exact hserver
  dsimp only
  rw [hsplit, hempty]
  cases kind <;> simp

/-- The authority of a URL ends at the next slash. -/
theorem takeWhile_authority {kind : Kind} {authority : List Char}
    (h : ∀ c ∈ authority, endsAuthority kind c = false) (more : List Char) :
    (authority ++ '/' :: more).takeWhile (fun c => !endsAuthority kind c) = authority := by
  have hslash : endsAuthority kind '/' = true := rfl
  rw [List.takeWhile_append_of_pos fun c hc => by simp [h c hc],
    List.takeWhile_cons_of_neg (by simp [hslash]), List.append_nil]

theorem endsAuthority_of_isNameChar {kind : Kind} {c : Char} (h : isNameChar c = true) :
    endsAuthority kind c = false := by
  have hslash : c ≠ '/' := ne_of_isNameChar h (by decide)
  have hquestion : c ≠ '?' := ne_of_isNameChar h (by decide)
  have hhash : c ≠ '#' := ne_of_isNameChar h (by decide)
  have hbackslash : c ≠ '\\' := ne_of_isNameChar h (by decide)
  simp [endsAuthority, hslash, hquestion, hhash, hbackslash]

theorem scheme?_of_mem {scheme : List Char}
    (h : scheme ∈ ["https".toList, "http".toList, "ssh".toList]) (more : List Char) :
    scheme? (scheme ++ ':' :: more) = some (scheme, more) := by
  have hfacts : ∀ scheme ∈ ["https".toList, "http".toList, "ssh".toList],
      ':' ∉ scheme ∧ Text.lower scheme = scheme ∧
        ∃ first others, scheme = first :: others ∧
          (Text.isLetter first && others.all isSchemeChar) = true := by
    simp only [List.forall_mem_cons]
    refine ⟨⟨by decide, by decide, _, _, rfl, by decide⟩, ⟨by decide, by decide, _, _, rfl, by decide⟩,
      ⟨by decide, by decide, _, _, rfl, by decide⟩, by simp⟩
  obtain ⟨hcolon, hlower, first, others, rfl, hchars⟩ := hfacts scheme h
  rw [scheme?, Text.splitFirst?_cons_of_not_mem hcolon]
  dsimp only
  rw [if_pos hchars, hlower]

theorem dropWhile_slashes (h : ∀ c ∈ name, isNameChar c = true) (hne : name ≠ []) (more : List Char) :
    ("//".toList ++ name ++ more).dropWhile (fun c => c == '/' || c == '\\') = name ++ more := by
  cases name with
  | nil => exact absurd rfl hne
  | cons c name =>
    have hslash : c ≠ '/' := ne_of_isNameChar (h c (List.mem_cons_self ..)) (by decide)
    have hbackslash : c ≠ '\\' := ne_of_isNameChar (h c (List.mem_cons_self ..)) (by decide)
    have hslashes : "//".toList ++ c :: name ++ more = '/' :: '/' :: c :: (name ++ more) := rfl
    rw [hslashes, List.dropWhile_cons_of_pos rfl, List.dropWhile_cons_of_pos rfl,
      List.dropWhile_cons_of_neg (by simp [hslash, hbackslash])]
    rfl

/-- A URL of the web names the server that its authority shows. -/
theorem parse?_web {scheme : List Char} (hscheme : scheme ∈ ["https".toList, "http".toList])
    (h : ServerName name) (more : List Char) :
    parse? (scheme ++ "://".toList ++ name ++ '/' :: more) =
      (webHost? name).map fun shown => ⟨scheme, some shown⟩ := by
  have hfacts : ∀ scheme ∈ ["https".toList, "http".toList],
      scheme ∈ ["https".toList, "http".toList, "ssh".toList] ∧ Kind.ofScheme scheme = .web ∧
        (scheme ++ "://".toList).all (fun c => 32 < c.toNat) = true := by decide
  obtain ⟨hmem, hkind, hshown⟩ := hfacts scheme hscheme
  have hname := h.nameChar
  obtain ⟨more', htrimmed⟩ := exists_trimmed_server hshown hname more
  have hcolon : ∀ more, scheme ++ "://".toList ++ (name ++ '/' :: more) =
      scheme ++ ':' :: ("//".toList ++ name ++ '/' :: more) := by simp
  have hauthority : (name ++ '/' :: more').takeWhile (fun c => !endsAuthority .web c) = name :=
    takeWhile_authority (fun c hc => endsAuthority_of_isNameChar (hname c hc)) more'
  have hserver : (withoutUser name).1 = name :=
    withoutUser_append (not_mem_of_isNameChar hname (by decide)) (.inl rfl)
  rw [List.append_assoc, parse?, htrimmed, hcolon, scheme?_of_mem hmem]
  simp only [Option.bind_eq_bind, Option.bind_some, hkind, hostAfterScheme?,
    dropWhile_slashes hname h.ne_nil, hauthority,
    hostOfAuthority?_of_server hname h.ne_nil hserver]
  cases webHost? name <;> rfl

/-- A URL with a user names the server behind the user. -/
theorem parse?_shell (h : ServerName name) (more : List Char) :
    parse? ("ssh://git@".toList ++ name ++ '/' :: more) = some ⟨"ssh".toList, some name⟩ := by
  have hname := h.nameChar
  have hshown : "ssh://git@".toList.all (fun c => 32 < c.toNat) = true := by decide
  obtain ⟨more', htrimmed⟩ := exists_trimmed_server hshown hname more
  have hcolon : "ssh://git@".toList ++ (name ++ '/' :: more') =
      "ssh".toList ++ ':' :: '/' :: '/' :: ("git@".toList ++ name ++ '/' :: more') := by simp
  have huser : ∀ c ∈ "git@".toList, endsAuthority .other c = false := by
    simp [endsAuthority]
  have hwhole : ∀ c ∈ "git@".toList ++ name, endsAuthority .other c = false :=
    List.forall_mem_append.2 ⟨huser, fun c hc => endsAuthority_of_isNameChar (hname c hc)⟩
  have hauthority := takeWhile_authority hwhole more'
  have hserver : (withoutUser ("git@".toList ++ name)).1 = name :=
    withoutUser_append (not_mem_of_isNameChar hname (by decide)) (.inr (by decide))
  have hkind : Kind.ofScheme "ssh".toList = .other := by decide
  rw [List.append_assoc, parse?, htrimmed, hcolon, scheme?_of_mem (by decide)]
  simp only [Option.bind_eq_bind, Option.bind_some, hkind, hostAfterScheme?, hauthority,
    hostOfAuthority?_of_server hname h.ne_nil hserver, opaqueHost?_of_nameChar hname]
  rfl

end Reading

end Url

end OverlayChain
