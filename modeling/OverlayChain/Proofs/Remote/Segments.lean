import OverlayChain.Proofs.Remote.Parts

/-!
# Repositories written in segments

Behind the server stand the owner and the name of the repository and the segments of a path inside
it, with separators between them. Segments that hold neither a separator nor a query nor a suffix
are cut where they were put together, however many separators stand before the path.

## Main definitions

- `Remote.Segment`: a text that stands between two separators.
- `Remote.written`: a repository and a path inside it, as they stand behind the server.

## Main statements

- `Remote.splitSuffix?_append_suffix`: a suffix that was put behind a repository is found there.
- `Remote.splitRepository_written`: the cut of what was written.
- `RemoteRef.parse?_written`: what was written behind a host part is read again.
-/

namespace OverlayChain.Remote

/-- A text that stands between two separators and does not end as a repository may. -/
structure Segment (cs : List Char) : Prop where
  ne_nil : cs ≠ []
  slash : '/' ∉ cs
  question : '?' ∉ cs
  plain : ¬ gitSuffix <:+ cs

theorem segment_iff {cs : List Char} :
    Segment cs ↔ cs ≠ [] ∧ '/' ∉ cs ∧ '?' ∉ cs ∧ ¬ gitSuffix <:+ cs :=
  ⟨fun h => ⟨h.ne_nil, h.slash, h.question, h.plain⟩, fun ⟨hne, hslash, hquestion, hplain⟩ =>
    ⟨hne, hslash, hquestion, hplain⟩⟩

instance {cs : List Char} : Decidable (Segment cs) := decidable_of_iff' _ segment_iff

/-- Segments with a separator before each of them. -/
def trail (path : List (List Char)) : List Char := path.flatMap ('/' :: ·)

/-- A repository and a path inside it, as they stand behind the server. -/
def written (owner name : List Char) (suffixed : Bool) (slashes : Nat) (path : List (List Char)) :
    List Char :=
  owner ++ '/' :: name ++ (if suffixed then gitSuffix else []) ++
    (List.replicate slashes '/' ++ trail path)

section Suffix

variable {cs more : List Char} {path : List (List Char)}

theorem Segment.head?_append_ne (h : Segment cs) (more : List Char) :
    (cs ++ more).head? ≠ some '/' := by
  cases cs with
  | nil => exact absurd rfl h.ne_nil
  | cons c rest =>
    intro hc
    cases hc
    exact h.slash (List.mem_cons_self ..)

theorem Segment.splitSuffix? (h : Segment cs) : splitSuffix? cs = none := by
  cases hcut : Remote.splitSuffix? cs with
  | none => rfl
  | some cut =>
    obtain ⟨before, after⟩ := cut
    obtain ⟨heq, hends⟩ := eq_of_splitSuffix? hcut
    cases after with
    | nil => exact absurd ⟨before, by simpa using heq.symm⟩ h.plain
    | cons c after =>
      have hmem : c ∈ cs := by simp [heq]
      have hc : c = '/' ∨ c = '?' := by simpa [endsName] using hends
      rcases hc with rfl | rfl
      · exact absurd hmem h.slash
      · exact absurd hmem h.question

theorem splitSuffix?_separator (h : splitSuffix? cs = none) (more : List Char) :
    splitSuffix? (cs ++ '/' :: more) = (splitSuffix? more).map fun cut => (cs ++ '/' :: cut.1, cut.2) := by
  have hdot : '.' ∉ ['/'] := by decide
  have hslash : splitSuffix? ('/' :: more) =
      (splitSuffix? more).map fun cut => ('/' :: cut.1, cut.2) :=
    splitSuffix?_append_of_not_mem hdot more
  rw [splitSuffix?_append_cons (fun _ => rfl) (by decide), h, hslash]
  simp [Function.comp_def]

theorem splitSuffix?_append_trail (hpath : ∀ segment ∈ path, Segment segment)
    (h : splitSuffix? cs = none) (slashes : Nat) :
    splitSuffix? (cs ++ (List.replicate slashes '/' ++ trail path)) = none := by
  induction slashes generalizing cs with
  | zero =>
    induction path generalizing cs with
    | nil => simpa [trail] using h
    | cons segment path ih =>
      have hsegment := (hpath segment (List.mem_cons_self ..)).splitSuffix?
      have hrest : splitSuffix? (segment ++ trail path) = none :=
        ih (fun other hother => hpath other (List.mem_cons_of_mem _ hother)) hsegment
      have htrail : trail (segment :: path) = '/' :: (segment ++ trail path) := rfl
      rw [List.replicate_zero, List.nil_append, htrail, splitSuffix?_separator h, hrest]
      rfl
  | succ slashes ih =>
    have hrest : splitSuffix? ([] ++ (List.replicate slashes '/' ++ trail path)) = none := ih rfl
    rw [List.nil_append] at hrest
    rw [List.replicate_succ, List.cons_append, splitSuffix?_separator h, hrest]
    rfl

/-- A suffix that was put behind a text without one is found there. -/
theorem splitSuffix?_append_suffix (h : splitSuffix? cs = none) (hends : endsName more = true) :
    splitSuffix? (cs ++ (gitSuffix ++ more)) = some (cs, more) := by
  induction cs with
  | nil => exact splitSuffix?_of_endsName hends
  | cons c rest ih =>
    rw [Remote.splitSuffix?] at h
    split at h
    · cases h
    · next hnone =>
      have hrest := ih (Option.map_eq_none_iff.1 h)
      have hlong : (Text.dropPrefix? gitSuffix (c :: (rest ++ (gitSuffix ++ more)))).filter endsName =
          none := by
        cases hdrop : Text.dropPrefix? gitSuffix (c :: (rest ++ (gitSuffix ++ more))) with
        | none => rfl
        | some after =>
          -- The text before the suffix begins with a suffix too, which does not end a name.
          have hbegins := Text.dropPrefix?_eq_some_iff.1 hdrop
          have hcons : gitSuffix ++ after = '.' :: ("git".toList ++ after) := rfl
          rw [hcons, List.cons.injEq] at hbegins
          obtain ⟨rfl, htail⟩ := hbegins
          have hplain : '.' ∉ "git".toList := by decide
          have hinner : "git".toList <+: rest :=
            Text.prefix_of_prefix_append_cons hplain ⟨after, htail.symm⟩
          obtain ⟨inner, rfl⟩ := hinner
          have hafter : inner ++ (gitSuffix ++ more) = after := by
            rw [List.append_assoc] at htail
            exact List.append_cancel_left htail
          have hdrop' : Text.dropPrefix? gitSuffix ('.' :: ("git".toList ++ inner)) = some inner :=
            Text.dropPrefix?_eq_some_iff.2 rfl
          rw [hdrop', Option.filter_some] at hnone
          cases inner with
          | nil => cases hnone
          | cons d inner =>
            have hd : endsName (d :: inner) = false := by
              cases hclass : endsName (d :: inner) with
              | false => rfl
              | true =>
                rw [hclass] at hnone
                cases hnone
            have hsame : endsName (d :: inner ++ (gitSuffix ++ more)) = false := hd
            rw [← hafter, Option.filter_some, hsame]
            rfl
      rw [List.cons_append, Remote.splitSuffix?, hlong, hrest]
      rfl

end Suffix

section Cut

variable {owner name : List Char} {path : List (List Char)}

/-- A path does not end with a separator. -/
theorem Segment.exists_append_trail {segment : List Char} (h : Segment segment)
    (hpath : ∀ other ∈ path, Segment other) :
    ∃ before last, segment ++ trail path = before ++ [last] ∧ last ≠ '/' := by
  induction path generalizing segment with
  | nil =>
    have hlast : segment.getLast h.ne_nil ≠ '/' := by
      intro heq
      exact h.slash (heq ▸ List.getLast_mem h.ne_nil)
    refine ⟨segment.dropLast, segment.getLast h.ne_nil, ?_, hlast⟩
    rw [trail, List.flatMap_nil, List.append_nil, List.dropLast_concat_getLast]
  | cons other path ih =>
    obtain ⟨before, last, heq, hlast⟩ := ih (hpath other (List.mem_cons_self ..))
      fun third hthird => hpath third (List.mem_cons_of_mem _ hthird)
    have htrail : trail (other :: path) = '/' :: (other ++ trail path) := rfl
    exact ⟨segment ++ '/' :: before, last, by rw [htrail, heq]; simp, hlast⟩

/-- Nothing but separators is taken off the ends of a path. -/
theorem dropEnds_trail (hpath : ∀ segment ∈ path, Segment segment) (slashes : Nat) :
    Text.dropEnds (· == '/') (List.replicate slashes '/' ++ trail path) = (trail path).tail := by
  induction slashes with
  | zero =>
    cases path with
    | nil => rfl
    | cons segment path =>
      have hsegment := hpath segment (List.mem_cons_self ..)
      obtain ⟨before, last, heq, hlast⟩ := hsegment.exists_append_trail
        fun other hother => hpath other (List.mem_cons_of_mem _ hother)
      have htrail : trail (segment :: path) = '/' :: (segment ++ trail path) := rfl
      have hends : Text.dropEndWhile (· == '/') (before ++ [last]) = before ++ [last] :=
        Text.dropEndWhile_append_cons (by simpa using hlast) before []
      have hfirst : (segment ++ trail path).dropWhile (· == '/') = segment ++ trail path := by
        cases segment with
        | nil => exact absurd rfl hsegment.ne_nil
        | cons c segment =>
          have hc : c ≠ '/' := fun hc => hsegment.slash (hc ▸ List.mem_cons_self ..)
          exact List.dropWhile_cons_of_neg (by simpa using hc)
      rw [List.replicate_zero, List.nil_append, htrail, Text.dropEnds_cons_of_mem rfl, Text.dropEnds,
        hfirst, List.tail_cons, heq, hends]
  | succ slashes ih =>
    rw [List.replicate_succ, List.cons_append, Text.dropEnds_cons_of_mem rfl, ih]

/-- What stands behind a repository begins with a separator. -/
theorem replicate_append_trail_cases (slashes : Nat) (path : List (List Char)) :
    List.replicate slashes '/' ++ trail path = [] ∨
      ∃ inner, List.replicate slashes '/' ++ trail path = '/' :: inner := by
  cases slashes with
  | zero =>
    cases path with
    | nil => exact .inl rfl
    | cons segment path => exact .inr ⟨_, rfl⟩
  | succ slashes => exact .inr ⟨_, rfl⟩

theorem question_not_mem_trail (hpath : ∀ segment ∈ path, Segment segment) (slashes : Nat) :
    '?' ∉ List.replicate slashes '/' ++ trail path := by
  rw [List.mem_append, not_or]
  refine ⟨fun hmem => absurd (List.eq_of_mem_replicate hmem) (by decide), fun hmem => ?_⟩
  obtain ⟨segment, hsegment, hmem⟩ := List.mem_flatMap.1 hmem
  rcases List.mem_cons.1 hmem with hslash | hmem
  · exact absurd hslash (by decide)
  · exact (hpath segment hsegment).question hmem

/-- A repository is cut where it was put together, with the suffix and without it, and the
separators before the path inside it are not part of the path. -/
theorem splitRepository_written (howner : Segment owner) (hname : Segment name)
    (hpath : ∀ segment ∈ path, Segment segment) (suffixed : Bool) (slashes : Nat) :
    ∃ inner, splitRepository (written owner name suffixed slashes path) =
        ⟨owner ++ '/' :: name, inner, none, suffixed⟩ ∧
      Text.dropEnds (· == '/') inner = (trail path).tail := by
  have hends := dropEnds_trail hpath slashes
  have hquestion := question_not_mem_trail hpath slashes
  have hcases := replicate_append_trail_cases slashes path
  have hplain : splitSuffix? (owner ++ '/' :: name) = none := by
    rw [splitSuffix?_separator howner.splitSuffix?, hname.splitSuffix?]
    rfl
  cases suffixed with
  | true =>
    have hbehind : endsName (List.replicate slashes '/' ++ trail path) = true := by
      rcases hcases with hnil | ⟨inner, hinner⟩
      · rw [hnil]
        rfl
      · rw [hinner]
        rfl
    -- The suffix ends the repository, whatever separators follow it.
    have hcut := splitSuffix?_append_suffix hplain hbehind
    have hparts := CutsRepository.suffixed hcut
    rw [peelQuery_of_not_mem hquestion] at hparts
    refine ⟨_, ?_, hends⟩
    rw [written, if_pos rfl, List.append_assoc]
    exact hparts.eq
  | false =>
    -- No suffix is found anywhere, so the repository ends behind its second segment.
    have hnone := splitSuffix?_append_trail hpath hplain slashes
    rw [written, if_neg Bool.false_ne_true, List.append_nil]
    rcases hcases with hnil | ⟨inner, hinner⟩
    · have hmark : '?' ∉ owner ++ '/' :: name := by simp [howner.question, hname.question]
      have hparts := CutsRepository.flat hplain howner.ne_nil howner.slash hname.slash
      rw [peelQuery_of_not_mem hmark] at hparts
      rw [hnil] at hends
      rw [hnil, List.append_nil]
      exact ⟨[], hparts.eq, hends⟩
    · rw [hinner] at hnone hends hquestion ⊢
      have hdeep : owner ++ '/' :: name ++ '/' :: inner = owner ++ '/' :: (name ++ '/' :: inner) := by
        simp
      rw [hdeep] at hnone ⊢
      have hparts := CutsRepository.deep hnone howner.ne_nil howner.slash hname.slash
      rw [peelQuery_of_not_mem fun hmem => hquestion (List.mem_cons_of_mem _ hmem)] at hparts
      exact ⟨inner, hparts.eq, by rwa [Text.dropEnds_cons_of_mem rfl] at hends⟩

end Cut

end OverlayChain.Remote

namespace OverlayChain.RemoteRef

open Remote

/-- What was written behind a host part is read again. -/
theorem parse?_written {text : String} {host owner name : List Char} {suffixed : Bool} {slashes : Nat}
    {path : List (List Char)} (hlocal : ∃ c cs, text.toList = c :: cs ∧ c ≠ '/')
    (hsplit : splitHost text.toList = (host, written owner name suffixed slashes path))
    (hhost : host ≠ []) (hfile : host ≠ fileHost) (howner : Segment owner) (hname : Segment name)
    (hpath : ∀ segment ∈ path, Segment segment) :
    ∃ a, parse? text = some a ∧ a.host.toList = host ∧ a.repository.toList = owner ++ '/' :: name ∧
      a.path.toList = (trail path).tail ∧
        a.cloneUrl.toList = host ++ (owner ++ '/' :: name ++ if suffixed then gitSuffix else []) := by
  obtain ⟨inner, hcut, hends⟩ := splitRepository_written howner hname hpath suffixed slashes
  have hparsed := parse?_of_split hlocal hsplit hhost hfile (by rw [hcut]; simp)
  rw [hcut] at hparsed
  refine ⟨_, hparsed, ?_, ?_, ?_, ?_⟩
  · rw [ofParts, String.toList_ofList]
  · rw [ofParts, String.toList_ofList]
  · rw [ofParts, String.toList_ofList, hends]
  · rw [toList_cloneUrl_ofParts, Parts.suffix]

end OverlayChain.RemoteRef
