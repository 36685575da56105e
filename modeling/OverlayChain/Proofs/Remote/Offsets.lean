import OverlayChain.Proofs.Remote.Parts
import OverlayChain.Proofs.Text.Bytes

/-!
# Cutting a reference by offsets

The rest of a reference can be cut where it is stored, as bytes. Its marks are searched among the
bytes, and the parts are slices at the offsets that are found, moved by the width of a mark. Several
of these searches feed each other, and a slice that would begin or end inside a character is none.
Every slice that is asked for is one, and the slices are the bytes of the parts.

## Main definitions

- `Remote.Slices`: the parts as bytes.
- `Remote.splitRepositoryBytes?`, `Remote.splitFileBytes?`: the cut by offsets, `none` if a slice
  would begin or end inside a character.

## Main statements

- `Remote.peelQueryBytes?_bytes`: a query is cut off between two characters.
- `Remote.splitRepositoryBytes?_bytes`, `Remote.splitFileBytes?_bytes`: the cut by offsets is the cut
  of the characters.
-/

namespace OverlayChain.Remote

open Text

/-- What the rest of a reference says, as bytes. -/
structure Slices where
  repository : List UInt8
  path : List UInt8
  ref : Option (List UInt8)
  suffixed : Bool

/-- The bytes of the parts. -/
def Parts.slices (parts : Parts) : Slices :=
  ⟨bytes parts.repository, bytes parts.path, parts.ref.map bytes, parts.suffixed⟩

/-- The number of bytes of a mark. -/
def width (mark : List Char) : Nat := (bytes mark).length

/-- Cut a query off by its offset: the first one that says `ref`, or else the first that says
`version`. -/
def peelQueryBytes? (bs : List UInt8) : Option (List UInt8 × Option (List UInt8)) :=
  match offsetOf? "?ref=".toList bs with
  | some i => (slices? i (width "?ref=".toList) bs).map fun cut => (cut.1, some cut.2)
  | none =>
    match offsetOf? "?version=".toList bs with
    | some i => (slices? i (width "?version=".toList) bs).map fun cut => (cut.1, some cut.2)
    | none => some (bs, none)

/-- Whether the byte behind a suffix, or the end of the bytes, ends a name. -/
def endsNameAt (byte : Option UInt8) : Bool :=
  byte.all fun b => b == '/'.toUInt8 || b == '?'.toUInt8

/-- Whether the bytes begin with a suffix that ends a name. -/
def beginsSuffix (bs : List UInt8) : Bool :=
  (bytes gitSuffix).isPrefixOf bs && endsNameAt bs[width gitSuffix]?

/-- The first offset of a suffix that ends a name. -/
def offsetOfSuffix? (bs : List UInt8) : Option Nat := firstOffset? beginsSuffix bs

/-- Cut the rest of a reference to a server by offsets. -/
def splitRepositoryBytes? (rest : List UInt8) : Option Slices :=
  match offsetOfSuffix? rest with
  | some i =>
    (slices? i (width gitSuffix) rest).bind fun cut =>
      (peelQueryBytes? cut.2).map fun peeled => ⟨cut.1, peeled.1, peeled.2, true⟩
  | none =>
    match (offsetOf? ['/'] rest).filter (0 < ·) with
    | none => some ⟨[], [], none, false⟩
    | some i =>
      (sliceFrom? (i + width ['/']) rest).bind fun below =>
        match offsetOf? ['/'] below with
        | some j =>
          (slices? (i + width ['/'] + j) (width ['/']) rest).bind fun cut =>
            (peelQueryBytes? cut.2).map fun peeled => ⟨cut.1, peeled.1, peeled.2, false⟩
        | none => (peelQueryBytes? rest).map fun peeled => ⟨peeled.1, [], peeled.2, false⟩

/-- Cut the rest of a reference to a file of this machine by offsets. -/
def splitFileBytes? (rest : List UInt8) : Option Slices :=
  (peelQueryBytes? rest).bind fun (rest, ref) =>
    if (bytes ['/']).isPrefixOf rest then
      (sliceFrom? (width ['/']) rest).bind fun below =>
        match offsetOf? ['/', '/'] below with
        | some i =>
          (slices? (width ['/'] + i) (width ['/', '/']) rest).map fun cut =>
            ⟨cut.1, cut.2, ref, false⟩
        | none =>
          match offsetOfSuffix? rest with
          | some i => (slices? i (width gitSuffix) rest).map fun cut => ⟨cut.1, cut.2, ref, true⟩
          | none => some ⟨rest, [], ref, false⟩
    else some ⟨[], [], none, false⟩

section Marks

variable {cs before after rest mark : List Char}

/-- What is cut at a mark is sliced at the offset of the mark. -/
theorem offsetOf?_of_cut (hne : mark ≠ []) (h : splitFirst? mark cs = some (before, after)) :
    offsetOf? mark (bytes cs) = some (bytes before).length ∧
      slices? (bytes before).length (width mark) (bytes cs) = some (bytes before, bytes after) := by
  constructor
  · rw [offsetOf?_bytes hne, h]
    rfl
  · rw [eq_of_splitFirst? h]
    exact slices?_bytes before mark after

theorem offsetOf?_of_not_cut (hne : mark ≠ []) (h : splitFirst? mark cs = none) :
    offsetOf? mark (bytes cs) = none := by
  rw [offsetOf?_bytes hne, h]
  rfl

theorem sliceFrom?_of_cut (h : splitFirst? mark cs = some (before, after)) :
    sliceFrom? ((bytes before).length + width mark) (bytes cs) = some (bytes after) := by
  rw [eq_of_splitFirst? h, width, ← List.length_append, ← bytes_append]
  exact sliceFrom?_bytes (before ++ mark) after

/-- A mark that is found behind another one is sliced at the sum of the offsets. -/
theorem slices?_of_cuts {mark' below : List Char} (h : splitFirst? mark cs = some (before, below))
    (h' : splitFirst? mark' below = some (after, rest)) :
    slices? ((bytes before).length + width mark + (bytes after).length) (width mark') (bytes cs) =
      some (bytes (before ++ mark ++ after), bytes rest) := by
  have hslices := slices?_bytes (before ++ mark ++ after) mark' rest
  rw [eq_of_splitFirst? h, eq_of_splitFirst? h']
  simpa [width, Nat.add_assoc] using hslices

/-- A query is cut off between two characters. -/
theorem peelQueryBytes?_bytes (cs : List Char) :
    peelQueryBytes? (bytes cs) = some (bytes (peelQuery cs).1, (peelQuery cs).2.map bytes) := by
  rw [peelQueryBytes?, peelQuery]
  cases href : splitFirst? "?ref=".toList cs with
  | some cut =>
    obtain ⟨hoffset, hslices⟩ := offsetOf?_of_cut (by decide) href
    simp only [hoffset, hslices, Option.map_some]
  | none =>
    rw [offsetOf?_of_not_cut (by decide) href]
    cases hversion : splitFirst? "?version=".toList cs with
    | some cut =>
      obtain ⟨hoffset, hslices⟩ := offsetOf?_of_cut (by decide) hversion
      simp only [hoffset, hslices, Option.map_some]
    | none =>
      rw [offsetOf?_of_not_cut (by decide) hversion]
      rfl

/-- The byte behind a suffix is looked at as the character is. -/
theorem endsNameAt_bytes (after : List Char) : endsNameAt (bytes after)[0]? = endsName after := by
  have hslash : (bytes after)[0]? = some '/'.toUInt8 ↔ after.head? = some '/' :=
    getElem?_bytes_eq_some_iff (by decide)
  have hquestion : (bytes after)[0]? = some '?'.toUInt8 ↔ after.head? = some '?' :=
    getElem?_bytes_eq_some_iff (by decide)
  cases after with
  | nil => rfl
  | cons c after =>
    obtain ⟨b, more, hcode, -⟩ := exists_utf8EncodeChar c
    have hget : (bytes (c :: after))[0]? = some b := by
      rw [bytes_cons, hcode]
      rfl
    rw [hget, Option.some_inj, List.head?_cons, Option.some_inj] at hslash hquestion
    rw [hget, Bool.eq_iff_iff]
    simp [endsNameAt, endsName, hslash, hquestion]

theorem beginsSuffix_bytes (cs : List Char) :
    beginsSuffix (bytes cs) = ((dropPrefix? gitSuffix cs).filter endsName).isSome := by
  rw [beginsSuffix, isPrefixOf_bytes]
  cases hdrop : dropPrefix? gitSuffix cs with
  | none => rfl
  | some after =>
    have hbehind : (bytes cs)[width gitSuffix]? = (bytes after)[0]? := by
      rw [dropPrefix?_eq_some_iff.1 hdrop, bytes_append, width,
        List.getElem?_append_right (Nat.le_refl _), Nat.sub_self]
    rw [hbehind, endsNameAt_bytes, Option.filter_some]
    cases endsName after <;> rfl

/-- The first suffix that ends a name is found between two characters. -/
theorem offsetOfSuffix?_bytes (cs : List Char) :
    offsetOfSuffix? (bytes cs) = (splitSuffix? cs).map fun cut => (bytes cut.1).length := by
  refine firstOffset?_bytes isSearch_splitSuffix? (fun b more hb => ?_) beginsSuffix_bytes cs
  have hinside : (bytes gitSuffix).isPrefixOf (b :: more) = false :=
    isPrefixOf_inside (by decide) b more hb
  rw [beginsSuffix, hinside, Bool.false_and]

theorem offsetOfSuffix?_of_cut (h : splitSuffix? cs = some (before, after)) :
    offsetOfSuffix? (bytes cs) = some (bytes before).length ∧
      slices? (bytes before).length (width gitSuffix) (bytes cs) =
        some (bytes before, bytes after) := by
  constructor
  · rw [offsetOfSuffix?_bytes, h]
    rfl
  · obtain ⟨rfl, -⟩ := eq_of_splitSuffix? h
    exact slices?_bytes before gitSuffix after

end Marks

section Rest

variable {rest : List Char}

/-- The cut of the bytes of a rest is the cut of its characters: every slice that it asks for begins
and ends between two characters. -/
theorem splitRepositoryBytes?_bytes (rest : List Char) :
    splitRepositoryBytes? (bytes rest) = some (splitRepository rest).slices := by
  rw [splitRepositoryBytes?, splitRepository]
  cases hsuffix : splitSuffix? rest with
  | some cut =>
    obtain ⟨hoffset, hslices⟩ := offsetOfSuffix?_of_cut hsuffix
    simp only [hoffset, hslices, Option.bind_some, peelQueryBytes?_bytes, Option.map_some]
    rfl
  | none =>
    rw [offsetOfSuffix?_bytes, hsuffix, Option.map_none]
    cases hfirst : splitFirst? ['/'] rest with
    | none =>
      rw [offsetOf?_of_not_cut (by decide) hfirst]
      rfl
    | some cut =>
      obtain ⟨owner, below⟩ := cut
      obtain ⟨hoffset, -⟩ := offsetOf?_of_cut (by decide) hfirst
      have hbelow := sliceFrom?_of_cut hfirst
      cases owner with
      | nil =>
        rw [hoffset]
        rfl
      | cons c owner =>
        have hpos : 0 < (bytes (c :: owner)).length := by
          rw [bytes_cons, List.length_append]
          have hcode := List.length_pos_iff.2 (String.utf8EncodeChar_ne_nil (c := c))
          omega
        have hfound : (offsetOf? ['/'] (bytes rest)).filter (0 < ·) =
            some (bytes (c :: owner)).length := by
          rw [hoffset, Option.filter_some, if_pos (by simpa using hpos)]
        simp only [hfound, hbelow, Option.bind_some]
        cases hsecond : splitFirst? ['/'] below with
        | none =>
          simp only [offsetOf?_of_not_cut (by decide) hsecond, peelQueryBytes?_bytes,
            Option.map_some]
          rfl
        | some cut =>
          obtain ⟨hnext, -⟩ := offsetOf?_of_cut (by decide) hsecond
          have hslices := slices?_of_cuts hfirst hsecond
          simp only [hnext, hslices, Option.bind_some, peelQueryBytes?_bytes, Option.map_some]
          simp [Parts.slices]

theorem splitFileBytes?_bytes (rest : List Char) :
    splitFileBytes? (bytes rest) = some (splitFile rest).slices := by
  rw [splitFileBytes?, peelQueryBytes?_bytes, splitFile]
  simp only [Option.bind_some, isPrefixOf_bytes]
  cases hrest : (peelQuery rest).1 with
  | nil => rfl
  | cons c below =>
    by_cases hc : c = '/'
    · subst hc
      have hdrop : dropPrefix? ['/'] ('/' :: below) = some below := rfl
      have hbelow : sliceFrom? (width ['/']) (bytes ('/' :: below)) = some (bytes below) :=
        sliceFrom?_bytes ['/'] below
      simp only [hdrop, hbelow, Option.isSome_some, if_true, Option.bind_some]
      cases hdouble : splitFirst? ['/', '/'] below with
      | some cut =>
        obtain ⟨hoffset, -⟩ := offsetOf?_of_cut (by decide) hdouble
        have hslices : slices? (width ['/'] + (bytes cut.1).length) (width ['/', '/'])
            (bytes ('/' :: below)) = some (bytes ('/' :: cut.1), bytes cut.2) := by
          have hwhole := slices?_bytes (['/'] ++ cut.1) ['/', '/'] cut.2
          rwa [bytes_append ['/'], List.length_append, ← bytes_append, List.append_assoc,
            List.append_assoc, ← List.append_assoc cut.1, ← eq_of_splitFirst? hdouble] at hwhole
        simp only [hoffset, hslices, Option.map_some]
        rfl
      | none =>
        simp only [offsetOf?_of_not_cut (by decide) hdouble]
        cases hsuffix : splitSuffix? ('/' :: below) with
        | some cut =>
          obtain ⟨hoffset, hslices⟩ := offsetOfSuffix?_of_cut hsuffix
          simp only [hoffset, hslices, Option.map_some]
          rfl
        | none =>
          simp only [offsetOfSuffix?_bytes, hsuffix, Option.map_none]
          rfl
    · have hdrop : dropPrefix? ['/'] (c :: below) = none := by
        have hne : ¬ '/' = c := fun heq => hc heq.symm
        simp [dropPrefix?, hne]
      simp only [hdrop, Option.isSome_none, Bool.false_eq_true, if_false]
      split
      · next heq => exact absurd (List.cons.inj heq).1 hc
      · rfl

end Rest

end OverlayChain.Remote
