import Mathlib.Data.List.Basic
import OverlayChain.Proofs.Text.Search
import OverlayChain.Text.Utf8

/-!
# Texts as bytes

A text is stored as bytes, and a character takes up to four of them. The first byte of a character
is told from the others by its bits, so a search for a pattern among the bytes finds it where it
stands among the characters, and the offsets it finds fall between two characters.

## Main definitions

- `Text.firstOffset?`: the first offset at which what follows passes a test.
- `Text.isBoundary`: an offset between two characters.
- `Text.sliceTo?`, `Text.sliceFrom?`: slices at such an offset, and at no other one.

## Main statements

- `Text.bytes_prefix_iff`: a text begins with a pattern if its bytes do.
- `Text.firstOffset?_bytes`: a search among the bytes follows the characters.
- `Text.offsetOf?_bytes`: the offset of the first occurrence of a pattern.
- `Text.isBoundary_iff`: the offsets between two characters.
- `Text.slices?_bytes`: slices around a part of a text.
-/

namespace OverlayChain.Text

section Arrays

theorem toList_loop (bytes : ByteArray) (i : Nat) (read : List UInt8) :
    ByteArray.toList.loop bytes i read = read.reverse ++ bytes.data.toList.drop i := by
  have hlength : bytes.data.toList.length = bytes.size := rfl
  induction h : bytes.size - i generalizing i read with
  | zero =>
    have hle : bytes.data.toList.length ≤ i := by omega
    rw [ByteArray.toList.loop, if_neg (by omega), List.drop_of_length_le hle, List.append_nil]
  | succ n ih =>
    have hlt : i < bytes.data.toList.length := by omega
    have hget : bytes.get! i = bytes.data.toList[i] := getElem!_pos bytes.data i hlt
    rw [ByteArray.toList.loop, if_pos (by omega), ih _ _ (by omega), List.drop_eq_getElem_cons hlt,
      hget]
    simp

theorem toList_eq_data (bytes : ByteArray) : bytes.toList = bytes.data.toList := by
  rw [ByteArray.toList, toList_loop]
  rfl

theorem toByteArray_toList (bytes : ByteArray) : bytes.toList.toByteArray = bytes := by
  apply ByteArray.ext
  apply Array.toList_inj.1
  rw [List.toList_data_toByteArray, toList_eq_data]

theorem fromUTF8?_toUTF8 (text : String) : String.fromUTF8? text.toUTF8 = some text := by
  rw [String.fromUTF8?, String.toUTF8_eq_toByteArray, dif_pos text.isValidUTF8]
  rfl

end Arrays

section Encoding

variable {cs pattern : List Char}

@[simp] theorem bytes_nil : bytes [] = [] := rfl

theorem bytes_cons (c : Char) (cs : List Char) :
    bytes (c :: cs) = String.utf8EncodeChar c ++ bytes cs := rfl

@[simp] theorem bytes_append (a b : List Char) : bytes (a ++ b) = bytes a ++ bytes b := by
  simp [bytes]

theorem toList_toUTF8 (cs : List Char) : (String.ofList cs).toUTF8.toList = bytes cs := by
  rw [toList_eq_data, String.toUTF8_eq_toByteArray, String.toByteArray_ofList, List.utf8Encode,
    List.toList_data_toByteArray]
  rfl

/-- An ASCII character is one byte. -/
theorem utf8EncodeChar_of_ascii {c : Char} (h : c.toNat < 128) :
    String.utf8EncodeChar c = [c.toUInt8] := by
  have hle : c.val.toNat ≤ 127 := Nat.le_of_lt_succ h
  rw [String.utf8EncodeChar, if_pos hle]
  rfl

theorem bytes_of_ascii (h : ∀ c ∈ cs, c.toNat < 128) : bytes cs = cs.map Char.toUInt8 := by
  induction cs with
  | nil => rfl
  | cons c cs ih =>
    rw [bytes_cons, utf8EncodeChar_of_ascii (h c (List.mem_cons_self ..)),
      ih fun d hd => h d (List.mem_cons_of_mem _ hd)]
    rfl

theorem toList_toUTF8_of_ascii (h : ∀ c ∈ cs, c.toNat < 128) :
    (String.ofList cs).toUTF8.toList = cs.map Char.toUInt8 := by
  rw [toList_toUTF8, bytes_of_ascii h]

/-- An ASCII text has as many bytes as characters. -/
theorem utf8ByteSize_of_ascii {text : String} (h : ∀ c ∈ text.toList, c.toNat < 128) :
    text.utf8ByteSize = text.toList.length := by
  have hlist := toList_toUTF8_of_ascii h
  rw [String.ofList_toList, toList_eq_data] at hlist
  have hlength := congrArg List.length hlist
  rwa [List.length_map] at hlength

/-- A character has a first byte, and the bytes behind it are none. -/
theorem exists_utf8EncodeChar (c : Char) : ∃ b more, String.utf8EncodeChar c = b :: more ∧
    b.IsUTF8FirstByte ∧ ∀ d ∈ more, ¬ d.IsUTF8FirstByte := by
  obtain ⟨b, more, hcode⟩ := List.exists_cons_of_ne_nil (String.utf8EncodeChar_ne_nil (c := c))
  have hfirst : ∀ i (hi : i < (b :: more).length), (b :: more)[i].IsUTF8FirstByte ↔ i = 0 := by
    rw [← hcode]
    exact fun i hi => UInt8.isUTF8FirstByte_getElem_utf8EncodeChar
  refine ⟨b, more, hcode, (hfirst 0 (by simp)).2 rfl, fun d hd hbegins => ?_⟩
  obtain ⟨i, hi, rfl⟩ := List.getElem_of_mem hd
  have hzero := (hfirst (i + 1) (by simpa using hi)).1 (by simpa using hbegins)
  omega

/-- A text begins with a pattern exactly if its bytes begin with those of the pattern. -/
theorem bytes_prefix_iff : bytes pattern <+: bytes cs ↔ pattern <+: cs := by
  constructor
  · rintro ⟨more, hmore⟩
    apply List.isPrefix_of_utf8Encode_append_eq_utf8Encode more.toByteArray
    rw [List.utf8Encode, List.utf8Encode, ← List.toByteArray_append]
    exact congrArg List.toByteArray hmore
  · rintro ⟨rest, rfl⟩
    rw [bytes_append]
    exact List.prefix_append _ _

/-- An ASCII character begins a text exactly if its byte begins the bytes. -/
theorem getElem?_bytes_eq_some_iff {d : Char} (hd : d.toNat < 128) :
    (bytes cs)[0]? = some d.toUInt8 ↔ cs.head? = some d := by
  have hbyte : bytes [d] = [d.toUInt8] := by
    rw [bytes_of_ascii (by simpa using hd)]
    rfl
  have hbegins : bytes [d] <+: bytes cs ↔ [d] <+: cs := bytes_prefix_iff
  rw [hbyte] at hbegins
  have hbytes : [d.toUInt8] <+: bytes cs ↔ (bytes cs)[0]? = some d.toUInt8 := by
    cases bytes cs <;> simp [eq_comm]
  have hchars : [d] <+: cs ↔ cs.head? = some d := by
    cases cs <;> simp [eq_comm]
  rw [← hbytes, hbegins, hchars]

end Encoding

section Offsets

variable {test : List UInt8 → Bool} {cs pattern : List Char}

/-- The first offset at which what follows passes a test. -/
def firstOffset? (test : List UInt8 → Bool) : List UInt8 → Option Nat
  | [] => if test [] then some 0 else none
  | b :: rest => if test (b :: rest) then some 0 else (firstOffset? test rest).map (· + 1)

/-- Bytes at which the test fails are passed over. -/
theorem firstOffset?_append {passed : List UInt8} (h : ∀ b ∈ passed, ∀ more, test (b :: more) = false)
    (bs : List UInt8) :
    firstOffset? test (passed ++ bs) = (firstOffset? test bs).map (passed.length + ·) := by
  induction passed with
  | nil => simp
  | cons b passed ih =>
    have hb := h b (List.mem_cons_self ..) (passed ++ bs)
    rw [List.cons_append, firstOffset?, if_neg (by simp [hb]),
      ih fun d hd => h d (List.mem_cons_of_mem _ hd), Option.map_map]
    congr 1
    funext n
    simp
    omega

/-- A test that fails inside every character is made at the characters only. -/
theorem firstOffset?_bytes_cons (hinside : ∀ b more, ¬ b.IsUTF8FirstByte → test (b :: more) = false)
    (c : Char) (cs : List Char) :
    firstOffset? test (bytes (c :: cs)) =
      if test (bytes (c :: cs)) then some 0
      else (firstOffset? test (bytes cs)).map ((bytes [c]).length + ·) := by
  obtain ⟨b, more, hcode, -, hmore⟩ := exists_utf8EncodeChar c
  have hskip := firstOffset?_append (fun d hd rest => hinside d rest (hmore d hd)) (bytes cs)
  have hbytes : bytes (c :: cs) = b :: (more ++ bytes cs) := by
    rw [bytes_cons, hcode]
    rfl
  have hlength : (bytes [c]).length = more.length + 1 := by
    rw [bytes_cons, hcode]
    simp
  rw [hbytes, firstOffset?, hskip, hlength, Option.map_map]
  congr 2
  funext n
  simp
  omega

/-- A search through the characters is a search among the bytes, if the test of the bytes says of a
text what the step of the search says of it, and fails inside every character. -/
theorem firstOffset?_bytes {step : List Char → Option (List Char)}
    {search : List Char → Option (List Char × List Char)} (h : IsSearch step search)
    (hinside : ∀ b more, ¬ b.IsUTF8FirstByte → test (b :: more) = false)
    (htest : ∀ cs, test (bytes cs) = (step cs).isSome) (cs : List Char) :
    firstOffset? test (bytes cs) = (search cs).map fun cut => (bytes cut.1).length := by
  induction cs with
  | nil =>
    have hnil : test [] = (step []).isSome := htest []
    rw [bytes_nil, firstOffset?, hnil, h.nil]
    cases step [] <;> simp
  | cons c cs ih =>
    rw [firstOffset?_bytes_cons hinside, htest, h.cons, ih]
    cases step (c :: cs) with
    | some after => simp
    | none =>
      simp only [Option.isSome_none, Bool.false_eq_true, if_false, Option.map_map]
      congr 1
      funext cut
      simp [bytes_cons]

/-- No pattern begins inside a character. -/
theorem isPrefixOf_inside (hne : pattern ≠ []) (b : UInt8) (more : List UInt8)
    (hb : ¬ b.IsUTF8FirstByte) : (bytes pattern).isPrefixOf (b :: more) = false := by
  obtain ⟨p, ps, rfl⟩ := List.exists_cons_of_ne_nil hne
  obtain ⟨d, rest, hcode, hfirst, -⟩ := exists_utf8EncodeChar p
  have hdb : d ≠ b := fun heq => hb (heq ▸ hfirst)
  rw [bytes_cons, hcode]
  simp [List.isPrefixOf, hdb]

theorem isPrefixOf_bytes (pattern cs : List Char) :
    (bytes pattern).isPrefixOf (bytes cs) = (dropPrefix? pattern cs).isSome := by
  rw [Bool.eq_iff_iff, List.isPrefixOf_iff_prefix, bytes_prefix_iff]
  cases hdrop : dropPrefix? pattern cs with
  | none => simpa using dropPrefix?_eq_none_iff.1 hdrop
  | some rest => simpa using ⟨rest, (dropPrefix?_eq_some_iff.1 hdrop).symm⟩

/-- The first offset at which the bytes of a pattern stand. -/
def offsetOf? (pattern : List Char) (bs : List UInt8) : Option Nat :=
  firstOffset? (bytes pattern).isPrefixOf bs

/-- The bytes of a pattern are found where the pattern first occurs. -/
theorem offsetOf?_bytes (hne : pattern ≠ []) (cs : List Char) :
    offsetOf? pattern (bytes cs) =
      (splitFirst? pattern cs).map fun cut => (bytes cut.1).length := by
  exact firstOffset?_bytes (isSearch_splitFirst? pattern) (isPrefixOf_inside hne)
    (isPrefixOf_bytes pattern) cs

end Offsets

section Slices

/-- An offset between two characters: at the end of the bytes, or before a byte that begins a
character. -/
def isBoundary (offset : Nat) (bs : List UInt8) : Bool :=
  offset == bs.length || bs[offset]?.any fun b => decide b.IsUTF8FirstByte

/-- The bytes before an offset. There is no slice that ends inside a character. -/
def sliceTo? (offset : Nat) (bs : List UInt8) : Option (List UInt8) :=
  if isBoundary offset bs then some (bs.take offset) else none

/-- The bytes from an offset on. There is no slice that begins inside a character. -/
def sliceFrom? (offset : Nat) (bs : List UInt8) : Option (List UInt8) :=
  if isBoundary offset bs then some (bs.drop offset) else none

/-- The bytes before an offset, and the bytes behind those that are left out there. -/
def slices? (offset width : Nat) (bs : List UInt8) : Option (List UInt8 × List UInt8) := do
  let before ← sliceTo? offset bs
  let after ← sliceFrom? (offset + width) bs
  return (before, after)

theorem isBoundary_bytes_cons (c : Char) (cs : List Char) (offset : Nat) :
    isBoundary offset (bytes (c :: cs)) = true ↔
      offset = 0 ∨ ∃ n, offset = (bytes [c]).length + n ∧ isBoundary n (bytes cs) = true := by
  obtain ⟨b, more, hcode, hfirst, hmore⟩ := exists_utf8EncodeChar c
  have hbytes : bytes (c :: cs) = b :: more ++ bytes cs := by rw [bytes_cons, hcode]
  have hlength : (bytes [c]).length = more.length + 1 := by simp [bytes_cons, hcode]
  rw [hbytes, hlength]
  rcases Nat.lt_or_ge offset (more.length + 1) with hinside | hbehind
  · cases offset with
    | zero => simp [isBoundary, hfirst]
    | succ n =>
      -- Inside the character there is no first byte.
      have hlt : n < more.length := by omega
      have hget : (b :: more ++ bytes cs)[n + 1]? = some more[n] := by
        rw [List.cons_append, List.getElem?_cons_succ, List.getElem?_append_left hlt,
          List.getElem?_eq_getElem hlt]
      have hnot := hmore more[n] (List.getElem_mem hlt)
      rw [isBoundary, hget]
      simp [hnot]
      omega
  · obtain ⟨n, rfl⟩ := Nat.exists_eq_add_of_le hbehind
    have hget : (b :: more ++ bytes cs)[more.length + 1 + n]? = (bytes cs)[n]? := by
      rw [List.getElem?_append_right (by simp), List.length_cons, Nat.add_sub_cancel_left]
    have hend : more.length + 1 + n = (b :: more ++ bytes cs).length ↔ n = (bytes cs).length := by
      rw [List.length_append, List.length_cons]
      omega
    rw [isBoundary, hget, Bool.or_eq_true, beq_iff_eq, hend]
    simp [isBoundary]

/-- The offsets between two characters are the sizes of what stands before them. -/
theorem isBoundary_iff {offset : Nat} {cs : List Char} :
    isBoundary offset (bytes cs) = true ↔
      ∃ before after, cs = before ++ after ∧ offset = (bytes before).length := by
  induction cs generalizing offset with
  | nil =>
    simp [isBoundary]
  | cons c cs ih =>
    rw [isBoundary_bytes_cons]
    simp only [ih]
    constructor
    · rintro (rfl | ⟨_, rfl, before, after, rfl, rfl⟩)
      · exact ⟨[], c :: cs, rfl, rfl⟩
      · refine ⟨c :: before, after, rfl, ?_⟩
        simp [bytes_cons]
    · rintro ⟨before, after, hcs, rfl⟩
      cases before with
      | nil => exact .inl rfl
      | cons d before =>
        obtain ⟨rfl, rfl⟩ := List.cons.inj hcs
        refine .inr ⟨_, ?_, before, after, rfl, rfl⟩
        simp [bytes_cons]

variable (before skipped after : List Char)

theorem sliceTo?_bytes :
    sliceTo? (bytes before).length (bytes (before ++ after)) = some (bytes before) := by
  rw [sliceTo?, if_pos (isBoundary_iff.2 ⟨before, after, rfl, rfl⟩), bytes_append, List.take_left]

theorem sliceFrom?_bytes :
    sliceFrom? (bytes before).length (bytes (before ++ after)) = some (bytes after) := by
  rw [sliceFrom?, if_pos (isBoundary_iff.2 ⟨before, after, rfl, rfl⟩), bytes_append, List.drop_left]

/-- A text is sliced around a part of it. -/
theorem slices?_bytes :
    slices? (bytes before).length (bytes skipped).length (bytes (before ++ skipped ++ after)) =
      some (bytes before, bytes after) := by
  have hbefore := sliceTo?_bytes before (skipped ++ after)
  have hafter := sliceFrom?_bytes (before ++ skipped) after
  rw [← List.append_assoc] at hbefore
  rw [bytes_append before skipped, List.length_append] at hafter
  simp only [slices?, hbefore, hafter, Option.bind_eq_bind, Option.bind_some, Option.pure_def]

end Slices

end OverlayChain.Text
