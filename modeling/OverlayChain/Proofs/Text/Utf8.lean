import OverlayChain.Proofs.Text.Bytes

/-!
# Bytes that are shown as text

The pieces of bytes are the bytes. The bytes of a text are shown as that text, and bytes that are
shown without a replacement character are the bytes of what is shown.

## Main definitions

- `Text.Piece.run`: the bytes of a piece.

## Main statements

- `Text.flatMap_pieces`: the pieces of bytes lose nothing.
- `Text.decode_encode`: the bytes of a text are shown as that text.
- `Text.encode_decode_of_not_mem`: bytes that are shown without a replacement character.
- `Text.splitOn_bytes`: a text is split at an ASCII character as its bytes are.
-/

namespace OverlayChain.Text

section Ascii

variable {cs : List Char} {c d : Char}

/-- An ASCII character is among the bytes of no other one. -/
theorem mem_utf8EncodeChar_iff (hd : d.toNat < 128) :
    d.toUInt8 ∈ String.utf8EncodeChar c ↔ c = d := by
  have hbyte : d.toUInt8 = UInt8.ofNat d.toNat := rfl
  by_cases hc : c.toNat < 128
  · have hbyte' : c.toUInt8 = UInt8.ofNat c.toNat := rfl
    rw [utf8EncodeChar_of_ascii hc, hbyte, hbyte', List.mem_singleton, ← UInt8.toNat_inj,
      UInt8.toNat_ofNat', UInt8.toNat_ofNat', Nat.mod_eq_of_lt (by omega),
      Nat.mod_eq_of_lt (by omega), Char.toNat_inj, eq_comm]
  · -- All bytes of other characters are beyond ASCII.
    have hbig : ∀ b ∈ String.utf8EncodeChar c, 128 ≤ b.toNat := by
      intro b hb
      have hc' : ¬ c.val.toNat ≤ 127 := fun hle => hc (Nat.lt_succ_of_le hle)
      rw [String.utf8EncodeChar, if_neg hc'] at hb
      split at hb
      · simp only [List.mem_cons, List.not_mem_nil, or_false] at hb
        rcases hb with rfl | rfl <;> rw [UInt8.toNat_ofNat'] <;> omega
      · split at hb
        · simp only [List.mem_cons, List.not_mem_nil, or_false] at hb
          rcases hb with rfl | rfl | rfl <;> rw [UInt8.toNat_ofNat'] <;> omega
        · simp only [List.mem_cons, List.not_mem_nil, or_false] at hb
          rcases hb with rfl | rfl | rfl | rfl <;> rw [UInt8.toNat_ofNat'] <;> omega
    refine iff_of_false ?_ ?_
    · intro hmem
      have hle := hbig _ hmem
      rw [hbyte, UInt8.toNat_ofNat', Nat.mod_eq_of_lt (by omega)] at hle
      omega
    · rintro rfl
      exact hc hd

theorem mem_bytes_iff (hd : d.toNat < 128) : d.toUInt8 ∈ bytes cs ↔ d ∈ cs := by
  rw [bytes, List.mem_flatMap]
  constructor
  · rintro ⟨c, hc, hmem⟩
    rwa [← (mem_utf8EncodeChar_iff hd).1 hmem]
  · intro hmem
    exact ⟨d, hmem, (mem_utf8EncodeChar_iff hd).2 rfl⟩

/-- A text is split at an ASCII character as its bytes are at the character's byte. -/
theorem splitOn_bytes (hd : d.toNat < 128) (cs : List Char) :
    (bytes cs).splitOn d.toUInt8 = (cs.splitOn d).map bytes := by
  induction hlength : cs.length using Nat.strongRecOn generalizing cs with
  | _ n ih =>
    by_cases hmem : d ∈ cs
    · obtain ⟨before, after, rfl, hbefore⟩ := List.eq_append_cons_of_mem hmem
      have hshort : after.length < n := by
        rw [← hlength, List.length_append, List.length_cons]
        omega
      have hno : d.toUInt8 ∉ bytes before := (mem_bytes_iff hd).not.2 hbefore
      rw [bytes_append, bytes_cons, utf8EncodeChar_of_ascii hd, List.singleton_append,
        List.splitOn_append_cons_self_of_not_mem hno, ih _ hshort _ rfl,
        List.splitOn_append_cons_self_of_not_mem hbefore, List.map_cons]
    · have hno : d.toUInt8 ∉ bytes cs := (mem_bytes_iff hd).not.2 hmem
      rw [List.splitOn_eq_singleton hno, List.splitOn_eq_singleton hmem, List.map_singleton]

end Ascii

section Pieces

variable {raw : List UInt8}

/-- The bytes of a piece. -/
def Piece.run : Piece → List UInt8
  | char c => String.utf8EncodeChar c
  | broken run => run

theorem piecesAfter_eq (skip : Nat) (raw : List UInt8) :
    piecesAfter skip raw = pieces (raw.drop skip) := by
  induction raw generalizing skip with
  | nil => cases skip <;> simp [piecesAfter, pieces]
  | cons lead rest ih =>
    cases skip with
    | zero => rfl
    | succ skip => exact ih skip

theorem pieces_cons (lead : UInt8) (rest : List UInt8) :
    pieces (lead :: rest) =
      (pieceAt lead rest).1 :: pieces (rest.drop (pieceAt lead rest).2) := by
  rw [← piecesAfter_eq]
  rfl

/-- A piece has the bytes that it takes. -/
theorem run_pieceAt (lead : UInt8) (rest : List UInt8) :
    (pieceAt lead rest).1.run = lead :: rest.take (pieceAt lead rest).2 := by
  rw [pieceAt]
  split
  · next c hc =>
    have hbytes := congrArg (fun array => array.data.toList) (ByteArray.eq_of_utf8DecodeChar?_eq_some hc)
    simp only [ByteArray.data_append, Array.toList_append, List.toList_data_toByteArray] at hbytes
    have hprefix : String.utf8EncodeChar c <+: lead :: rest := by
      refine List.IsPrefix.trans ⟨_, hbytes.symm⟩ ?_
      exact (List.prefix_cons_inj _).2 (List.take_prefix 3 rest)
    have hpos := c.utf8Size_pos
    have htake := List.prefix_iff_eq_take.1 hprefix
    rw [String.length_utf8EncodeChar, ← Nat.sub_add_cancel hpos, List.take_succ_cons] at htake
    exact htake
  · rfl

/-- The pieces of bytes are the bytes. -/
theorem flatMap_pieces (raw : List UInt8) : (pieces raw).flatMap Piece.run = raw := by
  induction hlength : raw.length using Nat.strongRecOn generalizing raw with
  | _ n ih =>
    cases raw with
    | nil => rfl
    | cons lead rest =>
      have hshort : (rest.drop (pieceAt lead rest).2).length < n := by
        rw [← hlength, List.length_drop, List.length_cons]
        omega
      rw [pieces_cons, List.flatMap_cons, ih _ hshort _ rfl, run_pieceAt, List.cons_append,
        List.take_append_drop]

/-- A character is read off its bytes. -/
theorem pieces_utf8EncodeChar (c : Char) (rest : List UInt8) :
    pieces (String.utf8EncodeChar c ++ rest) = .char c :: pieces rest := by
  obtain ⟨lead, more, hcode, -⟩ := exists_utf8EncodeChar c
  have hsize : more.length + 1 = c.utf8Size := by
    rw [← String.length_utf8EncodeChar, hcode, List.length_cons]
  have hle := c.utf8Size_le_four
  have htake : lead :: (more ++ rest).take 3 =
      String.utf8EncodeChar c ++ rest.take (3 - more.length) := by
    rw [List.take_append, List.take_of_length_le (by omega), hcode]
    rfl
  have hdecode : (lead :: (more ++ rest).take 3).toByteArray.utf8DecodeChar? 0 = some c := by
    rw [htake, List.toByteArray_append]
    have hsingle : [c].utf8Encode.utf8DecodeChar? 0 = some c := List.utf8DecodeChar?_utf8Encode_singleton
    rw [List.utf8Encode_singleton] at hsingle
    exact ByteArray.utf8DecodeChar?_append_eq_some hsingle _
  have hpiece : pieceAt lead (more ++ rest) = (.char c, more.length) := by
    rw [pieceAt, hdecode]
    simp [← hsize]
  rw [hcode, List.cons_append, pieces_cons, hpiece, List.drop_left]

theorem pieces_bytes (cs : List Char) : pieces (bytes cs) = cs.map .char := by
  induction cs with
  | nil => rfl
  | cons c cs ih => rw [bytes_cons, pieces_utf8EncodeChar, ih, List.map_cons]

/-- The bytes of a text are shown as that text. -/
@[simp] theorem decode_encode (text : String) : decode (encode text) = text := by
  rw [decode, encode, pieces_bytes, List.map_map]
  have hshown : Piece.shown ∘ Piece.char = id := rfl
  rw [hshown, List.map_id, String.ofList_toList]

theorem encode_injective {a b : String} (h : encode a = encode b) : a = b := by
  rw [← decode_encode a, h, decode_encode]

theorem toList_decode (raw : List UInt8) : (decode raw).toList = (pieces raw).map Piece.shown :=
  String.toList_ofList

/-- A character that is shown is there, unless it stands for bytes that are not UTF-8. -/
theorem char_mem_pieces {c : Char} (h : c ∈ (decode raw).toList) (hc : c ≠ replacement) :
    .char c ∈ pieces raw := by
  rw [toList_decode] at h
  obtain ⟨piece, hpiece, rfl⟩ := List.mem_map.1 h
  cases piece with
  | char c => exact hpiece
  | broken broken => exact absurd rfl hc

/-- Bytes that are shown without a replacement character are those of what is shown. -/
theorem encode_decode_of_not_mem (h : replacement ∉ (decode raw).toList) :
    encode (decode raw) = raw := by
  have hpieces : ∀ piece ∈ pieces raw, String.utf8EncodeChar piece.shown = piece.run := by
    intro piece hpiece
    cases piece with
    | char c => rfl
    | broken broken =>
      refine absurd ?_ h
      rw [toList_decode]
      exact List.mem_map.2 ⟨_, hpiece, rfl⟩
  calc encode (decode raw)
      = (pieces raw).flatMap fun piece => String.utf8EncodeChar piece.shown := by
        rw [encode, toList_decode, bytes, List.flatMap_map]
    _ = (pieces raw).flatMap Piece.run := List.flatMap_congr hpieces
    _ = raw := flatMap_pieces raw

theorem eq_encode_of_decode {text : String} (h : decode raw = text)
    (hno : replacement ∉ text.toList) : raw = encode text := by
  rw [← h] at hno ⊢
  exact (encode_decode_of_not_mem hno).symm

/-- An ASCII character that is shown is among the bytes. -/
theorem mem_of_mem_encode_decode {d : Char} (hd : d.toNat < 128)
    (h : d.toUInt8 ∈ encode (decode raw)) : d.toUInt8 ∈ raw := by
  have hne : d ≠ replacement := by
    rintro rfl
    exact absurd hd (by decide)
  have hmem := char_mem_pieces ((mem_bytes_iff hd).1 h) hne
  rw [← flatMap_pieces raw]
  exact List.mem_flatMap.2 ⟨_, hmem, (mem_utf8EncodeChar_iff hd).2 rfl⟩

end Pieces

end OverlayChain.Text
