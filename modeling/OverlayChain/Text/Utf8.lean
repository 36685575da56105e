/-!
# Texts and bytes

A text has its bytes. Bytes need not be those of a text: the longest runs of them that begin a
character without spelling it are shown as a replacement character each.

## Main definitions

- `Text.bytes`, `Text.encode`: the bytes of a text.
- `Text.Piece`, `Text.pieces`: characters, and the runs of bytes that spell none.
- `Text.decode`, `Text.decodeLossy`: bytes as text, with the replacement character for each such run.
-/

namespace OverlayChain.Text

/-- The bytes of characters. -/
def bytes (cs : List Char) : List UInt8 := cs.flatMap String.utf8EncodeChar

/-- The bytes of a text. -/
def encode (text : String) : List UInt8 := bytes text.toList

/-- The character that stands for bytes that are not UTF-8. -/
def replacement : Char := '\ufffd'

/-- A character, or bytes that begin one and do not spell it. -/
inductive Piece where
  | char (c : Char)
  | broken (run : List UInt8)

/-- The character that shows a piece. -/
def Piece.shown : Piece → Char
  | char c => c
  | broken _ => replacement

/-- How the bytes after a leading byte may go on: how many there are, and the bounds of the first
of them. -/
def continuation? (lead : UInt8) : Option (Nat × UInt8 × UInt8) :=
  if 0xc2 ≤ lead && lead ≤ 0xdf then some (1, 0x80, 0xbf)
  else if lead == 0xe0 then some (2, 0xa0, 0xbf)
  else if lead == 0xed then some (2, 0x80, 0x9f)
  else if 0xe1 ≤ lead && lead ≤ 0xef then some (2, 0x80, 0xbf)
  else if lead == 0xf0 then some (3, 0x90, 0xbf)
  else if 0xf1 ≤ lead && lead ≤ 0xf3 then some (3, 0x80, 0xbf)
  else if lead == 0xf4 then some (3, 0x80, 0x8f)
  else none

/-- How many of the bytes go on the character that the leading byte opened: the first has bounds
of its own, the others those of every continuation byte. -/
def goodRun (low high : UInt8) : Nat → List UInt8 → Nat
  | 0, _ => 0
  | _, [] => 0
  | n + 1, byte :: rest =>
    if low ≤ byte && byte ≤ high then 1 + goodRun 0x80 0xbf n rest else 0

/-- How many bytes after a leading byte go on the character that it opened. -/
def runAfter (lead : UInt8) (rest : List UInt8) : Nat :=
  match continuation? lead with
  | none => 0
  | some (n, low, high) => goodRun low high n rest

/-- The piece that a leading byte opens, and the number of bytes after the first that it takes. A
character has at most three of them. -/
def pieceAt (lead : UInt8) (rest : List UInt8) : Piece × Nat :=
  match (lead :: rest.take 3).toByteArray.utf8DecodeChar? 0 with
  | some c => (.char c, c.utf8Size - 1)
  | none => (.broken (lead :: rest.take (runAfter lead rest)), runAfter lead rest)

/-- The pieces of bytes, of which the first `skip` ones are passed over. -/
def piecesAfter : (skip : Nat) → List UInt8 → List Piece
  | _, [] => []
  | skip + 1, _ :: rest => piecesAfter skip rest
  | 0, lead :: rest => (pieceAt lead rest).1 :: piecesAfter (pieceAt lead rest).2 rest

/-- The pieces of bytes. -/
def pieces (run : List UInt8) : List Piece := piecesAfter 0 run

/-- Bytes as text, with the replacement character for each run that is not UTF-8. -/
def decode (run : List UInt8) : String := String.ofList ((pieces run).map Piece.shown)

/-- An array of bytes as text, with the replacement character for each run that is not UTF-8. -/
def decodeLossy (content : ByteArray) : String := decode content.data.toList

end OverlayChain.Text
