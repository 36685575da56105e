import OverlayChain.Text.Utf8
import OverlayChain.Unicode.Escaped

/-!
# Quoted text

A text between double quotes, in which every character that would not be seen is written out.
A file path also escapes the single quote, and bytes that are no character are written as such.

## Main definitions

- `Text.quoted`: a text between quotes.
- `Text.quotedPath`: a file path between quotes.
-/

namespace OverlayChain.Text

/-- The hexadecimal digits of a code point, without leading zeros. -/
def hexDigits (n : Nat) : List Char := Nat.toDigits 16 n

/-- The written form of one character between quotes; `escapeSingle` says whether a single quote
is escaped too. -/
def quotedChar (escapeSingle : Bool) (c : Char) : List Char :=
  match c with
  | '\x00' => ['\\', '0']
  | '\t' => ['\\', 't']
  | '\r' => ['\\', 'r']
  | '\n' => ['\\', 'n']
  | '"' => ['\\', '"']
  | '\\' => ['\\', '\\']
  | '\x27' => if escapeSingle then ['\\', '\x27'] else ['\x27']
  | c =>
    if Unicode.hasNoGlyph c then ['\\', 'u', '\x7b'] ++ hexDigits c.toNat ++ ['\x7d'] else [c]

/-- A text between double quotes. -/
def quoted (s : String) : String :=
  String.ofList ('"' :: s.toList.flatMap (quotedChar false) ++ ['"'])

/-- A byte as two hexadecimal digits. -/
def hexByte (byte : UInt8) : List Char :=
  [(Nat.digitChar (byte.toNat / 16)).toUpper, (Nat.digitChar (byte.toNat % 16)).toUpper]

/-- The written form of a piece of a file path between quotes. -/
def quotedPiece : Piece → List Char
  | .char c => quotedChar true c
  | .broken run => run.flatMap fun byte => ['\\', 'x'] ++ hexByte byte

/-- The bytes of a file path between double quotes. -/
def quotedPath (raw : List UInt8) : String :=
  String.ofList ('"' :: (pieces raw).flatMap quotedPiece ++ ['"'])

end OverlayChain.Text
