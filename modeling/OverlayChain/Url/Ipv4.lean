import OverlayChain.Text.Ascii

/-!
# IPv4 addresses in URLs

A host whose last part looks like a number is an IPv4 address. Its parts may be decimal, octal
(after `0`) or hexadecimal (after `0x`), and the last part fills all bytes that are left.

## Main definitions

- `Url.endsInNumber`: whether a host is to be read as an address.
- `Url.ipv4?`: the address in dotted decimal form.
-/

namespace OverlayChain.Url

/-- Read digits in a base; no digits at all are zero. -/
def numberIn? (base : Nat) (cs : List Char) : Option Nat :=
  cs.foldl (fun total c =>
    match total, Text.hexValue? c with
    | some n, some d => if d < base then some (base * n + d) else none
    | _, _ => none) (some 0)

/-- Read one part of an address: hexadecimal after `0x`, octal after `0`, decimal otherwise. -/
def ipv4Number? : List Char → Option Nat
  | [] => none
  | '0' :: 'x' :: digits => numberIn? 16 digits
  | '0' :: 'X' :: digits => numberIn? 16 digits
  | '0' :: d :: digits => numberIn? 8 (d :: digits)
  | digits => numberIn? 10 digits

/-- The parts between dots, without one empty part at the end. -/
def hostParts (cs : List Char) : List (List Char) :=
  let parts := cs.splitOn '.'
  if parts.getLast? == some [] then parts.dropLast else parts

/-- Whether the last part of a host is a number, so that the host has to be an address. -/
def endsInNumber (cs : List Char) : Bool :=
  match (hostParts cs).getLast? with
  | none => false
  | some last => (!last.isEmpty && last.all Text.isDigit) || (ipv4Number? last).isSome

/-- The value of an address from the values of its parts. -/
def ipv4Value? (numbers : List Nat) : Option Nat :=
  match numbers.getLast? with
  | none => none
  | some last =>
    let leading := numbers.dropLast
    if numbers.length ≤ 4 && leading.all (· ≤ 255) && last < 1 <<< (8 * (4 - leading.length)) then
      some (leading.foldl (fun n part => 256 * n + part) 0 <<< (8 * (4 - leading.length)) + last)
    else none

/-- The dotted decimal form of an address. -/
def ipv4Text (value : Nat) : List Char :=
  let byte (i : Nat) : String := toString ((value >>> (8 * i)) % 256)
  (String.intercalate "." [byte 3, byte 2, byte 1, byte 0]).toList

/-- The dotted decimal form of the address that a host spells. -/
def ipv4? (cs : List Char) : Option (List Char) := do
  let numbers ← (hostParts cs).mapM ipv4Number?
  let value ← ipv4Value? numbers
  return ipv4Text value

end OverlayChain.Url
