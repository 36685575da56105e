import OverlayChain.Url.International
import OverlayChain.Url.Ipv4
import OverlayChain.Url.Ipv6

/-!
# Hosts of URLs

The host of a URL on the web is an address or a domain name, which is put into its ASCII form;
the host of any other URL is an address or an opaque text.

## Main definitions

- `Url.domain?`: the ASCII form of a domain name.
- `Url.webHost?`, `Url.opaqueHost?`: the shown form of a host.
-/

namespace OverlayChain.Url

/-- Characters that no domain name holds. -/
def isForbiddenInDomain (c : Char) : Bool :=
  c.toNat ≤ 32 || c.toNat == 127 ||
    ['%', '#', '/', ':', '<', '>', '?', '@', '[', '\\', ']', '^', '|'].contains c

/-- Characters that no opaque host holds. -/
def isForbiddenInOpaque (c : Char) : Bool :=
  ['\x00', '\t', '\n', '\r', ' ', '#', '/', ':', '<', '>', '?', '@', '[', '\\', ']', '^', '|'].contains c

/-- Replace each `%` that two hexadecimal digits follow by the byte that they spell. -/
def percentDecode : List UInt8 → List UInt8
  | 0x25 :: a :: b :: rest =>
    match Text.hexValue? (Char.ofNat a.toNat), Text.hexValue? (Char.ofNat b.toNat) with
    | some high, some low => UInt8.ofNat (16 * high + low) :: percentDecode rest
    | _, _ => 0x25 :: percentDecode (a :: b :: rest)
  | byte :: rest => byte :: percentDecode rest
  | [] => []

/-- A byte as `%` and two hexadecimal digits. -/
def percentByte (byte : UInt8) : List Char :=
  let digit (n : Nat) : Char := (Nat.digitChar n).toUpper
  ['%', digit (byte.toNat / 16), digit (byte.toNat % 16)]

/-- Write control characters and characters outside ASCII as percent signs and digits. -/
def percentEncodeControls (cs : List Char) : List Char :=
  cs.flatMap fun c =>
    if 32 ≤ c.toNat && c.toNat < 127 then [c]
    else c.toString.toUTF8.toList.flatMap percentByte

/-- A name of ASCII characters in which no label is already in the ASCII form of another one. -/
def isPlain (cs : List Char) : Bool :=
  cs.all isAscii && !((Text.lower cs).splitOn '.').any asciiOpening.isPrefixOf

/-- The ASCII form of a domain name. A plain name only loses its case. -/
def domain? (cs : List Char) : Option (List Char) :=
  if cs.any isForbiddenInDomain then none
  else if isPlain cs then some (Text.lower cs)
  else asciiForm? isForbiddenInDomain cs

/-- The shown form of an address in brackets. -/
def bracketed? (cs : List Char) : Option (List Char) :=
  if cs.getLast? == some ']' then (ipv6Groups? cs.tail.dropLast).map ipv6Text else none

/-- The shown form of the host of a URL on the web. -/
def webHost? (cs : List Char) : Option (List Char) :=
  if cs.head? == some '[' then bracketed? cs
  else
    match String.fromUTF8? (percentDecode (String.ofList cs).toUTF8.toList).toByteArray with
    | none => none
    | some decoded =>
      match domain? decoded.toList with
      | none => none
      | some [] => none
      | some name => if endsInNumber name then ipv4? name else some name

/-- The shown form of the host of any other URL. -/
def opaqueHost? (cs : List Char) : Option (List Char) :=
  if cs.head? == some '[' then bracketed? cs
  else if cs.any isForbiddenInOpaque then none
  else some (percentEncodeControls cs)

end OverlayChain.Url
