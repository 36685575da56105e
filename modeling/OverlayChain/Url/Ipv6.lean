import OverlayChain.Url.Ipv4
import OverlayChain.Text.Search

/-!
# IPv6 addresses in URLs

Eight groups of hexadecimal digits with colons between them. One `::` stands for at least one
group of zero, and the last two groups may be written as four decimal bytes.

## Main definitions

- `Url.ipv6Groups?`: the eight groups that a text spells.
- `Url.ipv6Text`: the form in which an address is shown: lower case, the longest run of at least
  two zero groups as `::`.
-/

namespace OverlayChain.Url

/-- One group: one to four hexadecimal digits. -/
def ipv6Group? (cs : List Char) : Option Nat :=
  if !cs.isEmpty && cs.length ≤ 4 && cs.all fun c => (Text.hexValue? c).isSome then
    some (Text.hexNumber cs)
  else none

/-- One decimal byte, without leading zeros. -/
def decimalByte? (cs : List Char) : Option Nat :=
  if cs.length > 1 && cs.head? == some '0' then none
  else if cs.isEmpty || cs.length > 3 then none
  else (numberIn? 10 cs).filter (· ≤ 255)

/-- The last part of an address: one group, or two groups as four decimal bytes. -/
def ipv6Tail? (cs : List Char) : Option (List Nat) :=
  match (cs.splitOn '.').mapM decimalByte? with
  | some [a, b, c, d] => some [256 * a + b, 256 * c + d]
  | _ => (ipv6Group? cs).map fun group => [group]

/-- Groups with colons between them; only the last part may hold decimal bytes. -/
def ipv6Parts? : List (List Char) → Option (List Nat)
  | [] => some []
  | [last] => ipv6Tail? last
  | part :: parts => do
    let group ← ipv6Group? part
    let groups ← ipv6Parts? parts
    return group :: groups

/-- The groups of a text without `::`; the empty text has none. -/
def ipv6Run? (cs : List Char) : Option (List Nat) :=
  if cs.isEmpty then some [] else ipv6Parts? (cs.splitOn ':')

/-- The eight groups that a text spells. -/
def ipv6Groups? (cs : List Char) : Option (List Nat) :=
  match Text.splitFirst? [':', ':'] cs with
  | none => do
    let groups ← ipv6Run? cs
    if groups.length = 8 then some groups else none
  | some (before, after) => do
    let left ← if before.contains '.' then none else ipv6Run? before
    let right ← ipv6Run? after
    if left.length + right.length ≤ 7 then
      some (left ++ List.replicate (8 - left.length - right.length) 0 ++ right)
    else none

/-- The number of zero groups at the start. -/
def zeroRun (groups : List Nat) : Nat := (groups.takeWhile (· == 0)).length

/-- The first longest run of at least two zero groups: where it starts and how long it is. -/
def longestZeroRun (groups : List Nat) : Option (Nat × Nat) :=
  let runs := (List.range groups.length).map fun i => (i, zeroRun (groups.drop i))
  runs.foldl (fun best run =>
    let length := match best with
      | some found => found.2
      | none => 1
    if length < run.2 then some run else best) none

/-- Groups in lower case hexadecimal with colons between them. -/
def colonJoined (groups : List Nat) : List Char :=
  [':'].intercalate (groups.map (Nat.toDigits 16))

/-- The shown form of an address, in brackets. -/
def ipv6Text (groups : List Nat) : List Char :=
  let inner := match longestZeroRun groups with
    | none => colonJoined groups
    | some (start, length) =>
      colonJoined (groups.take start) ++ [':', ':'] ++ colonJoined (groups.drop (start + length))
  '[' :: inner ++ [']']

end OverlayChain.Url
