import OverlayChain.Url.Domain

/-!
# The server that a URL names

A URL says by its scheme and its authority which server it is about. Reading it follows the URL
standard as far as the host; what follows the authority cannot make it fail.

## Main definitions

- `Url`: the scheme and the host of a URL.
- `Url.parse?`: the reading of a text, `none` if it is not a URL.
-/

namespace OverlayChain

/-- The scheme of a URL and the shown form of its host. -/
structure Url where
  scheme : List Char
  host : Option (List Char)
  deriving DecidableEq

namespace Url

/-- How the text after a scheme is read. -/
inductive Kind where
  /-- A file of this machine: no server. -/
  | file
  /-- A URL of the web. -/
  | web
  /-- Any other URL. -/
  | other
  deriving DecidableEq

/-- The kind of URL that a scheme opens. -/
def Kind.ofScheme (scheme : List Char) : Kind :=
  if scheme = "file".toList then file
  else if ["http", "https", "ws", "wss", "ftp"].any fun name => name.toList = scheme then web
  else other

/-- A character that a scheme may hold after its first letter. -/
def isSchemeChar (c : Char) : Bool :=
  Text.isLetter c || Text.isDigit c || c == '+' || c == '-' || c == '.'

/-- The scheme in lower case, and what follows its colon. -/
def scheme? (cs : List Char) : Option (List Char × List Char) :=
  match Text.splitFirst? [':'] cs with
  | some (first :: others, rest) =>
    if Text.isLetter first && others.all isSchemeChar then
      some (Text.lower (first :: others), rest)
    else none
  | _ => none

/-- A character that ends the authority. -/
def endsAuthority (kind : Kind) (c : Char) : Bool :=
  c == '/' || c == '?' || c == '#' || (kind = .web && c == '\\')

/-- The authority without what stands before its last `@`, and whether a user was named there. -/
def withoutUser (authority : List Char) : List Char × Bool :=
  let host := Text.afterLast '@' authority
  let user := authority.take (authority.length - host.length - 1)
  (host, user != [] && user != [':'])

/-- The host part of an authority and what follows it. A colon in brackets is part of the host. -/
def splitHost (bracketed : Bool) : List Char → List Char × List Char
  | [] => ([], [])
  | c :: rest =>
    if c == ':' && !bracketed then ([], c :: rest)
    else
      let inside := if c == '[' then true else if c == ']' then false else bracketed
      let (host, after) := splitHost inside rest
      (c :: host, after)

/-- Whether a text is a port: digits that stay below 65536, or nothing. -/
def isPort (cs : List Char) : Bool :=
  cs.all Text.isDigit && (cs.foldl (fun n c => 10 * n + (c.toNat - '0'.toNat)) 0 ≤ 65535)

/-- The host of an authority; the outer `none` says that the URL is not valid. -/
def hostOfAuthority? (kind : Kind) (authority rest : List Char) :
    Option (Option (List Char)) :=
  let (server, named) := withoutUser authority
  let (text, port) := splitHost false server
  if authority.head? == some '@' && server.isEmpty && !rest.isEmpty && !named then none
  else
    let portOk := match port with
      | [] => true
      | _ :: digits => isPort (digits.takeWhile (· != '\\'))
    if !portOk then none
    else if text.isEmpty then
      if kind = .web || named || !port.isEmpty then none else some none
    else
      match kind with
      | .web => (webHost? text).map some
      | _ => (opaqueHost? text).map some

/-- The host that the text after the scheme names; the outer `none` says that the URL is not
valid. -/
def hostAfterScheme? (kind : Kind) (cs : List Char) : Option (Option (List Char)) :=
  match kind with
  | .file => some none
  | .web =>
    let cs := cs.dropWhile fun c => c == '/' || c == '\\'
    let authority := cs.takeWhile fun c => !endsAuthority kind c
    hostOfAuthority? kind authority (cs.drop authority.length)
  | .other =>
    match cs with
    | '/' :: '/' :: cs =>
      let authority := cs.takeWhile fun c => !endsAuthority kind c
      hostOfAuthority? kind authority (cs.drop authority.length)
    | _ => some none

/-- What is left of a text before it is read as a URL: blanks and control characters at the ends
go, and so do tabs and line ends anywhere. -/
def trimmed (cs : List Char) : List Char :=
  (Text.dropEnds (fun c => c.toNat ≤ 32) cs).filter fun c => c != '\t' && c != '\n' && c != '\r'

/-- Read a text as a URL. -/
def parse? (cs : List Char) : Option Url := do
  let (scheme, rest) ← scheme? (trimmed cs)
  let host ← hostAfterScheme? (Kind.ofScheme scheme) rest
  return ⟨scheme, host⟩

end Url

end OverlayChain
