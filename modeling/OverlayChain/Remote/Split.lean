import OverlayChain.Text.Ascii
import OverlayChain.Text.Search

/-!
# Cutting a remote reference into parts

A reference to a remote repository has a host part, a repository, an optional path inside the
repository and an optional query that names a branch or a tag. A `.git` that ends the name of
the repository marks the cut between repository and path; without one the repository has two
segments. A reference to a file of this machine holds an absolute path instead, and the cut is
marked by `//`.

## Main definitions

- `Remote.splitHost`: the normalized host part, and the rest.
- `Remote.Parts`: repository, path, query and suffix.
- `Remote.splitRepository`, `Remote.splitFile`: the cut of the rest.
-/

namespace OverlayChain.Remote

/-- What ends the name of a repository. -/
def gitSuffix : List Char := ".git".toList

/-- The openings of a host part, in the order in which they are taken off. A wrapped reference
has several of them. -/
def openings : List (List Char) :=
  ["git::", "ssh://", "https://", "http://", "git@", "github.com:", "github.com/", "file://"].map
    String.toList

/-- Take one opening off the rest and put it to the host part. The rest never becomes empty. -/
def takeOpening (cut : List Char × List Char) (opening : List Char) : List Char × List Char :=
  if opening.length < cut.2.length then
    match Text.dropPrefixIgnoringCase? opening cut.2 with
    | some rest => (cut.1 ++ opening, rest)
    | none => cut
  else cut

/-- The host part as it is used from then on. All spellings of the best known host become one of
two, and a wrapper that only says that this is a repository goes. -/
def normalizeHost (host : List Char) : List Char :=
  let folded := Text.lower host
  if Text.occurs "github.com".toList folded then
    if Text.occurs "git@".toList folded || Text.occurs "ssh:".toList folded then
      "git@github.com:".toList
    else "https://github.com/".toList
  else
    match Text.dropPrefix? "git::".toList folded with
    | some unwrapped => unwrapped
    | none => host

/-- Move the text up to the first character of the class to the host part. -/
def takeThrough (inClass : Char → Bool) (host rest : List Char) : List Char × List Char :=
  match Text.splitAtClass? inClass rest with
  | some (before, c, after) => (host ++ before ++ [c], after)
  | none => (host, rest)

/-- Whether a text ends with a pattern. -/
def endsWith (pattern cs : List Char) : Bool := pattern.reverse.isPrefixOf cs.reverse

/-- The text without a user name at its end. -/
def withoutUser (host : List Char) : List Char :=
  match Text.dropPrefix? "git@".toList.reverse host.reverse with
  | some rest => rest.reverse
  | none => host

/-- Whether a host part ends with a scheme, so that the server still has to be cut off. -/
def endsWithScheme (host : List Char) : Bool :=
  ["ssh://", "https://", "http://"].any fun scheme => endsWith scheme.toList (withoutUser host)

/-- The normalized host part of a reference, and the rest. Empty if there is no host part. -/
def splitHost (reference : List Char) : List Char × List Char :=
  let (host, rest) := openings.foldl takeOpening ([], reference)
  if host = "git@".toList then takeThrough (fun c => c == ':' || c == '/') host rest
  else
    let (host, rest) := if endsWithScheme host then takeThrough (· == '/') host rest else (host, rest)
    (normalizeHost host, rest)

/-- What the rest of a reference says: the repository, the path inside it, the branch or tag,
and whether the repository was written with its suffix. -/
structure Parts where
  repository : List Char
  path : List Char
  ref : Option (List Char)
  suffixed : Bool
  deriving DecidableEq

/-- The parts of a rest that names no repository. -/
def Parts.none : Parts := ⟨[], [], .none, false⟩

/-- Cut a query off: the first one that says `ref`, or else the first that says `version`. -/
def peelQuery (cs : List Char) : List Char × Option (List Char) :=
  match Text.splitFirst? "?ref=".toList cs with
  | some (before, ref) => (before, some ref)
  | none =>
    match Text.splitFirst? "?version=".toList cs with
    | some (before, ref) => (before, some ref)
    | none => (cs, none)

/-- Whether a suffix followed by this text ends a name. -/
def endsName (after : List Char) : Bool :=
  match after.head? with
  | none => true
  | some c => c == '/' || c == '?'

/-- The text before and the text after the first suffix that ends a name. -/
def splitSuffix? : List Char → Option (List Char × List Char)
  | [] => none
  | c :: rest =>
    match (Text.dropPrefix? gitSuffix (c :: rest)).filter endsName with
    | some after => some ([], after)
    | none => (splitSuffix? rest).map fun cut => (c :: cut.1, cut.2)

/-- Cut the rest of a reference to a server. -/
def splitRepository (rest : List Char) : Parts :=
  match splitSuffix? rest with
  | some (repository, after) =>
    let (path, ref) := peelQuery after
    ⟨repository, path, ref, true⟩
  | none =>
    match Text.splitFirst? ['/'] rest with
    | none => .none
    | some ([], _) => .none
    | some (owner, below) =>
      match Text.splitFirst? ['/'] below with
      | some (name, below) =>
        let (path, ref) := peelQuery below
        ⟨owner ++ '/' :: name, path, ref, false⟩
      | none =>
        let (repository, ref) := peelQuery rest
        ⟨repository, [], ref, false⟩

/-- Cut the rest of a reference to a file of this machine. -/
def splitFile (rest : List Char) : Parts :=
  let (rest, ref) := peelQuery rest
  match rest with
  | '/' :: below =>
    match Text.splitFirst? ['/', '/'] below with
    | some (repository, path) => ⟨'/' :: repository, path, ref, false⟩
    | none =>
      match splitSuffix? rest with
      | some (repository, path) => ⟨repository, path, ref, true⟩
      | none => ⟨rest, [], ref, false⟩
  | _ => .none

end OverlayChain.Remote
