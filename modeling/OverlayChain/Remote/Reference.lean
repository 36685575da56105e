import OverlayChain.FileSystem
import OverlayChain.Remote.Split
import OverlayChain.Url.Basic

/-!
# Remote references

A base of an overlay is a local directory or a reference to a remote repository. A text is a
remote reference if it has a host part and names a repository.

Different spellings of one repository share an identity: the server, the repository and the path
inside it, without branch or tag. Two references overlap if the identity of one begins with the
identity of the other.

## Main definitions

- `RemoteRef`: a reference to a remote repository.
- `RemoteRef.parse?`: the reading of a text, `none` for a local directory.
- `RemoteRef.cloneUrl`, `RemoteRef.identity`: what is cloned, and under which name it is known.
- `RemoteRef.overlaps`: the relation that counts as "already visited".
-/

namespace OverlayChain

/-- A reference to a remote repository. -/
structure RemoteRef where
  /-- The reference as it was written. -/
  raw : String
  /-- The normalized host part. -/
  host : String
  /-- The repository. -/
  repository : String
  /-- The directory inside the repository, empty for its top. -/
  path : String
  /-- The branch or the tag. -/
  ref : Option String
  /-- Whether the repository was written with its suffix. -/
  suffixed : Bool
  deriving DecidableEq

namespace RemoteRef

/-- The host part of a reference to a file of this machine. -/
def fileHost : List Char := "file://".toList

/-- Read a text as a remote reference. -/
def parse? (text : String) : Option RemoteRef :=
  if text.isEmpty || (Path.mk text).isAbsolute then none
  else
    let (host, rest) := Remote.splitHost text.toList
    if host.isEmpty then none
    else
      let parts := if host = fileHost then Remote.splitFile rest else Remote.splitRepository rest
      if parts.repository.isEmpty then none
      else some {
        raw := text
        host := String.ofList host
        repository := String.ofList parts.repository
        path := String.ofList (Text.dropEnds (· == '/') parts.path)
        ref := (parts.ref.filter fun ref => !ref.isEmpty).map String.ofList
        suffixed := parts.suffixed }

/-- The URL from which the repository is cloned. -/
def cloneUrl (r : RemoteRef) : String :=
  r.host ++ r.repository ++ if r.suffixed then String.ofList Remote.gitSuffix else ""

/-- The branch or tag to fetch. -/
def refOrHead (r : RemoteRef) : String := r.ref.getD "HEAD"

/-- The server as the host part spells it: what is left without schemes and user. -/
def writtenDomain (host : List Char) : List Char :=
  let bare := ["ssh://", "https://", "http://", "git@"].foldl
    (fun domain opening => (Text.dropPrefix? opening.toList domain).getD domain) host
  Text.dropEndWhile (fun c => c == '/' || c == ':') bare

/-- The server in lower case: as the clone URL names it, or else as the host part spells it.
A file of this machine has none. -/
def domain? (r : RemoteRef) : Option (List Char) :=
  let written := (some (writtenDomain r.host.toList)).filter fun domain => !domain.isEmpty
  let named := match Url.parse? r.cloneUrl.toList with
    | none => written
    | some url =>
      if url.scheme = "file".toList then none
      else url.host.or written
  named.map Text.lower

/-- The name under which a repository and a path inside it are known. -/
def identity (r : RemoteRef) : String :=
  let repository := Text.dropEnds (· == '/') r.repository.toList
  let top := (r.domain?).getD [] ++ '/' :: repository
  String.ofList (if r.path.isEmpty then top else top ++ '/' :: r.path.toList)

/-- The identity of one reference begins with the identity of the other. -/
def overlaps (a b : RemoteRef) : Bool :=
  a.identity.toList.isPrefixOf b.identity.toList || b.identity.toList.isPrefixOf a.identity.toList

/-- The place of the reference in its clone. -/
def placeIn (r : RemoteRef) (clone : Option Directory) : Except Error Path :=
  match clone with
  | some dir => .ok (dir.join ⟨r.path⟩)
  | none => .error (.notCloned r.raw)

end RemoteRef

end OverlayChain
