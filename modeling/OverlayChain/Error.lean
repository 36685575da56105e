import OverlayChain.Path.Lexical
import OverlayChain.Text.Quoted

/-!
# Errors

Every way in which a request to the chain is refused or fails, as a cause, with the sentence
that reports it.

## Main definitions

- `OsError`: why an operation of the operating system failed.
- `IoError`: a failed read, removal or creation.
- `Error`: the cause of a failure.
- `Error.message`: its report.
- `Error.isSecurity`: the causes that are violations of a security rule of the chain.
-/

namespace OverlayChain

/-- Why an operation of the operating system failed. -/
inductive OsError where
  | noEntry
  | permissionDenied
  | busy
  | alreadyExists
  | notADirectory
  | isADirectory
  | invalidArgument
  | nameTooLong
  | notEmpty
  | tooManyLinks
  /-- The path has a NUL character, so no system call can take it. -/
  | embeddedNul
  /-- An argument of a command has a NUL character. -/
  | nulInArgument
  /-- Any other reason, by its report. -/
  | other (report : String)
  deriving DecidableEq

/-- The report of a failed operation; system errors end with their number. -/
def OsError.message : OsError → String
  | .noEntry => "No such file or directory (os error 2)"
  | .permissionDenied => "Permission denied (os error 13)"
  | .busy => "Device or resource busy (os error 16)"
  | .alreadyExists => "File exists (os error 17)"
  | .notADirectory => "Not a directory (os error 20)"
  | .isADirectory => "Is a directory (os error 21)"
  | .invalidArgument => "Invalid argument (os error 22)"
  | .nameTooLong => "File name too long (os error 36)"
  | .notEmpty => "Directory not empty (os error 39)"
  | .tooManyLinks => "Too many levels of symbolic links (os error 40)"
  | .embeddedNul => "file name contained an unexpected NUL byte"
  | .nulInArgument => "nul byte found in provided data"
  | .other report => report

/-- A failed read, removal or creation. -/
inductive IoError where
  /-- A file store has no file at the path. -/
  | absent (path : Path)
  /-- The operating system refused. -/
  | os (cause : OsError)
  /-- The operating system refused to create the path. -/
  | creating (path : Path) (cause : OsError)
  deriving DecidableEq

namespace IoError

/-- The report of a failed read, removal or creation. -/
def message : IoError → String
  | absent path => s!"file not found: {path}"
  | os cause => cause.message
  | creating path cause => s!"{cause.message} at path {Text.quotedPath path.bytes}"

/-- Whether the failure says that there is nothing at the path. -/
def isAbsence : IoError → Bool
  | absent _ => true
  | os cause => cause == .noEntry
  | creating _ cause => cause == .noEntry

end IoError

/-- The cause of a failure. -/
inductive Error where
  /-- A root was the empty text. -/
  | emptyPath (what : String)
  /-- A local base was an absolute path. -/
  | absoluteBase (path : String)
  /-- A root turned out to be a file. -/
  | notADirectory (path file : String)
  /-- A base lies outside the clone that declares it. -/
  | outsideClone (base cloneDir : Path)
  /-- A local base is, or contains, a root that is on the chain. -/
  | directoryCycle (candidate visited : Path)
  /-- A remote base overlaps a repository that is on the chain. -/
  | repositoryCycle (uri previous : String)
  /-- The read policy refuses a path outside the root. -/
  | outsideRoot (path root : Path)
  /-- The read policy needs a file, and the path is a directory. -/
  | notAFile (path : Path)
  /-- A remote reference has no clone yet. -/
  | notCloned (uri : String)
  /-- None of the overlay file names is a file of the root. -/
  | noOverlayFile (root : Path) (names : List String)
  /-- A declared value breaks a rule. -/
  | invalidValue (field value message : String)
  /-- A repository could not be cloned. -/
  | cloneFailed (url ref message : String) (hint : Option String)
  /-- A command of the version control system failed. -/
  | gitFailed (command url stderr : String)
  /-- The file system could not resolve or change a path. -/
  | unresolved (message : String)
  /-- A read, removal or creation failed. -/
  | io (cause : IoError)
  /-- An overlay file is not the expected YAML. -/
  | malformedOverlay
  /-- A lock was left behind by a thread that died. -/
  | brokenLock (context : String)
  deriving DecidableEq

namespace Error

/-- The sentence that reports a failure. -/
def message : Error → String
  | emptyPath what => s!"{what} cannot be empty"
  | absoluteBase path => s!"new root '{path}' cannot be absolute"
  | notADirectory path file => s!"got file '{file}', but '{path}' must be a directory to be a root"
  | outsideClone base cloneDir =>
    "security; bases in overlays found in cloned repos must be within the repo, " ++
      s!"but base '{base}' is outside '{cloneDir}'"
  | directoryCycle candidate visited =>
    s!"cycle detected: candidate root '{candidate}' contains visited root '{visited}'"
  | repositoryCycle uri previous =>
    s!"cycle detected: URI '{uri}' referenced by previous URI '{previous}'"
  | outsideRoot path root => s!"security; file '{path}' is not in or below '{root}'"
  | notAFile path => s!"'{path}' must resolve to a file"
  | notCloned uri => s!"repository '{uri}' has not been cloned"
  | noOverlayFile root names =>
    let tried := String.intercalate ", " names
    s!"no overlay file ({tried}) found in '{root}'"
  | invalidValue field value message => s!"Validation error: {field} '{value}': {message}"
  | cloneFailed url ref message hint =>
    s!"Git clone error for {url}@{ref}: {message}" ++
      match hint with
      | some hint => s!"\n  hint: {hint}"
      | none => ""
  | gitFailed command url stderr => s!"Git command failed for {url}: {command} - {stderr}"
  | unresolved message => s!"Filesystem operation error: {message}"
  | io cause => s!"I/O error: {cause.message}"
  | malformedOverlay => "YAML parsing error"
  | brokenLock context => s!"Lock poisoned: {context}"

/-- The failures that are violations of a security rule of the chain. -/
def isSecurity : Error → Bool
  | outsideClone .. | directoryCycle .. | repositoryCycle .. | outsideRoot .. => true
  | _ => false

end Error

end OverlayChain
