import OverlayChain.Disk.Basic

/-!
# Walks over a disk

A path is walked step by step from a place. Every step but the last has to end in a directory, and
a link on the way is replaced by the steps that it stands for. A walk crosses no more than
`Disk.maxLinks` links, so links that lead in a circle end it.

## Main definitions

- `Disk.stepsOf`: the steps that a path asks for.
- `Disk.advance`: how far the steps lead without crossing a link.
- `Disk.walk`: where the steps lead.
- `Disk.find`: what is at a path.
-/

namespace OverlayChain.Disk

/-- The most links that a walk crosses. -/
def maxLinks : Nat := 40

/-- The step that a part of a path asks for. A part that says nothing still asks for a directory
to stand in. -/
def stepOf (part : List UInt8) : Component := (Component.ofPart? part).getD .here

/-- The steps that parts of a path ask for; an empty first part starts at the root. -/
def stepsOf : List (List UInt8) → List Component
  | [] :: parts => .root :: parts.map stepOf
  | parts => parts.map stepOf

/-- The parts of a path between separators. -/
def parts (bytes : List UInt8) : List (List UInt8) := bytes.splitOn slash

/-- How far steps lead without crossing a link. -/
inductive Progress where
  /-- All steps are taken. -/
  | arrived (place : Location)
  /-- All steps but the last are taken, and there is no entry at the last. -/
  | vacant (place : Location)
  | blocked (why : OsError)
  /-- A link in a directory stands for other steps, before those that are left. -/
  | crossing (dir : Location) (target : List UInt8) (rest : List Component)

/-- How far steps lead from a place without crossing a link. A link at the very end is crossed only
if `follow` says so. -/
def advance (disk : Disk) (follow : Bool) (place : Location) : List Component → Progress
  | [] => .arrived place
  | .root :: rest => disk.advance follow [] rest
  | .here :: rest =>
    if disk.isDirectory place then disk.advance follow place rest else .blocked .notADirectory
  | .up :: rest =>
    if disk.isDirectory place then disk.advance follow place.dropLast rest
    else .blocked .notADirectory
  | .named name :: rest =>
    if !disk.isDirectory place then .blocked .notADirectory
    else if maxNameBytes < name.bytes.length then .blocked .nameTooLong
    else
      let next := place ++ [name]
      match disk.entry? next with
      | none => if rest.isEmpty then .vacant next else .blocked .noEntry
      | some (.link target) =>
        if rest.isEmpty && !follow then .arrived next else .crossing place target rest
      | some _ => disk.advance follow next rest

/-- Where a walk ends. -/
inductive Reached where
  /-- At an entry. -/
  | present (place : Location)
  /-- At a place in a directory where there is no entry. -/
  | vacant (place : Location)

/-- Where steps lead if no more links may be crossed. -/
def Progress.final : Progress → Except OsError Reached
  | arrived place => .ok (.present place)
  | vacant place => .ok (.vacant place)
  | blocked why => .error why
  | crossing .. => .error .tooManyLinks

/-- Where steps lead from a place, with at most `links` links on the way. -/
def walk (disk : Disk) (follow : Bool) : (links : Nat) → Location → List Component →
    Except OsError Reached
  | 0, place, steps => (disk.advance follow place steps).final
  | links + 1, place, steps =>
    match disk.advance follow place steps with
    | .crossing dir target rest => disk.walk follow links dir (stepsOf (parts target) ++ rest)
    | progress => progress.final

/-- Whether the system takes a path at all: without a NUL byte, not empty and not too long. -/
def checkPath (path : Path) : Except OsError Unit :=
  if path.bytes.contains 0 then .error .embeddedNul
  else if path.bytes.isEmpty then .error .noEntry
  else if maxPathBytes < path.bytes.length then .error .nameTooLong
  else .ok ()

/-- The place from which a path is walked. -/
def start (disk : Disk) (path : Path) : Except OsError Location := do
  checkPath path
  if path.isAbsolute then return []
  match disk.workDir with
  | some dir => return dir
  | none => throw .noEntry

/-- Where a path leads. -/
def reach (disk : Disk) (follow : Bool) (path : Path) : Except OsError Reached := do
  let start ← disk.start path
  disk.walk follow maxLinks start (stepsOf (parts path.bytes))

/-- The place of the entry to which steps lead. -/
def Reached.entry : Reached → Except OsError Location
  | present place => .ok place
  | vacant _ => .error .noEntry

/-- The place of the entry to which a path leads, all links crossed. -/
def find (disk : Disk) (path : Path) : Except OsError Location := do
  (← disk.reach true path).entry

/-- The place of the directory to which a path leads, if it leads to one. -/
def findDirectory? (disk : Disk) (path : Path) : Option Location :=
  match disk.find path with
  | .ok place => if disk.isDirectory place then some place else none
  | .error _ => none

end OverlayChain.Disk
