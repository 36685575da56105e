import OverlayChain.Clone.Basic
import OverlayChain.Log.Record
import OverlayChain.ReadPolicy
import OverlayChain.Validator

/-!
# The loader chain

A loader is an overlay's only way to files. It has a root, reads files under a policy, and makes
child loaders for bases. A base is a directory relative to the root, or a remote reference, whose
child is rooted in a clone.

Every loader knows the loaders above it. A base is refused if its repository overlaps one on the
chain, if its directory is or contains a root on the chain, or if it lies outside the clone that
declares it.

## Main definitions

- `Env`: the file system and the cloner that all loaders of a chain share.
- `Loader.Node`, `Loader`: what a loader is rooted in; a loader with those above it.
- `Loader.origin`, `Loader.child`: the two ways in which loaders come to be.
- `Loader.load`: read a file.
- `Loader.cleanup`, `Loader.released`: give up the clone that a loader owns.
-/

namespace OverlayChain

/-- What all loaders of a chain share. -/
structure Env (σ : Type) where
  fs : FileSystem σ
  cloner : Cloner σ
  /-- Take note of a record. -/
  log : Log.Record → σ → σ

/-- What a loader is rooted in. -/
structure Loader.Node where
  /-- The directory from which relative paths start. -/
  root : Directory
  policy : ReadPolicy
  /-- The clone, if the loader was made for a remote reference. -/
  source : Option Clone
  deriving DecidableEq

/-- A loader and the loaders above it, the nearest first. -/
structure Loader where
  node : Loader.Node
  ancestors : List Loader.Node
  validator : Validator
  /-- The clone directory that this loader owns and has not given up. -/
  lease : Option Directory

namespace Loader

variable {σ : Type}

/-- Take note of what a loader does. -/
def report (env : Env σ) (level : Log.Level) (message : String) : Action σ Unit :=
  Action.update (env.log ⟨level, .loader, message⟩)

/-- The directory from which relative paths start. -/
def root (loader : Loader) : Directory := loader.node.root

/-- The loader and those above it, the loader first. -/
def lineage (loader : Loader) : List Node := loader.node :: loader.ancestors

/-- The number of loaders above. -/
def depth (loader : Loader) : Nat := loader.ancestors.length

/-- The nearest clone on the chain. -/
def nearestClone? (loader : Loader) : Option Clone := loader.lineage.findSome? Node.source

/-- The first loader of a chain, rooted at a path. -/
def origin (env : Env σ) (validator : Validator) (policy : ReadPolicy) (path : Path) :
    Action σ Loader := do
  let root ← env.fs.admitRoot path
  return ⟨⟨root, policy, none⟩, [], validator, none⟩

/-- Refuse a directory outside a clone. -/
def checkWithin (clone : Option Directory) (root : Directory) : Except Error Unit :=
  match clone with
  | some dir =>
    if root.isWithin dir.path then .ok () else .error (.outsideClone root.path dir.path)
  | none => .ok ()

/-- Refuse a directory that is or contains a root on the chain; the nearest such root is named. -/
def checkDirectory (loader : Loader) (candidate : Directory) : Except Error Unit :=
  match loader.lineage.find? fun node => node.root.isWithin candidate.path with
  | some visited => .error (.directoryCycle candidate.path visited.root.path)
  | none => .ok ()

/-- Refuse a reference that overlaps a repository on the chain; the nearest such is named. -/
def checkRepository (loader : Loader) (ref : RemoteRef) : Except Error Unit :=
  match (loader.lineage.filterMap Node.source).find? fun seen => seen.ref.overlaps ref with
  | some seen => .error (.repositoryCycle ref.identity seen.ref.identity)
  | none => .ok ()

/-- The child of a loader, with what it is rooted in and the clone it owns. -/
def extend (loader : Loader) (node : Node) (lease : Option Directory) : Loader :=
  ⟨node, loader.lineage, loader.validator, lease⟩

/-- The child for a local base. It inherits the policy. -/
def localChild (env : Env σ) (loader : Loader) (base : String) : Action σ Loader := do
  report env .trace s!"'{base}' is a local base"
  if (Path.mk base).isAbsolute then throw (.absoluteBase base)
  let root ← env.fs.admitRoot (loader.root.join ⟨base⟩)
  Action.check (checkWithin (loader.nearestClone?.map Clone.dir) root)
  Action.check (loader.checkDirectory root)
  report env .debug s!"new loader at {root} (from {loader.root})"
  return loader.extend ⟨root, loader.node.policy, none⟩ none

/-- Find the root of a reference in its clone. It has to be a directory of the clone. -/
def rootInClone (env : Env σ) (ref : RemoteRef) (clone : Option Directory) :
    Action σ Directory := do
  let path ← Action.check (ref.placeIn clone)
  let root ← env.fs.admitRoot path
  Action.check (checkWithin clone root)
  return root

/-- Remove a clone directory, if there is one. -/
def release (env : Env σ) (clone : Option Directory) : Action σ Unit :=
  match clone with
  | some dir => env.fs.remove dir.path
  | none => pure ()

/-- The child for a remote reference, rooted in a fresh clone that it owns. It is the child for the
reference as the cloner left it, and it reads only files of its own root. The clone is released if it
cannot be a root. -/
def remoteChild (env : Env σ) (loader : Loader) (ref : RemoteRef) : Action σ Loader := do
  report env .debug s!"cloning '{ref.cloneUrl}' for {loader.root}"
  let left ← env.cloner.take env.fs ref
  match ← Action.attempt (rootInClone env left.ref left.dir) with
  | .ok root =>
    report env .debug s!"new loader at {root} (clone of '{left.ref.raw}')"
    return loader.extend ⟨root, .confined, left.clone?⟩ left.dir
  | .error error =>
    match ← Action.attempt (release env left.dir) with
    | .ok _ => throw error
    | .error removal =>
      report env .warn s!"failed to release clone of '{left.ref.raw}': {removal.message}"
      throw error

/-- The child of a loader for a base: a remote reference is cloned, anything else is a directory
relative to the root. -/
def child (env : Env σ) (loader : Loader) (base : String) : Action σ Loader :=
  if base.isEmpty then throw (.emptyPath "new root")
  else
    match RemoteRef.parse? base with
    | some ref => do
      report env .trace s!"'{base}' is a remote base"
      Action.check (loader.checkRepository ref)
      loader.remoteChild env ref
    | none => loader.localChild env base

/-- Read a file. A relative path is taken from the root. -/
def load (env : Env σ) (loader : Loader) (path : Path) : Action σ ByteArray := do
  let path := if path.isAbsolute then path else loader.root.join path
  let admitted ← loader.node.policy.permit env.fs loader.root path
  env.fs.read admitted

/-- The loader after it gave up its clone. -/
def released (loader : Loader) : Loader := { loader with lease := none }

/-- Remove the clone that the loader still owns; a loader that owns none has nothing to do. -/
def cleanup (env : Env σ) (loader : Loader) : Action σ Unit := release env loader.lease

/-- A loader on one line: its root, its policy, the reference it was made for and its depth. -/
def inspected (loader : Loader) : String :=
  let root := Text.quotedPath loader.root.path.bytes
  let policy := loader.node.policy.inspected
  let source := match loader.node.source with
    | some clone =>
      let raw := Text.quoted clone.ref.raw
      s!"Some({raw})"
    | none => "None"
  let opening := "FileLoader \x7b root: ConfirmedDir("
  opening ++ s!"{root}), restrictor: {policy}, repo: {source}, depth: {loader.depth}" ++ " \x7d"

end Loader

end OverlayChain
