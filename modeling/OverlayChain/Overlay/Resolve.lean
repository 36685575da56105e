import OverlayChain.Loader.Basic
import OverlayChain.Overlay.File
import OverlayChain.Overlay.Tree

/-!
# Resolution of overlays

Starting at a loader, the overlay file of its root is read and every declared base is followed:
an entry of `bases` is a base; an entry of `resources` is a base if it names a directory or a
repository, and a file otherwise. Every child loader gives up its clone before the resolution
goes on, whether its subtree succeeded or not.

Resolution follows what overlay files say, so its depth is bounded by a number that the caller
gives: the chain may hold that many loaders.

## Main definitions

- `Overlay.fileNames`: the names under which an overlay file is looked for.
- `Overlay.readFile`: the overlay file of a loader's root.
- `Walk`: an action that may also run out of the bound.
- `Overlay.resolve`: the tree of overlays below a loader.
-/

namespace OverlayChain

/-- An action that may also run out of its bound, which is the answer `none`. -/
abbrev Walk (σ : Type) := ExceptT Error (StateT σ Option)

namespace Walk

variable {σ α : Type}

/-- An action as a walk that never runs out. -/
def ofAction (action : Action σ α) : Walk σ α := fun s => some (action s)

/-- A walk that has run out. -/
def exhausted : Walk σ α := fun _ => none

/-- Run a walk and answer how it ended. -/
def attempt (walk : Walk σ α) : Walk σ (Except Error α) :=
  fun s => (walk s).map fun result => (.ok result.1, result.2)

end Walk

namespace Overlay

variable {σ : Type}

/-- The names under which an overlay file is looked for, in this order. -/
def fileNames : List String := ["kustomization.yaml", "kustomization.yml", "Kustomization"]

/-- Read the first of the names that is there. -/
def readFirst (env : Env σ) (loader : Loader) : List String → Action σ File
  | [] => throw (.noOverlayFile loader.root.path fileNames)
  | name :: names => do
    match ← Action.attempt (loader.load env ⟨name⟩) with
    | .ok content => Action.check (File.parse content)
    | .error (.io cause) =>
      if cause.isAbsence then readFirst env loader names else throw (.io cause)
    | .error error => throw error

/-- The overlay file of a loader's root. -/
def readFile (env : Env σ) (loader : Loader) : Action σ File := readFirst env loader fileNames

/-- Hold the namespace and the labels of an overlay against the rules. -/
def checkFile (validator : Validator) (file : File) : Except Error Unit := do
  if let some name := file.namespaceName then validator.checkNamespace name
  file.labels.forM fun label => validator.checkLabel label.1 label.2

/-- Report that a file was loaded. -/
def reportLoaded (env : Env σ) (loader : Loader) (path : String) (size : Nat) : Action σ Unit :=
  Action.update
    (env.log ⟨.debug, .overlay, s!"loaded '{path}' ({size} bytes) in {loader.root}"⟩)

/-- Resolve a child and let it give up its clone. Its own failure comes before a failure to give
up the clone. -/
def resolveChild (env : Env σ) (visit : Loader → Walk σ Tree) (child : Loader) : Walk σ Tree := do
  let resolved ← Walk.attempt (visit child)
  let cleaned ← Walk.ofAction (Action.attempt (child.cleanup env))
  match resolved, cleaned with
  | .ok tree, .ok _ => return tree
  | .ok _, .error error => throw error
  | .error error, .ok _ => throw error
  | .error error, .error removal =>
    Walk.ofAction (Action.update (env.log
      ⟨.warn, .overlay, s!"failed to release {child.root}: {removal.message}"⟩))
    throw error

/-- Resolve the entries of `bases`. -/
def resolveBases (env : Env σ) (visit : Loader → Walk σ Tree) (loader : Loader) :
    List String → Walk σ (List Tree)
  | [] => return []
  | base :: rest => do
    let child ← Walk.ofAction (loader.child env base)
    let tree ← resolveChild env visit child
    return tree :: (← resolveBases env visit loader rest)

/-- Whether the failure of an entry to be a base says that it may be a file. A remote reference
never is. -/
def mayBeFile (entry : String) : Error → Bool
  | .notADirectory .. => (RemoteRef.parse? entry).isNone
  | .absoluteBase .. => true
  | _ => false

/-- Resolve one entry of `resources`: a base or a file. -/
def resolveResource (env : Env σ) (visit : Loader → Walk σ Tree) (loader : Loader)
    (entry : String) : Walk σ (Tree ⊕ LoadedFile) := do
  match ← Walk.ofAction (Action.attempt (loader.child env entry)) with
  | .ok child => return .inl (← resolveChild env visit child)
  | .error error =>
    if mayBeFile entry error then
      let content ← Walk.ofAction (loader.load env ⟨entry⟩)
      Walk.ofAction (reportLoaded env loader entry content.size)
      return .inr ⟨entry, content.size⟩
    else throw error

/-- Resolve the entries of `resources`: the bases among them, and the files. -/
def resolveResources (env : Env σ) (visit : Loader → Walk σ Tree) (loader : Loader) :
    List String → Walk σ (List Tree × List LoadedFile)
  | [] => return ([], [])
  | entry :: rest => do
    let found ← resolveResource env visit loader entry
    let (trees, files) ← resolveResources env visit loader rest
    match found with
    | .inl tree => return (tree :: trees, files)
    | .inr file => return (trees, file :: files)

/-- Resolve the overlay of a loader, with `visit` for its children. -/
def resolveNode (env : Env σ) (visit : Loader → Walk σ Tree) (loader : Loader) : Walk σ Tree := do
  let file ← Walk.ofAction (readFile env loader)
  Walk.ofAction (Action.check (checkFile loader.validator file))
  let bases ← resolveBases env visit loader file.bases
  let (more, files) ← resolveResources env visit loader file.resources
  let remote := loader.node.source.map fun clone => clone.ref.identity
  return .node ⟨loader.root.path, remote, file.namespaceName, file.labels, files⟩ (bases ++ more)

/-- The tree of overlays below a loader, if no chain on the way from it holds more than `bound`
loaders. -/
def resolve (env : Env σ) : (bound : Nat) → Loader → Walk σ Tree
  | 0, _ => Walk.exhausted
  | bound + 1, loader => resolveNode env (resolve env bound) loader

end Overlay

end OverlayChain
