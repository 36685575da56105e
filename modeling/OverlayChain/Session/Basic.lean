import OverlayChain.Overlay.Resolve

/-!
# Sessions

A session works on one state with one file system and one cloner, and keeps loaders by name. A
request that fails leaves the session usable.

## Main definitions

- `Session`: the state and the loaders that are kept.
- `Session.Request`, `Session.Reply`, `Session.Failure`: what is asked, and how it ends.
- `Session.serve`: one request.
-/

namespace OverlayChain

/-- What a session works with: the environment of its loaders, and how long a chain may get over a
state. -/
structure World (σ : Type) where
  env : Env σ
  chainBound : σ → Nat

/-- A state and the loaders that are kept by name. -/
structure Session (σ : Type) where
  state : σ
  kept : List (String × Loader)

namespace Session

/-- A request. Loaders that it makes are kept under the name `keep`, if it gives one. -/
inductive Request where
  /-- Make the first loader of a chain, with the policy that a text names. -/
  | openAt (root : Path) (policy : Option String) (strict : Bool) (keep : Option String)
  /-- Make a child of a kept loader. -/
  | child (on base : String) (keep : Option String)
  | load (on : String) (path : Path)
  | cleanup (on : String)
  | resolve (on : String)
  | readOverlay (on : String)
  | inspect (on : String)
  /-- Hold a namespace and a label against the rules of a loader. -/
  | validate (on : String) (namespaceName : Option String) (label : Option (String × String))
  | admitRoot (path : Path)
  /-- Ask the policy that a text names about a path. -/
  | permit (policy : String) (root path : Path)
  /-- Clone a reference, and remove the clone afterwards if asked to. -/
  | clone (reference : String) (clean : Bool)
  | locate (path : Path)
  | read (path : Path)
  | remove (path : Path)

/-- The answer to a request. -/
inductive Reply where
  | loader (loader : Loader)
  | content (bytes : ByteArray)
  | done
  | resolved (tree : Overlay.Tree)
  | overlay (file : Overlay.File)
  | inspected (loader : Loader)
  | path (path : Path)
  /-- The directory of a clone, and how its removal ended if it was asked for. -/
  | cloned (dir : Option Directory) (removal : Option (Except Error Unit))
  | located (found : Located)

/-- Why a request has no answer. -/
inductive Failure where
  | error (cause : Error)
  /-- No loader is kept under the name. -/
  | unknownLoader (name : String)
  /-- The text is no remote reference. -/
  | notRemote (text : String)
  /-- The chain grew beyond its bound. -/
  | exhausted

variable {σ : Type}

/-- The session with a loader kept under a name, in the place of an older one. -/
def keep (session : Session σ) (name : String) (loader : Loader) : Session σ :=
  { session with kept := (name, loader) :: session.kept.filter fun entry => entry.1 != name }

/-- Perform an action on the state and answer by its result. -/
def perform {α : Type} (session : Session σ) (action : Action σ α) (reply : α → Reply) :
    Except Failure Reply × Session σ :=
  let (result, state) := action session.state
  (match result with
    | .ok value => .ok (reply value)
    | .error cause => .error (.error cause),
   { session with state := state })

/-- Make a loader, and keep it if there is a name for it. -/
def make (session : Session σ) (name : Option String) (action : Action σ Loader) :
    Except Failure Reply × Session σ :=
  let (result, state) := action session.state
  let session := { session with state := state }
  match result with
  | .error cause => (.error (.error cause), session)
  | .ok loader =>
    (.ok (.loader loader), match name with
      | some name => session.keep name loader
      | none => session)

/-- Serve a request about a kept loader. -/
def withLoader (session : Session σ) (name : String)
    (serve : Loader → Except Failure Reply × Session σ) : Except Failure Reply × Session σ :=
  match session.kept.lookup name with
  | some loader => serve loader
  | none => (.error (.unknownLoader name), session)

/-- Hold a namespace and then a label against rules. -/
def validate (validator : Validator) (namespaceName : Option String)
    (label : Option (String × String)) : Except Error Unit := do
  if let some name := namespaceName then validator.checkNamespace name
  if let some (key, value) := label then validator.checkLabel key value

/-- Clone a reference, and remove the clone afterwards if asked to. A clone that failed left nothing
to remove. -/
def clone (env : Env σ) (ref : RemoteRef) (clean : Bool) :
    Action σ (Option Directory × Option (Except Error Unit)) := do
  let left ← env.cloner.take env.fs ref
  if clean then return (left.dir, some (← Action.attempt (Loader.release env left.dir)))
  else return (left.dir, none)

/-- Serve one request. -/
def serve (world : World σ) (session : Session σ) (request : Request) :
    Except Failure Reply × Session σ :=
  let env := world.env
  match request with
  | .openAt root policy strict name =>
    session.make name do
      let policy ← Action.check (ReadPolicy.parse (policy.getD ReadPolicy.standard.name))
      Loader.origin env (Validator.ofStrictness strict) policy root
  | .child on base name => session.withLoader on fun loader => session.make name (loader.child env base)
  | .load on path =>
    session.withLoader on fun loader => session.perform (loader.load env path) .content
  | .cleanup on =>
    session.withLoader on fun loader =>
      (session.keep on loader.released).perform (loader.cleanup env) fun _ => .done
  | .resolve on =>
    session.withLoader on fun loader =>
      match Overlay.resolve env (world.chainBound session.state) loader session.state with
      | none => (.error .exhausted, session)
      | some (.ok tree, state) => (.ok (.resolved tree), { session with state := state })
      | some (.error cause, state) => (.error (.error cause), { session with state := state })
  | .readOverlay on =>
    session.withLoader on fun loader => session.perform (Overlay.readFile env loader) .overlay
  | .inspect on => session.withLoader on fun loader => (.ok (.inspected loader), session)
  | .validate on name label =>
    session.withLoader on fun loader =>
      session.perform (Action.check (validate loader.validator name label)) fun _ => .done
  | .admitRoot path => session.perform (env.fs.admitRoot path) fun dir => .path dir.path
  | .permit policy root path =>
    session.perform (do
      let policy ← Action.check (ReadPolicy.parse policy)
      policy.permit env.fs ⟨root⟩ path) .path
  | .clone reference clean =>
    match RemoteRef.parse? reference with
    | none => (.error (.notRemote reference), session)
    | some ref => session.perform (clone env ref clean) fun result => .cloned result.1 result.2
  | .locate path => session.perform (env.fs.locate path) .located
  | .read path => session.perform (env.fs.read path) .content
  | .remove path => session.perform (env.fs.remove path) fun _ => .done

end Session

end OverlayChain
