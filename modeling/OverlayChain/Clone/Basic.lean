import OverlayChain.Remote.Reference

/-!
# Cloners

A cloner puts a remote repository into a local directory and records that directory on the reference.
It is handed the reference to change, so what counts afterwards is the reference as the cloner left it.

## Main definitions

- `Checkout`: a reference with the directory that was recorded on it, if any.
- `Clone`: a reference with the directory that holds its repository.
- `Cloner`, `Cloner.take`: the request to clone a repository.
- `Cloner.recording`: a cloner that leaves the reference alone and records a directory on it.
- `Cloner.fixed`: points every reference at one directory that is already there.
- `Cloner.byUrl`: a fixed directory for each known URL.
-/

namespace OverlayChain

/-- A reference with the directory that was recorded on it, if any. -/
structure Checkout where
  ref : RemoteRef
  dir : Option Directory
  deriving DecidableEq

/-- A reference with the directory that holds its repository. -/
structure Clone where
  ref : RemoteRef
  dir : Directory
  deriving DecidableEq

/-- The clone of a checkout, once its directory is recorded. -/
def Checkout.clone? (checkout : Checkout) : Option Clone :=
  checkout.dir.map fun dir => ⟨checkout.ref, dir⟩

/-- The request to clone a repository through a file system. It ends in success or with an error, and
either way it may have changed the checkout that it was handed. -/
structure Cloner (σ : Type) where
  clone : FileSystem σ → Checkout → StateM σ (Except Error Unit × Checkout)

namespace Cloner

variable {σ : Type}

/-- Clone a reference, and answer it as the cloner left it. What a cloner that failed left of it is
dropped. -/
def take (cloner : Cloner σ) (fs : FileSystem σ) (ref : RemoteRef) : Action σ Checkout :=
  Action.transition fun s =>
    let ((ended, left), s) := cloner.clone fs ⟨ref, none⟩ s
    (ended.map fun _ => left, s)

/-- The cloner that records the directory which is obtained for a reference, and changes nothing else
of the checkout. -/
def recording (obtain : FileSystem σ → RemoteRef → Action σ Directory) : Cloner σ where
  clone fs checkout := fun s =>
    match obtain fs checkout.ref s with
    | (.ok dir, s) => ((.ok (), { checkout with dir := some dir }), s)
    | (.error error, s) => ((.error error, checkout), s)

/-- The cloner that fetches nothing and points every reference at one directory. -/
def fixed (dir : Path) : Cloner σ := recording fun fs _ => fs.locateDirectory dir

/-- The cloner that points each known URL at a directory of its own. -/
def byUrl (dirs : List (String × Path)) : Cloner σ :=
  recording fun fs ref =>
    match dirs.lookup ref.cloneUrl with
    | some dir => fs.locateDirectory dir
    | none => throw (.cloneFailed ref.cloneUrl ref.refOrHead "unknown repository" none)

end Cloner

end OverlayChain
