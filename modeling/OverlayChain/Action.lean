import OverlayChain.Error

/-!
# Actions on a state

A request to a file system or a cloner changes a state and either answers or fails. The state
is kept when it fails.

## Main definitions

- `Action`: a request that may change the state and may fail.
- `Action.attempt`: run a request and look at how it ended.
- `Action.check`: a request that only fails or goes on.
-/

namespace OverlayChain

/-- A request that may change the state `σ` and may fail; the state survives the failure. -/
abbrev Action (σ : Type) := ExceptT Error (StateM σ)

namespace Action

variable {σ α : Type}

/-- Run a request and answer how it ended. -/
def attempt (action : Action σ α) : Action σ (Except Error α) :=
  fun s => ((.ok (action s).1), (action s).2)

/-- The request that answers as a pure computation does. -/
def check (outcome : Except Error α) : Action σ α := fun s => (outcome, s)

/-- The request that changes the state and always succeeds. -/
def update (f : σ → σ) : Action σ Unit := fun s => (.ok (), f s)

/-- The request that looks at the state, changes it and answers or fails. -/
def transition (f : σ → Except Error α × σ) : Action σ α := f

@[simp] theorem attempt_apply (action : Action σ α) (s : σ) :
    attempt action s = (.ok (action s).1, (action s).2) := rfl

@[simp] theorem check_apply (outcome : Except Error α) (s : σ) :
    check outcome s = (outcome, s) := rfl

@[simp] theorem update_apply (f : σ → σ) (s : σ) : update f s = (.ok (), f s) := rfl

end Action

end OverlayChain
