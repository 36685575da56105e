import OverlayChain.Overlay.Resolve
import OverlayChain.Proofs.Loader.Chain

/-!
# What loaders clone and remove

An environment is recorded by keeping, beside the state, the list of the clones that succeeded and
of the removals that were asked for, whether these succeeded or not. What a cloner does on its own
is not recorded. Recording changes no answer and no state, so the records of a run say what the
loaders of the run itself did.

## Main definitions

- `Event`: a clone or a removal.
- `Env.recorded`: the environment that keeps the events.
- `Action.Records`: a recorded action does what the action does, and keeps certain events.
- `Loader.taken`, `Loader.returned`: the events by which a clone is made and given up.

## Main statements

- `Loader.child_records`: what a request for a child clones and removes.
- `Loader.child_answer`: the answer to it does not depend on a removal.
-/

namespace OverlayChain

/-- A clone that succeeded, or a removal that was asked for. -/
inductive Event where
  | cloned (dir : Directory)
  | removed (path : Path)
  deriving DecidableEq

variable {σ α β : Type}

/-- The same environment, with the clones and removals of its loaders kept beside the state. -/
def Env.recorded (env : Env σ) : Env (σ × List Event) where
  fs :=
    { locate := fun path s =>
        ((env.fs.locate path s.1).1, (env.fs.locate path s.1).2, s.2)
      read := fun path s => ((env.fs.read path s.1).1, (env.fs.read path s.1).2, s.2)
      remove := fun path s =>
        ((env.fs.remove path s.1).1, (env.fs.remove path s.1).2, s.2 ++ [.removed path]) }
  cloner :=
    { clone := fun _ checkout s =>
        match env.cloner.clone env.fs checkout s.1 with
        | ((.ok (), ⟨left, some dir⟩), t) => ((.ok (), ⟨left, some dir⟩), t, s.2 ++ [.cloned dir])
        | (ended, t) => (ended, t, s.2) }
  log record s := (env.log record s.1, s.2)

namespace Action

/-- The second action does what the first one does, and keeps events that satisfy `P` together with
the answer. -/
def Records (P : Except Error α → List Event → Prop) (x : Action σ α)
    (y : Action (σ × List Event) α) : Prop :=
  ∀ s past, ∃ trace, y (s, past) = ((x s).1, (x s).2, past ++ trace) ∧ P (x s).1 trace

/-- The second action does what the first one does, and keeps no events. -/
def Silent (x : Action σ α) (y : Action (σ × List Event) α) : Prop :=
  Records (fun _ trace => trace = []) x y

variable {P Q : Except Error α → List Event → Prop} {R : Except Error β → List Event → Prop}
  {x : Action σ α} {y : Action (σ × List Event) α} {f : α → Action σ β}
  {g : α → Action (σ × List Event) β}

theorem Silent.of_eq (h : ∀ s past, y (s, past) = ((x s).1, (x s).2, past)) : Silent x y :=
  fun s past => ⟨[], by rw [h, List.append_nil], rfl⟩

theorem Silent.pure (a : α) : Silent (Pure.pure a : Action σ α) (Pure.pure a) :=
  .of_eq fun _ _ => rfl

theorem Silent.throw (e : Error) : Silent (throw e : Action σ α) (throw e) :=
  .of_eq fun _ _ => rfl

theorem Silent.check (outcome : Except Error α) :
    Silent (check outcome : Action σ α) (check outcome) := .of_eq fun _ _ => rfl

theorem Records.imp (h : Records P x y) (himp : ∀ r trace, P r trace → Q r trace) :
    Records Q x y := by
  intro s past
  obtain ⟨trace, hrun, hp⟩ := h s past
  exact ⟨trace, hrun, himp _ _ hp⟩

/-- A sequence keeps the events of both its actions, or of the first one if that failed. -/
theorem Records.bind {S : α → Except Error β → List Event → Prop} (hx : Records P x y)
    (hf : ∀ a, Records (S a) (f a) (g a))
    (hok : ∀ a r trace trace', P (.ok a) trace → S a r trace' → R r (trace ++ trace'))
    (herror : ∀ e trace, P (.error e) trace → R (.error e) trace) :
    Records R (x >>= f) (y >>= g) := by
  intro s past
  obtain ⟨trace, hy, hp⟩ := hx s past
  rw [bind_apply, bind_apply, hy]
  rcases hrun : x s with ⟨e | a, t⟩
  · rw [hrun] at hp
    exact ⟨trace, rfl, herror e trace hp⟩
  · rw [hrun] at hp
    obtain ⟨trace', hg, hs⟩ := hf a t (past ++ trace)
    exact ⟨trace ++ trace', by rw [← List.append_assoc]; exact hg, hok a _ trace trace' hp hs⟩

/-- After an action without events, a sequence keeps those of the second one. -/
theorem Silent.bind (hx : Silent x y) (hf : ∀ a, Records R (f a) (g a))
    (herror : ∀ e, R (.error e) []) : Records R (x >>= f) (y >>= g) := by
  refine Records.bind hx hf ?_ ?_
  · rintro a r trace trace' rfl hr
    exact hr
  · rintro e trace rfl
    exact herror e

theorem Silent.then (hx : Silent x y) (hf : ∀ a, Silent (f a) (g a)) :
    Silent (x >>= f) (y >>= g) := hx.bind hf fun _ => rfl

theorem Records.pure {a : α} (h : P (.ok a) []) :
    Records P (Pure.pure a : Action σ α) (Pure.pure a) :=
  fun s past => ⟨[], by rw [List.append_nil]; rfl, h⟩

theorem Records.throw {e : Error} (h : P (.error e) []) :
    Records P (throw e : Action σ α) (throw e) :=
  fun s past => ⟨[], by rw [List.append_nil]; rfl, h⟩

theorem Records.attempt (h : Records P x y) :
    Records (fun r trace => ∃ outcome, r = .ok outcome ∧ P outcome trace) (attempt x) (attempt y) := by
  intro s past
  obtain ⟨trace, hrun, hp⟩ := h s past
  refine ⟨trace, ?_, _, rfl, hp⟩
  rw [attempt_apply, attempt_apply, hrun]

/-- The second action does what the first one does, which always answers, and keeps no events. -/
def Answers (x : Action σ α) (y : Action (σ × List Event) α) : Prop :=
  Records (fun r trace => (∃ a, r = .ok a) ∧ trace = []) x y

theorem Answers.silent (h : Answers x y) : Silent x y := h.imp fun _ _ hr => hr.2

theorem Answers.bind (hx : Answers x y) (hf : ∀ a, Records R (f a) (g a)) :
    Records R (x >>= f) (y >>= g) := by
  refine Records.bind hx hf ?_ ?_
  · rintro a r trace trace' ⟨-, rfl⟩ hr
    exact hr
  · rintro e trace ⟨⟨a, ha⟩, -⟩
    cases ha

theorem Silent.attempt (h : Silent x y) : Answers (Action.attempt x) (Action.attempt y) :=
  (Records.attempt h).imp fun _ _ ⟨outcome, hr, htrace⟩ => ⟨⟨outcome, hr⟩, htrace⟩

theorem Answers.update {u : σ → σ} {v : σ × List Event → σ × List Event}
    (h : ∀ s past, v (s, past) = (u s, past)) : Answers (update u) (update v) :=
  fun s past => ⟨[], by rw [update_apply, update_apply, h, List.append_nil], ⟨(), rfl⟩, rfl⟩

end Action

namespace FileSystem

theorem locate_silent (env : Env σ) (path : Path) :
    Action.Silent (env.fs.locate path) (env.recorded.fs.locate path) := .of_eq fun _ _ => rfl

theorem read_silent (env : Env σ) (path : Path) :
    Action.Silent (env.fs.read path) (env.recorded.fs.read path) := .of_eq fun _ _ => rfl

theorem locateDirectory_silent (env : Env σ) (path : Path) :
    Action.Silent (env.fs.locateDirectory path) (env.recorded.fs.locateDirectory path) := by
  refine (locate_silent env path).then fun found => ?_
  split
  · exact .pure _
  · exact .throw _

theorem admitRoot_silent (env : Env σ) (path : Path) :
    Action.Silent (env.fs.admitRoot path) (env.recorded.fs.admitRoot path) := by
  rw [admitRoot, admitRoot]
  split
  · exact .throw _
  · exact locateDirectory_silent env path

theorem remove_records (env : Env σ) (path : Path) :
    Action.Records (fun _ trace => trace = [.removed path]) (env.fs.remove path)
      (env.recorded.fs.remove path) := fun _ _ => ⟨_, rfl, rfl⟩

end FileSystem

theorem ReadPolicy.permit_silent (env : Env σ) (policy : ReadPolicy) (root : Directory)
    (path : Path) :
    Action.Silent (policy.permit env.fs root path) (policy.permit env.recorded.fs root path) := by
  cases policy with
  | unrestricted => exact .pure path
  | confined =>
    refine (FileSystem.locate_silent env path).then fun found => ?_
    split
    · exact .throw _
    · split
      · exact .pure _
      · exact .throw _

namespace Loader

variable {env : Env σ} {loader : Loader}

/-- The event by which a clone is made. -/
def taken (lease : Option Directory) : List Event := lease.toList.map .cloned

/-- The event by which a clone is given up. -/
def returned (lease : Option Directory) : List Event := lease.toList.map fun dir => .removed dir.path

/-- A child owns the clone that was made for it; a clone that was made for none is given up. -/
def Leases : Except Error Loader → List Event → Prop
  | .ok child, trace => trace = taken child.lease
  | .error _, trace => ∃ lease, trace = taken lease ++ returned lease

theorem report_answers (level : Log.Level) (message : String) :
    Action.Answers (report env level message) (report env.recorded level message) :=
  .update fun _ _ => rfl

theorem clone_records (env : Env σ) (ref : RemoteRef) :
    Action.Records (fun r trace => match r with
        | .ok left => trace = taken left.dir
        | .error _ => trace = [])
      (env.cloner.take env.fs ref) (env.recorded.cloner.take env.recorded.fs ref) := by
  intro s past
  simp only [Cloner.take, Action.transition, Env.recorded]
  rcases env.cloner.clone env.fs ⟨ref, none⟩ s with ⟨⟨error | done, left, clone⟩, t⟩
  · exact ⟨[], by rw [List.append_nil], rfl⟩
  · cases clone with
    | none => exact ⟨[], by rw [List.append_nil], rfl⟩
    | some dir => exact ⟨[.cloned dir], rfl, rfl⟩

theorem release_records (env : Env σ) (clone : Option Directory) :
    Action.Records (fun _ trace => trace = returned clone) (release env clone)
      (release env.recorded clone) := by
  cases clone with
  | none => exact Action.Silent.pure ()
  | some dir => exact FileSystem.remove_records env dir.path

theorem localChild_silent (base : String) :
    Action.Silent (loader.localChild env base) (loader.localChild env.recorded base) := by
  rw [localChild, localChild]
  refine (report_answers _ _).silent.then fun _ => ?_
  split
  · exact .of_eq fun _ _ => rfl
  · refine (FileSystem.admitRoot_silent env _).then fun root => ?_
    refine (Action.Silent.check _).then fun _ => ?_
    refine (Action.Silent.check _).then fun _ => ?_
    exact (report_answers _ _).silent.then fun _ => .pure _

theorem localChild_records (base : String) :
    Action.Records Leases (loader.localChild env base) (loader.localChild env.recorded base) := by
  intro s past
  have hsilent : Action.Silent (loader.localChild env base) (loader.localChild env.recorded base) :=
    localChild_silent base
  obtain ⟨trace, hrun, rfl⟩ := hsilent s past
  refine ⟨[], hrun, ?_⟩
  rcases hchild : loader.localChild env base s with ⟨e | child, t⟩
  · exact ⟨none, rfl⟩
  · obtain ⟨-, root, u, -, -, -, rfl, -⟩ := localChild_eq_ok_iff.1 hchild
    rfl

theorem rootInClone_silent (ref : RemoteRef) (clone : Option Directory) :
    Action.Silent (rootInClone env ref clone) (rootInClone env.recorded ref clone) := by
  rw [rootInClone, rootInClone]
  refine (Action.Silent.check _).then fun path => ?_
  refine (FileSystem.admitRoot_silent env path).then fun root => ?_
  exact (Action.Silent.check _).then fun _ => .pure _

/-- A clone that cannot be a root is given up before the request fails. -/
theorem remoteChild_records (ref : RemoteRef) :
    Action.Records Leases (loader.remoteChild env ref) (loader.remoteChild env.recorded ref) := by
  rw [remoteChild, remoteChild]
  refine (report_answers _ _).bind fun _ => ?_
  refine Action.Records.bind (S := fun left r trace => Leases r (taken left.dir ++ trace))
    (clone_records env ref) (fun left => ?_) ?_ ?_
  · refine (rootInClone_silent left.ref left.dir).attempt.bind fun rooted => ?_
    cases rooted with
    | ok root =>
      refine (report_answers _ _).bind fun _ => .pure ?_
      exact List.append_nil _
    | error error =>
      have hreleased := (release_records env left.dir).attempt
      refine hreleased.bind (S := fun _ r trace => r = .error error ∧ trace = []) (fun removed => ?_)
        ?_ ?_
      · cases removed with
        | ok _ => exact .throw ⟨rfl, rfl⟩
        | error removal => exact (report_answers _ _).bind fun _ => .throw ⟨rfl, rfl⟩
      · rintro removed r trace trace' ⟨_, -, rfl⟩ ⟨rfl, rfl⟩
        exact ⟨left.dir, by rw [List.append_nil]⟩
      · rintro e trace ⟨_, h, -⟩
        cases h
  · rintro left r trace trace' rfl hr
    exact hr
  · rintro e trace rfl
    exact ⟨none, rfl⟩

/-- A request for a child makes the clone that the child owns, or gives up what it made. -/
theorem child_records (env : Env σ) (loader : Loader) (base : String) :
    Action.Records Leases (loader.child env base) (loader.child env.recorded base) := by
  have herror : ∀ e, Leases (.error e) [] := fun e => ⟨none, rfl⟩
  rw [child, child]
  split
  · exact .throw (herror _)
  · cases RemoteRef.parse? base with
    | none => exact localChild_records base
    | some ref =>
      refine (report_answers _ _).bind fun _ => ?_
      exact (Action.Silent.check _).bind (fun _ => remoteChild_records ref) herror

theorem cleanup_records (env : Env σ) (loader : Loader) :
    Action.Records (fun _ trace => trace = returned loader.lease) (loader.cleanup env)
      (loader.cleanup env.recorded) := release_records env loader.lease

theorem load_silent (loader : Loader) (path : Path) :
    Action.Silent (loader.load env path) (loader.load env.recorded path) := by
  rw [load, load]
  exact (ReadPolicy.permit_silent env _ _ _).then fun admitted => FileSystem.read_silent env admitted

/-- The first loader of a chain owns no clone. -/
theorem origin_records (validator : Validator) (policy : ReadPolicy) (path : Path) :
    Action.Records Leases (origin env validator policy path)
      (origin env.recorded validator policy path) := by
  have herror : ∀ e, Leases (.error e) [] := fun e => ⟨none, rfl⟩
  exact (FileSystem.admitRoot_silent env path).bind (fun root => .pure rfl) herror

/-- The answer to a request for a child of a fresh clone is that of finding its root there, whatever
became of a removal. -/
theorem child_answer {base : String} {ref : RemoteRef} {left : Checkout} {s t : σ}
    (hne : base ≠ "") (hbase : RemoteRef.parse? base = some ref)
    (hcycle : loader.checkRepository ref = .ok ())
    (hclone : env.cloner.take env.fs ref
      (noted env .debug s!"cloning '{ref.cloneUrl}' for {loader.root}"
        (noted env .trace s!"'{base}' is a remote base" s)) = (.ok left, t)) :
    (loader.child env base s).1 = (rootInClone env left.ref left.dir t).1.map fun root =>
      loader.extend ⟨root, .confined, left.clone?⟩ left.dir := by
  rw [child, if_neg (by simpa using hne), hbase]
  dsimp only
  rw [Action.bind_of_ok (report_apply _ _ s), Action.bind_of_ok (Action.check_eq_ok_iff.2 ⟨hcycle, rfl⟩),
    remoteChild, Action.bind_of_ok (report_apply _ _ _), Action.bind_of_ok hclone,
    Action.bind_of_ok (Action.attempt_apply _ t)]
  rcases rootInClone env left.ref left.dir t with ⟨error | root, u⟩
  · dsimp only
    rw [Action.bind_of_ok (Action.attempt_apply _ u)]
    rcases release env left.dir u with ⟨removal | done, v⟩
    · rfl
    · rfl
  · rfl

end Loader

namespace Overlay

theorem readFile_silent (env : Env σ) (loader : Loader) :
    Action.Silent (readFile env loader) (readFile env.recorded loader) := by
  rw [readFile, readFile]
  generalize fileNames = names
  induction names with
  | nil => exact .throw _
  | cons name names ih =>
    refine (Loader.load_silent loader _).attempt.silent.then fun outcome => ?_
    split
    · exact .check _
    · split
      · exact ih
      · exact .throw _
    · exact .throw _

end Overlay

end OverlayChain
