import OverlayChain.Loader.Basic
import OverlayChain.Proofs.Clone.Contract

/-!
# Chains of loaders

A chain begins with a loader for a path and grows by children. Its loaders may be used in any
state: nothing is assumed about what happened between two requests.

## Main definitions

- `Loader.Grows`: what it took to make a child for a base.
- `Loader.Reachable`: the loaders that requests can make.

## Main statements

- `Loader.child_eq_ok_iff`: what it takes for a request for a child to answer.
- `Loader.grows_of_child`: a request for a child that answers has passed all checks.
-/

namespace OverlayChain.Loader

variable {σ : Type} {env : Env σ} {parent child loader : Loader}

/-- What it took to make a child for a base, and what the child looks like. -/
inductive Grows (env : Env σ) (parent : Loader) (base : String) : Loader → Prop
  /-- A directory that lies in the nearest clone, and neither is nor contains a root above. -/
  | within (root : Directory) (s t : σ) (hbase : RemoteRef.parse? base = none)
      (hrelative : (Path.mk base).isAbsolute = false)
      (hroot : env.fs.admitRoot (parent.root.join ⟨base⟩) s = (.ok root, t))
      (hclone : checkWithin (parent.nearestClone?.map Clone.dir) root = .ok ())
      (hcycle : parent.checkDirectory root = .ok ()) :
      Grows env parent base (parent.extend ⟨root, parent.node.policy, none⟩ none)
  /-- A directory of a fresh clone, for a reference that overlaps none above. The child keeps the
  reference as the cloner left it. -/
  | remote (ref left : RemoteRef) (dir root : Directory) (s t u v : σ)
      (hbase : RemoteRef.parse? base = some ref)
      (hcycle : parent.checkRepository ref = .ok ())
      (hclone : env.cloner.take env.fs ref s = (.ok ⟨left, some dir⟩, t))
      (hroot : env.fs.admitRoot (dir.join ⟨left.path⟩) u = (.ok root, v))
      (hwithin : root.isWithin dir.path = true) :
      Grows env parent base (parent.extend ⟨root, .confined, some ⟨left, dir⟩⟩ (some dir))

/-- The loaders that can be made: those for a path, their children, and either after it gave up
its clone. -/
inductive Reachable (env : Env σ) : Loader → Prop
  | origin {validator : Validator} {policy : ReadPolicy} {path : Path} {s t : σ} {loader : Loader}
      (h : Loader.origin env validator policy path s = (.ok loader, t)) : Reachable env loader
  | child {parent : Loader} {base : String} {s t : σ} {loader : Loader}
      (hparent : Reachable env parent) (h : parent.child env base s = (.ok loader, t)) :
      Reachable env loader
  | released {loader : Loader} (h : Reachable env loader) : Reachable env loader.released

/-- The first loader of a chain is made exactly if its path is admitted as a root. -/
theorem origin_eq_ok_iff {validator : Validator} {policy : ReadPolicy} {path : Path} {s t : σ} :
    Loader.origin env validator policy path s = (.ok loader, t) ↔
      ∃ root, env.fs.admitRoot path s = (.ok root, t) ∧
        loader = ⟨⟨root, policy, none⟩, [], validator, none⟩ := by
  rw [Loader.origin, Action.bind_eq_ok_iff]
  constructor
  · rintro ⟨root, t', hroot, hloader⟩
    cases hloader
    exact ⟨root, hroot, rfl⟩
  · rintro ⟨root, hroot, rfl⟩
    exact ⟨root, t, hroot, rfl⟩

/-- The first loader of a chain. -/
theorem eq_of_origin {validator : Validator} {policy : ReadPolicy} {path : Path} {s t : σ}
    (h : Loader.origin env validator policy path s = (.ok loader, t)) :
    ∃ root, env.fs.admitRoot path s = (.ok root, t) ∧
      loader = ⟨⟨root, policy, none⟩, [], validator, none⟩ := origin_eq_ok_iff.1 h

/-- The state after taking note of what a loader does. -/
def noted (env : Env σ) (level : Log.Level) (message : String) (s : σ) : σ :=
  env.log ⟨level, .loader, message⟩ s

theorem report_apply (level : Log.Level) (message : String) (s : σ) :
    report env level message s = (.ok (), noted env level message s) := rfl

theorem checkWithin_some_iff {dir root : Directory} :
    checkWithin (some dir) root = .ok () ↔ root.isWithin dir.path = true := by
  simp only [checkWithin]
  split
  · next h => simp [h]
  · next h => simp [h]

/-- A child is made for a local base exactly if its directory passes both checks. -/
theorem localChild_eq_ok_iff {base : String} {s t : σ} :
    parent.localChild env base s = (.ok child, t) ↔
      (Path.mk base).isAbsolute = false ∧ ∃ root u,
        env.fs.admitRoot (parent.root.join ⟨base⟩)
          (noted env .trace s!"'{base}' is a local base" s) = (.ok root, u) ∧
        checkWithin (parent.nearestClone?.map Clone.dir) root = .ok () ∧
        parent.checkDirectory root = .ok () ∧
        parent.extend ⟨root, parent.node.policy, none⟩ none = child ∧
        noted env .debug s!"new loader at {root} (from {parent.root})" u = t := by
  rw [localChild, Action.bind_of_ok (report_apply _ _ s)]
  by_cases habs : (Path.mk base).isAbsolute = true
  · rw [if_pos habs, Action.bind_of_error (Action.throw_apply _ _)]
    simp [habs]
  · rw [if_neg habs]
    simp only [Action.bind_eq_ok_iff, Action.check_eq_ok_iff]
    constructor
    · rintro ⟨root, u, hroot, _, _, ⟨hclone, rfl⟩, _, _, ⟨hcycle, rfl⟩, _, _, hreport, hreturn⟩
      cases hreport
      cases hreturn
      exact ⟨by simpa using habs, root, u, hroot, hclone, hcycle, rfl, rfl⟩
    · rintro ⟨-, root, u, hroot, hclone, hcycle, rfl, rfl⟩
      exact ⟨root, u, hroot, (), u, ⟨hclone, rfl⟩, (), u, ⟨hcycle, rfl⟩, (), _, rfl, rfl⟩

/-- The root of a reference in its clone is a directory of the clone. -/
theorem rootInClone_eq_ok_iff {ref : RemoteRef} {clone : Option Directory} {root : Directory}
    {s t : σ} :
    rootInClone env ref clone s = (.ok root, t) ↔
      ∃ dir, clone = some dir ∧ env.fs.admitRoot (dir.join ⟨ref.path⟩) s = (.ok root, t) ∧
        root.isWithin dir.path = true := by
  simp only [rootInClone, Action.bind_eq_ok_iff, Action.check_eq_ok_iff]
  constructor
  · rintro ⟨path, _, ⟨hplace, rfl⟩, found, _, hroot, _, _, ⟨hwithin, rfl⟩, hreturn⟩
    cases hreturn
    cases clone with
    | none => cases hplace
    | some dir =>
      cases hplace
      exact ⟨dir, rfl, hroot, checkWithin_some_iff.1 hwithin⟩
  · rintro ⟨dir, rfl, hroot, hwithin⟩
    exact ⟨_, s, ⟨rfl, rfl⟩, root, t, hroot, (), t, ⟨checkWithin_some_iff.2 hwithin, rfl⟩, rfl⟩

/-- A child is made for a reference exactly if the reference that the cloner leaves has its root in the
directory that was recorded. -/
theorem remoteChild_eq_ok_iff {ref : RemoteRef} {s t : σ} :
    parent.remoteChild env ref s = (.ok child, t) ↔
      ∃ left dir root u v,
        env.cloner.take env.fs ref
          (noted env .debug s!"cloning '{ref.cloneUrl}' for {parent.root}" s) =
            (.ok ⟨left, some dir⟩, u) ∧
        env.fs.admitRoot (dir.join ⟨left.path⟩) u = (.ok root, v) ∧
        root.isWithin dir.path = true ∧
        parent.extend ⟨root, .confined, some ⟨left, dir⟩⟩ (some dir) = child ∧
        noted env .debug s!"new loader at {root} (clone of '{left.raw}')" v = t := by
  rw [remoteChild, Action.bind_of_ok (report_apply _ _ s), Action.bind_eq_ok_iff]
  constructor
  · rintro ⟨⟨left, clone⟩, u, hclone, h⟩
    dsimp only at h
    rw [Action.bind_of_ok (Action.attempt_apply _ u)] at h
    rcases hroot : rootInClone env left clone u with ⟨error | root, v⟩
    · -- A clone that cannot be a root is released, whether that succeeds or not.
      rw [hroot] at h
      dsimp only at h
      rw [Action.bind_of_ok (Action.attempt_apply _ v)] at h
      rcases hrelease : release env clone v with ⟨removal | done, w⟩
      · rw [hrelease] at h
        dsimp only at h
        rw [Action.bind_of_ok (report_apply _ _ w)] at h
        cases h
      · rw [hrelease] at h
        cases h
    · rw [hroot] at h
      dsimp only at h
      rw [Action.bind_of_ok (report_apply _ _ v)] at h
      cases h
      obtain ⟨dir, rfl, hroot, hwithin⟩ := rootInClone_eq_ok_iff.1 hroot
      exact ⟨left, dir, root, u, v, hclone, hroot, hwithin, rfl, rfl⟩
  · rintro ⟨left, dir, root, u, v, hclone, hroot, hwithin, rfl, rfl⟩
    refine ⟨⟨left, some dir⟩, u, hclone, ?_⟩
    dsimp only
    rw [Action.bind_of_ok (Action.attempt_apply _ u),
      rootInClone_eq_ok_iff.2 ⟨dir, rfl, hroot, hwithin⟩]
    dsimp only
    rw [Action.bind_of_ok (report_apply _ _ v)]
    rfl

/-- A child is made for a base as a reference, if it is one that overlaps none above, or else as a
directory. -/
theorem child_eq_ok_iff {base : String} {s t : σ} :
    parent.child env base s = (.ok child, t) ↔
      base ≠ "" ∧
        (RemoteRef.parse? base = none ∧ parent.localChild env base s = (.ok child, t) ∨
        ∃ ref, RemoteRef.parse? base = some ref ∧ parent.checkRepository ref = .ok () ∧
          parent.remoteChild env ref (noted env .trace s!"'{base}' is a remote base" s) =
            (.ok child, t)) := by
  rw [Loader.child]
  by_cases hempty : base = ""
  · simp [hempty]
  · rw [if_neg (by simpa using hempty), and_iff_right hempty]
    cases hbase : RemoteRef.parse? base with
    | none => simp
    | some ref =>
      dsimp only
      rw [Action.bind_of_ok (report_apply _ _ s), Action.bind_eq_ok_iff]
      constructor
      · rintro ⟨_, _, hcheck, h⟩
        obtain ⟨hcycle, rfl⟩ := Action.check_eq_ok_iff.1 hcheck
        exact .inr ⟨ref, rfl, hcycle, h⟩
      · rintro (⟨h, -⟩ | ⟨_, h, hcycle, hchild⟩)
        · cases h
        · cases h
          exact ⟨(), _, Action.check_eq_ok_iff.2 ⟨hcycle, rfl⟩, hchild⟩

/-- A request for a child that answers has passed all checks. -/
theorem grows_of_child {base : String} {s t : σ} (h : parent.child env base s = (.ok child, t)) :
    Grows env parent base child := by
  obtain ⟨-, ⟨hbase, h⟩ | ⟨ref, hbase, hcycle, h⟩⟩ := child_eq_ok_iff.1 h
  · obtain ⟨hrelative, root, u, hroot, hclone, hcycle, rfl, -⟩ := localChild_eq_ok_iff.1 h
    exact .within root _ u hbase hrelative hroot hclone hcycle
  · obtain ⟨left, dir, root, u, v, hclone, hroot, hwithin, rfl, -⟩ := remoteChild_eq_ok_iff.1 h
    exact .remote ref left dir root _ u u v hbase hcycle hclone hroot hwithin

/-- What holds of first loaders and of every child that is made, and survives giving up a clone,
holds of all loaders. -/
theorem Reachable.induction {P : Loader → Prop} (h : loader.Reachable env)
    (horigin : ∀ root policy validator (path : Path) s t,
      env.fs.admitRoot path s = (.ok root, t) → P ⟨⟨root, policy, none⟩, [], validator, none⟩)
    (hgrows : ∀ parent base child, parent.Reachable env → P parent → Grows env parent base child →
      P child)
    (hreleased : ∀ loader : Loader, P loader → P loader.released) : P loader := by
  induction h with
  | origin h =>
    obtain ⟨root, hroot, rfl⟩ := eq_of_origin h
    exact horigin _ _ _ _ _ _ hroot
  | child hparent h ih => exact hgrows _ _ _ hparent ih (grows_of_child h)
  | released _ ih => exact hreleased _ ih

end OverlayChain.Loader
