import OverlayChain.Proofs.Loader.Frame
import OverlayChain.Proofs.Overlay.Walk

/-!
# What resolution leaves alone

A property of the state that no request loses is not lost by resolution, however it ends.

## Main definitions

- `Overlay.KeepsBelow`: what is assumed of the resolution of children.

## Main statements

- `Overlay.resolve_keeps`: resolution does not lose the property.
-/

namespace OverlayChain.Overlay

variable {σ : Type} {env : Env σ} {I : σ → Prop} {visit : Loader → Walk σ Tree}

/-- The walks of all loaders do not lose the property. -/
def KeepsBelow (I : σ → Prop) (visit : Loader → Walk σ Tree) : Prop :=
  ∀ child, (visit child).Keeps I

theorem log_keeps (henv : env.Looks I) (record : Log.Record) :
    (Walk.ofAction (Action.update (env.log record))).Keeps I :=
  .ofAction (.update fun s hs => henv.log record s hs)

theorem resolveChild_keeps (henv : env.Keeps I) (hvisit : KeepsBelow I visit) (child : Loader) :
    (resolveChild env visit child).Keeps I := by
  refine .bind (hvisit child).attempt fun resolved => ?_
  refine .bind (.ofAction (.attempt (Loader.cleanup_keeps henv child))) fun cleaned => ?_
  cases resolved with
  | ok tree =>
    cases cleaned with
    | ok _ => exact .pure tree
    | error error => exact .throw error
  | error error =>
    cases cleaned with
    | ok _ => exact .throw error
    | error removal => exact .bind (log_keeps henv.toLooks _) fun _ => .throw error

theorem resolveBases_keeps (henv : env.Keeps I) (hvisit : KeepsBelow I visit) (loader : Loader)
    (bases : List String) : (resolveBases env visit loader bases).Keeps I := by
  induction bases with
  | nil => exact .pure []
  | cons base bases ih =>
    refine .bind (.ofAction (Loader.child_keeps henv base)) fun child => ?_
    refine .bind (resolveChild_keeps henv hvisit child) fun tree => ?_
    exact .bind ih fun trees => .pure _

theorem resolveResource_keeps (henv : env.Keeps I) (hvisit : KeepsBelow I visit) (loader : Loader)
    (entry : String) : (resolveResource env visit loader entry).Keeps I := by
  refine .bind (.ofAction (.attempt (Loader.child_keeps henv entry))) fun outcome => ?_
  cases outcome with
  | ok child => exact .bind (resolveChild_keeps henv hvisit child) fun tree => .pure _
  | error error =>
    dsimp only
    split
    · refine .bind (.ofAction (Loader.load_keeps henv.toLooks _)) fun content => ?_
      exact .bind (log_keeps henv.toLooks _) fun _ => .pure _
    · exact .throw error

theorem resolveResources_keeps (henv : env.Keeps I) (hvisit : KeepsBelow I visit) (loader : Loader)
    (entries : List String) : (resolveResources env visit loader entries).Keeps I := by
  induction entries with
  | nil => exact .pure ([], [])
  | cons entry entries ih =>
    refine .bind (resolveResource_keeps henv hvisit loader entry) fun found => ?_
    refine .bind ih fun rest => ?_
    cases found with
    | inl tree => exact .pure _
    | inr file => exact .pure _

theorem resolveNode_keeps (henv : env.Keeps I) (hvisit : KeepsBelow I visit) (loader : Loader) :
    (resolveNode env visit loader).Keeps I := by
  refine .bind (.ofAction (readFile_keeps henv.toLooks loader)) fun file => ?_
  refine .bind (.ofAction (.check _)) fun _ => ?_
  refine .bind (resolveBases_keeps henv hvisit loader file.bases) fun bases => ?_
  exact .bind (resolveResources_keeps henv hvisit loader file.resources) fun rest => .pure _

/-- Resolution does not lose what no request loses. -/
theorem resolve_keeps (henv : env.Keeps I) (bound : Nat) : KeepsBelow I (resolve env bound) := by
  induction bound with
  | zero => exact fun _ => .exhausted
  | succ bound ih => exact fun loader => resolveNode_keeps henv ih loader

end OverlayChain.Overlay
