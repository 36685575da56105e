import OverlayChain.Proofs.Overlay.Walk

/-!
# Resolution under a limit

Resolution that looks at the length of chains ends as resolution does, unless it finds a chain that
is too long. A greater bound changes nothing once resolution ends.

## Main definitions

- `Overlay.resolveWithin`: resolution that runs out as soon as a chain gets too long.

## Main statements

- `Overlay.resolveWithin_refines`: greater bounds.
- `Overlay.resolveWithin_refines_resolve`: what the limit changes.
- `Overlay.resolve_of_resolveWithin`: both together.
-/

namespace OverlayChain.Overlay

variable {σ : Type}

/-- The same resolution, which runs out as soon as a chain holds more than `limit` loaders. -/
def resolveWithin (env : Env σ) (limit : Nat) : (bound : Nat) → Loader → Walk σ Tree
  | 0, _ => Walk.exhausted
  | bound + 1, loader =>
    if loader.lineage.length ≤ limit then resolveNode env (resolveWithin env limit bound) loader
    else Walk.exhausted

variable {env : Env σ} {visit other : Loader → Walk σ Tree}

theorem resolveChild_refines {child : Loader} (h : (visit child).Refines (other child)) :
    (resolveChild env visit child).Refines (resolveChild env other child) :=
  .bind (.attempt h) fun _ => .refl _

theorem resolveBases_refines (h : ∀ child, (visit child).Refines (other child)) (loader : Loader)
    (bases : List String) :
    (resolveBases env visit loader bases).Refines (resolveBases env other loader bases) := by
  induction bases with
  | nil => exact .refl _
  | cons base bases ih =>
    refine .bind (.refl _) fun child => ?_
    refine .bind (resolveChild_refines (h child)) fun tree => ?_
    exact .bind ih fun _ => .refl _

theorem resolveResource_refines (h : ∀ child, (visit child).Refines (other child))
    (loader : Loader) (entry : String) :
    (resolveResource env visit loader entry).Refines (resolveResource env other loader entry) := by
  refine .bind (.refl _) fun outcome => ?_
  cases outcome with
  | ok child => exact .bind (resolveChild_refines (h child)) fun _ => .refl _
  | error error => exact .refl _

theorem resolveResources_refines (h : ∀ child, (visit child).Refines (other child))
    (loader : Loader) (entries : List String) :
    (resolveResources env visit loader entries).Refines
      (resolveResources env other loader entries) := by
  induction entries with
  | nil => exact .refl _
  | cons entry entries ih =>
    refine .bind (resolveResource_refines h loader entry) fun found => ?_
    exact .bind ih fun _ => .refl _

theorem resolveNode_refines (h : ∀ child, (visit child).Refines (other child)) (loader : Loader) :
    (resolveNode env visit loader).Refines (resolveNode env other loader) := by
  refine .bind (.refl _) fun file => ?_
  refine .bind (.refl _) fun _ => ?_
  refine .bind (resolveBases_refines h loader file.bases) fun trees => ?_
  exact .bind (resolveResources_refines h loader file.resources) fun _ => .refl _

/-- Resolution that does not run out ends as it does under every greater bound. -/
theorem resolveWithin_refines {limit bound more : Nat} (hle : bound ≤ more) (loader : Loader) :
    (resolveWithin env limit bound loader).Refines (resolveWithin env limit more loader) := by
  induction bound generalizing more loader with
  | zero => exact .exhausted _
  | succ bound ih =>
    obtain ⟨more, rfl⟩ : ∃ rest, more = rest + 1 := ⟨more - 1, by omega⟩
    rw [resolveWithin, resolveWithin]
    split
    · exact resolveNode_refines (fun child => ih (by omega) child) loader
    · exact .refl _

/-- Resolution that finds no chain too long is resolution. -/
theorem resolveWithin_refines_resolve (limit bound : Nat) (loader : Loader) :
    (resolveWithin env limit bound loader).Refines (resolve env bound loader) := by
  induction bound generalizing loader with
  | zero => exact .exhausted _
  | succ bound ih =>
    rw [resolveWithin, resolve]
    split
    · exact resolveNode_refines ih loader
    · exact .exhausted _

/-- What resolution under a limit ends with, it also ends with under greater bounds and without the
limit. -/
theorem resolve_of_resolveWithin {limit bound more : Nat} (hle : bound ≤ more) {s : σ}
    {loader : Loader} {answer : Except Error Tree × σ}
    (hrun : resolveWithin env limit bound loader s = some answer) :
    resolve env more loader s = some answer ∧
      resolveWithin env limit more loader s = some answer := by
  have hmore := resolveWithin_refines hle loader s answer hrun
  exact ⟨resolveWithin_refines_resolve limit more loader s answer hmore, hmore⟩

end OverlayChain.Overlay
