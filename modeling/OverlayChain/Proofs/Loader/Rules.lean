import OverlayChain.Proofs.Loader.Frame

/-!
# Loaders that differ in their rules

The rules of a loader are its policy and its validator. Which children a loader has does not depend
on its rules, nor on those of the loaders above it. A child takes the rules over, except that in a
clone it is confined.

## Main definitions

- `Loader.SameUpTo`: two loaders that differ at most in their rules.
- `Loader.Stricter`: a loader that reads as another one does, unless it refuses.

## Main statements

- `Loader.SameUpTo.child`: such loaders have the same children, up to their rules.
- `Overlay.readFile_of_stricter`: what a stricter loader finds, the other one finds.
-/

namespace OverlayChain

variable {σ : Type} {env : Env σ}

namespace Loader

/-- Where a loader is rooted, without its policy. -/
def Node.site (node : Node) : Directory × Option Clone := (node.root, node.source)

/-- Where a loader and those above it are rooted, the loader first. -/
def sites (loader : Loader) : List (Directory × Option Clone) := loader.lineage.map Node.site

variable {loader other : Loader} {N : ReadPolicy → ReadPolicy → Prop}
  {V : Validator → Validator → Prop}

theorem nearestClone?_eq (loader : Loader) :
    loader.nearestClone? = loader.sites.findSome? Prod.snd := by
  rw [nearestClone?, sites, List.findSome?_map]
  rfl

theorem checkDirectory_eq (loader : Loader) (candidate : Directory) :
    loader.checkDirectory candidate =
      match loader.sites.find? fun site => site.1.isWithin candidate.path with
      | some visited => .error (.directoryCycle candidate.path visited.1.path)
      | none => .ok () := by
  have hfind : (loader.sites.find? fun site => site.1.isWithin candidate.path) =
      (loader.lineage.find? fun node => node.root.isWithin candidate.path).map Node.site := by
    rw [sites, List.find?_map]
    rfl
  rw [checkDirectory, hfind]
  cases loader.lineage.find? fun node => node.root.isWithin candidate.path with
  | none => rfl
  | some visited => rfl

theorem checkRepository_eq (loader : Loader) (ref : RemoteRef) :
    loader.checkRepository ref =
      match (loader.sites.filterMap Prod.snd).find? fun seen => seen.ref.overlaps ref with
      | some seen => .error (.repositoryCycle ref.identity seen.ref.identity)
      | none => .ok () := by
  rw [checkRepository, sites, List.filterMap_map]
  rfl

/-- Two loaders that differ at most in their rules: in their own policies as `N` says, in those of
the loaders above in any way, and in their validators as `V` says. -/
structure SameUpTo (N : ReadPolicy → ReadPolicy → Prop) (V : Validator → Validator → Prop)
    (loader other : Loader) : Prop where
  sites : loader.sites = other.sites
  lease : loader.lease = other.lease
  policy : N loader.node.policy other.node.policy
  validator : V loader.validator other.validator

namespace SameUpTo

theorem site (h : SameUpTo N V loader other) : loader.node.site = other.node.site :=
  (List.cons.inj h.sites).1

theorem root (h : SameUpTo N V loader other) : loader.root = other.root :=
  congrArg Prod.fst h.site

theorem source (h : SameUpTo N V loader other) : loader.node.source = other.node.source :=
  congrArg Prod.snd h.site

theorem cleanup (h : SameUpTo N V loader other) : loader.cleanup env = other.cleanup env := by
  rw [Loader.cleanup, Loader.cleanup, h.lease]

/-- First loaders for the same path differ at most in their rules. -/
theorem of_origin {validator validator' : Validator} {policy policy' : ReadPolicy} {path : Path}
    {s t : σ} (hpolicy : N policy policy') (hvalidator : V validator validator')
    (h : Loader.origin env validator policy path s = (.ok loader, t)) :
    ∃ other, Loader.origin env validator' policy' path s = (.ok other, t) ∧
      SameUpTo N V loader other := by
  obtain ⟨root, hroot, rfl⟩ := origin_eq_ok_iff.1 h
  exact ⟨_, origin_eq_ok_iff.2 ⟨root, hroot, rfl⟩, ⟨rfl, rfl, hpolicy, hvalidator⟩⟩

theorem extend (h : SameUpTo N V loader other) {policy policy' : ReadPolicy}
    (hpolicy : N policy policy') (root : Directory) (source : Option Clone)
    (lease : Option Directory) :
    SameUpTo N V (loader.extend ⟨root, policy, source⟩ lease)
      (other.extend ⟨root, policy', source⟩ lease) where
  sites := List.cons_eq_cons.2 ⟨rfl, h.sites⟩
  lease := rfl
  policy := hpolicy
  validator := h.validator

theorem localChild (h : SameUpTo N V loader other) (base : String) :
    (loader.localChild env base).Matches (SameUpTo N V) (other.localChild env base) := by
  rw [Loader.localChild, Loader.localChild, h.root, nearestClone?_eq loader, nearestClone?_eq other,
    h.sites]
  refine .bind _ fun _ => ?_
  split
  · exact fun s => .inl ⟨_, s, rfl, rfl⟩
  · refine .bind _ fun root => .bind _ fun _ => ?_
    rw [checkDirectory_eq loader, checkDirectory_eq other, h.sites]
    exact .bind _ fun _ => .bind _ fun _ => .pure (h.extend h.policy root none none)

/-- In a clone both children are confined. -/
theorem remoteChild (h : SameUpTo N V loader other) (hconfined : N .confined .confined)
    (ref : RemoteRef) :
    (loader.remoteChild env ref).Matches (SameUpTo N V) (other.remoteChild env ref) := by
  rw [Loader.remoteChild, Loader.remoteChild, h.root]
  refine .bind _ fun _ => .bind _ fun left => .bind _ fun rooted => ?_
  cases rooted with
  | ok root => exact .bind _ fun _ => .pure (h.extend hconfined root _ left.dir)
  | error error =>
    refine .bind _ fun removed => ?_
    cases removed with
    | ok _ => exact .throw error
    | error removal => exact .bind _ fun _ => .throw error

/-- Loaders that differ at most in their rules have the same children for a base, up to the rules,
or are refused alike. -/
theorem child (env : Env σ) (h : SameUpTo N V loader other) (hconfined : N .confined .confined)
    (base : String) :
    (loader.child env base).Matches (SameUpTo N V) (other.child env base) := by
  rw [Loader.child, Loader.child]
  split
  · exact .throw _
  · split
    · next ref _ =>
      rw [checkRepository_eq loader, checkRepository_eq other, h.sites]
      exact .bind _ fun _ => .bind _ fun _ => h.remoteChild hconfined ref
    · exact h.localChild base

end SameUpTo

/-- A loader is stricter than another one if it ends every request to read a text as the other one
does, unless it refuses. A refusal is no failure to read. -/
def Stricter (env : Env σ) (loader other : Loader) : Prop :=
  ∀ (text : String) s, loader.load env ⟨text⟩ s = other.load env ⟨text⟩ s ∨
    ∃ refusal t, loader.load env ⟨text⟩ s = (.error refusal, t) ∧ ∀ cause, refusal ≠ .io cause

/-- What a stricter loader reads, the other one reads. -/
theorem Stricter.load (h : loader.Stricter env other) {text : String} {content : ByteArray}
    {s t : σ} (hload : loader.load env ⟨text⟩ s = (.ok content, t)) :
    other.load env ⟨text⟩ s = (.ok content, t) := by
  rcases h text s with hsame | ⟨refusal, u, hrefused, -⟩
  · rw [← hsame, hload]
  · rw [hload] at hrefused
    cases hrefused

/-- A loader under the same policy at the same root is as strict. -/
theorem Stricter.of_same (hroot : loader.root = other.root)
    (hpolicy : loader.node.policy = other.node.policy) : loader.Stricter env other := by
  intro text s
  rw [Loader.load, Loader.load, hroot, hpolicy]
  exact .inl rfl

end Loader

namespace Overlay

variable {loader other : Loader} {file : File} {s t : σ}

/-- Only a name that is not found leads on to the next one, and a refusal is no such answer. -/
theorem readFirst_of_stricter (h : loader.Stricter env other) {names : List String}
    (hread : readFirst env loader names s = (.ok file, t)) :
    readFirst env other names s = (.ok file, t) := by
  induction names generalizing s with
  | nil => cases hread
  | cons name names ih =>
    rw [readFirst, Action.bind_of_ok (Action.attempt_apply _ s)] at hread ⊢
    rcases h name s with hsame | ⟨refusal, u, hrefused, hio⟩
    · rw [hsame] at hread
      rcases hload : other.load env ⟨name⟩ s with ⟨error | content, u⟩
      · rw [hload] at hread
        cases error with
        | io cause =>
          dsimp only at hread ⊢
          split at hread
          · next habsent =>
            rw [if_pos habsent]
            exact ih hread
          · cases hread
        | _ => cases hread
      · rw [hload] at hread
        exact hread
    · rw [hrefused] at hread
      cases refusal with
      | io cause => exact absurd rfl (hio cause)
      | _ => cases hread

/-- The overlay file that a stricter loader finds, the other one finds. -/
theorem readFile_of_stricter (h : loader.Stricter env other)
    (hread : readFile env loader s = (.ok file, t)) : readFile env other s = (.ok file, t) :=
  readFirst_of_stricter h hread

end Overlay

end OverlayChain
