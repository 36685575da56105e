import OverlayChain.Proofs.Overlay.Walk

/-!
# When resolution answers

Each part of resolution answers exactly if the requests that it consists of do. What it answers is
put together from their answers.

## Main definitions

- `Overlay.Tree.All`: what holds of all overlays of a tree.
- `Overlay.treeOf`: the tree of a loader, from what its overlay file says and what was found for it.

## Main statements

- `Overlay.resolveChild_eq_ok_iff`, `Overlay.resolveBases_eq_ok_iff`,
  `Overlay.resolveResource_eq_ok_iff`, `Overlay.resolveResources_eq_ok_iff`,
  `Overlay.resolveNode_eq_ok_iff`: what it takes for each part to answer.
-/

namespace OverlayChain.Overlay

/-- A property of all overlays of a tree, each with those that it is based on. -/
inductive Tree.All (P : Tree → Prop) : Tree → Prop
  | node {overlay : Resolved} {bases : List Tree} (h : P (.node overlay bases))
      (hbases : ∀ sub ∈ bases, All P sub) : All P (.node overlay bases)

theorem Tree.All.top {P : Tree → Prop} {tree : Tree} (h : tree.All P) : P tree := by
  cases h with
  | node h _ => exact h

theorem Tree.All.bases {P : Tree → Prop} {overlay : Resolved} {bases : List Tree}
    (h : Tree.All P (.node overlay bases)) : ∀ sub ∈ bases, sub.All P := by
  cases h with
  | node _ hbases => exact hbases

theorem Tree.All.of_forall {P : Tree → Prop} (h : ∀ part, P part) : ∀ tree : Tree, tree.All P
  | .node overlay bases => .node (h _) fun sub _ => of_forall h sub

theorem Tree.All.imp {P Q : Tree → Prop} {tree : Tree} (h : tree.All P)
    (himp : ∀ part, P part → Q part) : tree.All Q := by
  induction h with
  | node h _ ih => exact .node (himp _ h) ih

variable {σ : Type} {env : Env σ} {visit : Loader → Walk σ Tree} {loader child : Loader} {s u : σ}

/-- The tree of a loader, from its overlay file, the files that were read and the trees below. -/
def treeOf (loader : Loader) (file : File) (files : List LoadedFile) (bases : List Tree) : Tree :=
  let remote := loader.node.source.map fun clone => clone.ref.identity
  .node ⟨loader.root.path, remote, file.namespaceName, file.labels, files⟩ bases

/-- A child is resolved exactly if its subtree is and it gives up its clone. -/
theorem resolveChild_eq_ok_iff {tree : Tree} :
    resolveChild env visit child s = some (.ok tree, u) ↔
      ∃ t, visit child s = some (.ok tree, t) ∧ child.cleanup env t = (.ok (), u) := by
  rw [resolveChild, Walk.bind_apply, Walk.attempt_apply]
  rcases visit child s with - | ⟨resolved, t⟩
  · simp
  · rw [Option.map_some]
    dsimp only
    rw [Walk.bind_apply, Walk.ofAction_apply, Action.attempt_apply]
    dsimp only
    constructor
    · intro h
      rcases hcleanup : child.cleanup env t with ⟨removal | done, v⟩
      · rw [hcleanup] at h
        cases resolved with
        | ok tree => cases h
        | error error => cases h
      · rw [hcleanup] at h
        cases resolved with
        | ok tree =>
          cases h
          exact ⟨t, rfl, hcleanup⟩
        | error error => cases h
    · rintro ⟨_, hresolved, hcleanup⟩
      cases hresolved
      rw [hcleanup]
      rfl

/-- The bases are resolved exactly if the first one is, and then the others. -/
theorem resolveBases_eq_ok_iff {base : String} {bases : List String} {trees : List Tree} :
    resolveBases env visit loader (base :: bases) s = some (.ok trees, u) ↔
      ∃ child t tree v rest, loader.child env base s = (.ok child, t) ∧
        resolveChild env visit child t = some (.ok tree, v) ∧
        resolveBases env visit loader bases v = some (.ok rest, u) ∧ trees = tree :: rest := by
  rw [resolveBases, Walk.bind_eq_ok_iff]
  simp only [Walk.bind_eq_ok_iff, Walk.ofAction_apply, Option.some.injEq]
  constructor
  · rintro ⟨child, t, hchild, tree, v, htree, rest, _, hrest, h⟩
    cases h
    exact ⟨child, t, tree, v, rest, hchild, htree, hrest, rfl⟩
  · rintro ⟨child, t, tree, v, rest, hchild, htree, hrest, rfl⟩
    exact ⟨child, t, hchild, tree, v, htree, rest, u, hrest, rfl⟩

/-- An entry of the resources is resolved exactly if it has a child that is, or if it may be a file
and is read. -/
theorem resolveResource_eq_ok_iff {entry : String} {found : Tree ⊕ LoadedFile} :
    resolveResource env visit loader entry s = some (.ok found, u) ↔
      (∃ child t tree, loader.child env entry s = (.ok child, t) ∧
        resolveChild env visit child t = some (.ok tree, u) ∧ found = .inl tree) ∨
      ∃ error t content v, loader.child env entry s = (.error error, t) ∧
        mayBeFile entry error = true ∧ loader.load env ⟨entry⟩ t = (.ok content, v) ∧
        (reportLoaded env loader entry content.size v).2 = u ∧
        found = .inr ⟨entry, content.size⟩ := by
  rw [resolveResource, Walk.bind_apply, Walk.ofAction_apply, Action.attempt_apply]
  dsimp only
  rcases hchild : loader.child env entry s with ⟨error | child, t⟩
  · dsimp only
    by_cases hfile : mayBeFile entry error = true
    · rw [if_pos hfile]
      simp only [Walk.bind_eq_ok_iff, Walk.ofAction_apply, Option.some.injEq]
      constructor
      · rintro ⟨content, v, hload, _, _, hreport, h⟩
        cases hreport
        cases h
        exact .inr ⟨error, t, content, v, rfl, hfile, hload, rfl, rfl⟩
      · rintro (⟨_, _, _, h, -⟩ | ⟨_, _, content, v, h, -, hload, rfl, rfl⟩)
        · cases h
        · cases h
          exact ⟨content, v, hload, (), _, rfl, rfl⟩
    · rw [if_neg hfile]
      constructor
      · intro h
        cases h
      · rintro (⟨_, _, _, h, -⟩ | ⟨_, _, _, _, h, hfile', -⟩)
        · cases h
        · cases h
          exact absurd hfile' hfile
  · dsimp only
    rw [Walk.bind_eq_ok_iff]
    constructor
    · rintro ⟨tree, _, htree, h⟩
      cases h
      exact .inl ⟨child, t, tree, rfl, htree, rfl⟩
    · rintro (⟨_, _, tree, h, htree, rfl⟩ | ⟨_, _, _, _, h, -⟩)
      · cases h
        exact ⟨tree, u, htree, rfl⟩
      · cases h

/-- What was found for an entry, put before what was found for the others. -/
def gathered : Tree ⊕ LoadedFile → List Tree × List LoadedFile → List Tree × List LoadedFile
  | .inl tree, (trees, files) => (tree :: trees, files)
  | .inr file, (trees, files) => (trees, file :: files)

/-- The resources are resolved exactly if the first entry is, and then the others. -/
theorem resolveResources_eq_ok_iff {entry : String} {entries : List String}
    {all : List Tree × List LoadedFile} :
    resolveResources env visit loader (entry :: entries) s = some (.ok all, u) ↔
      ∃ found t rest, resolveResource env visit loader entry s = some (.ok found, t) ∧
        resolveResources env visit loader entries t = some (.ok rest, u) ∧
        all = gathered found rest := by
  rw [resolveResources, Walk.bind_eq_ok_iff]
  simp only [Walk.bind_eq_ok_iff]
  constructor
  · rintro ⟨found, t, hfound, rest, v, hrest, h⟩
    cases found with
    | inl tree =>
      cases h
      exact ⟨.inl tree, t, rest, hfound, hrest, rfl⟩
    | inr file =>
      cases h
      exact ⟨.inr file, t, rest, hfound, hrest, rfl⟩
  · rintro ⟨found, t, rest, hfound, hrest, rfl⟩
    refine ⟨found, t, hfound, rest, u, hrest, ?_⟩
    cases found with
    | inl tree => rfl
    | inr file => rfl

/-- A loader is resolved exactly if its overlay file is read and accepted, and all of its entries
are resolved. -/
theorem resolveNode_eq_ok_iff {tree : Tree} :
    resolveNode env visit loader s = some (.ok tree, u) ↔
      ∃ file t bases v found, readFile env loader s = (.ok file, t) ∧
        checkFile loader.validator file = .ok () ∧
        resolveBases env visit loader file.bases t = some (.ok bases, v) ∧
        resolveResources env visit loader file.resources v = some (.ok found, u) ∧
        tree = treeOf loader file found.2 (bases ++ found.1) := by
  rw [resolveNode, Walk.bind_eq_ok_iff]
  simp only [Walk.bind_eq_ok_iff, Walk.ofAction_apply, Option.some.injEq, Action.check_eq_ok_iff]
  constructor
  · rintro ⟨file, t, hfile, _, _, ⟨hcheck, rfl⟩, bases, v, hbases, found, _, hfound, h⟩
    cases h
    exact ⟨file, t, bases, v, found, hfile, hcheck, hbases, hfound, rfl⟩
  · rintro ⟨file, t, bases, v, found, hfile, hcheck, hbases, hfound, rfl⟩
    exact ⟨file, t, hfile, (), t, ⟨hcheck, rfl⟩, bases, v, hbases, found, u, hfound, rfl⟩

end OverlayChain.Overlay
