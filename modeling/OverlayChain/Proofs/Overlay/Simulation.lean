import Mathlib.Data.List.Forall2
import OverlayChain.Proofs.Loader.Rules
import OverlayChain.Proofs.Overlay.Success

/-!
# Two resolutions side by side

Success of a resolution carries over to the resolution of another loader, in another state, if it
does so for each request that resolution makes, which are requests about the entries of the overlay
files that it reads. Of the first tree something may be assumed that
goes down to the overlays it is based on. Of both trees is promised what holds of an overlay once it
holds of those that it is based on.

## Main definitions

- `Overlay.Declared`: the entries that are asked for.
- `Overlay.Simulates`: what it takes for success to carry over.
- `Overlay.Simulates.Below`: success of the walks of related loaders carries over.

## Main statements

- `Overlay.Simulates.resolve`: success of a resolution carries over.
-/

namespace OverlayChain.Overlay

variable {σ : Type} {env : Env σ} {R : σ → σ → Prop} {L : Loader → Loader → Prop} {P : Tree → Prop}
  {T : Tree → Tree → Prop} {loader other : Loader}

/-- An entry of the overlay file of a loader, in a state that has a related one. -/
def Declared (env : Env σ) (R : σ → σ → Prop) (loader : Loader) (entry : String) : Prop :=
  ∃ s s' t file, R s s' ∧ readFile env loader s = (.ok file, t) ∧
    entry ∈ file.bases ++ file.resources

/-- What it takes for the success of one resolution to carry over to another one. `R` relates their
states, `L` their loaders and `T` their trees, and `P` is assumed of the trees of the first one. -/
structure Simulates (env : Env σ) (R : σ → σ → Prop) (L : Loader → Loader → Prop) (P : Tree → Prop)
    (T : Tree → Tree → Prop) : Prop where
  /-- Related loaders read the same overlay file. -/
  file {loader other : Loader} {s s' t : σ} {file : File} (hloader : L loader other) (hs : R s s')
      (h : readFile env loader s = (.ok file, t)) :
    ∃ t', readFile env other s' = (.ok file, t') ∧ R t t'
  /-- They have related children. -/
  child {loader other child : Loader} {s s' t : σ} {base : String} (hloader : L loader other)
      (hs : R s s') (hentry : Declared env R loader base)
      (h : loader.child env base s = (.ok child, t)) :
    ∃ child' t', other.child env base s' = (.ok child', t') ∧ L child child' ∧ R t t'
  /-- Of the entries that are no bases they read the same files. -/
  resource {loader other : Loader} {s s' t u : σ} {entry : String} {error : Error}
      {content : ByteArray} (hloader : L loader other) (hs : R s s')
      (hentry : Declared env R loader entry)
      (hchild : loader.child env entry s = (.error error, t))
      (hfile : mayBeFile entry error = true)
      (hload : loader.load env ⟨entry⟩ t = (.ok content, u)) :
    ∃ error' t' u', other.child env entry s' = (.error error', t') ∧
      mayBeFile entry error' = true ∧ other.load env ⟨entry⟩ t' = (.ok content, u') ∧
      R (reportLoaded env loader entry content.size u).2
        (reportLoaded env other entry content.size u').2
  /-- They give up their clones. -/
  cleanup {loader other : Loader} {s s' t : σ} (hloader : L loader other) (hs : R s s')
      (h : loader.cleanup env s = (.ok (), t)) :
    ∃ t', other.cleanup env s' = (.ok (), t') ∧ R t t'
  /-- They accept the same overlay file, and get related trees. -/
  node {loader other : Loader} {file : File} {files : List LoadedFile} {bases bases' : List Tree}
      (hloader : L loader other) (h : checkFile loader.validator file = .ok ())
      (htree : P (treeOf loader file files bases)) (hbases : List.Forall₂ T bases bases') :
    checkFile other.validator file = .ok () ∧
      T (treeOf loader file files bases) (treeOf other file files bases')
  /-- What is assumed of a tree is assumed of those that it is based on. -/
  below {overlay : Resolved} {bases : List Tree} (h : P (.node overlay bases)) :
    ∀ tree ∈ bases, P tree

namespace Simulates

variable {visit : Loader → Walk σ Tree}

/-- Success of the walks of related loaders carries over. -/
def Below (R : σ → σ → Prop) (L : Loader → Loader → Prop) (P : Tree → Prop) (T : Tree → Tree → Prop)
    (visit : Loader → Walk σ Tree) : Prop :=
  ∀ ⦃loader other s s' tree t⦄, L loader other → R s s' → visit loader s = some (.ok tree, t) →
    P tree → ∃ tree' t', visit other s' = some (.ok tree', t') ∧ T tree tree' ∧ R t t'

theorem resolveChild (h : Simulates env R L P T) (hvisit : Below R L P T visit) :
    Below R L P T (resolveChild env visit) := by
  intro child child' s s' tree u hchild hs hrun htree
  obtain ⟨t, hresolved, hcleanup⟩ := resolveChild_eq_ok_iff.1 hrun
  obtain ⟨tree', t', hresolved', hrelated, ht⟩ := hvisit hchild hs hresolved htree
  obtain ⟨u', hcleanup', hu⟩ := h.cleanup hchild ht hcleanup
  exact ⟨tree', u', resolveChild_eq_ok_iff.2 ⟨t', hresolved', hcleanup'⟩, hrelated, hu⟩

theorem resolveBases (h : Simulates env R L P T) (hvisit : Below R L P T visit)
    (hloader : L loader other) {bases : List String} {s s' u : σ} {trees : List Tree} (hs : R s s')
    (hentries : ∀ base ∈ bases, Declared env R loader base)
    (hrun : resolveBases env visit loader bases s = some (.ok trees, u))
    (htrees : ∀ tree ∈ trees, P tree) :
    ∃ trees' u', Overlay.resolveBases env visit other bases s' = some (.ok trees', u') ∧
      List.Forall₂ T trees trees' ∧ R u u' := by
  induction bases generalizing s s' trees with
  | nil =>
    cases hrun
    exact ⟨[], s', rfl, .nil, hs⟩
  | cons base bases ih =>
    obtain ⟨child, t, tree, v, rest, hchild, htree, hrest, rfl⟩ := resolveBases_eq_ok_iff.1 hrun
    rw [List.forall_mem_cons] at htrees hentries
    obtain ⟨child', t', hchild', hrelated, ht⟩ := h.child hloader hs hentries.1 hchild
    obtain ⟨tree', v', htree', htree_rel, hv⟩ := h.resolveChild hvisit hrelated ht htree htrees.1
    obtain ⟨rest', u', hrest', hrest_rel, hu⟩ := ih hv hentries.2 hrest htrees.2
    exact ⟨tree' :: rest', u',
      resolveBases_eq_ok_iff.2 ⟨child', t', tree', v', rest', hchild', htree', hrest', rfl⟩,
      .cons htree_rel hrest_rel, hu⟩

/-- What was found for an entry in both resolutions: trees that are related, or the same file. -/
inductive Found (T : Tree → Tree → Prop) : Tree ⊕ LoadedFile → Tree ⊕ LoadedFile → Prop
  | base {tree tree' : Tree} (h : T tree tree') : Found T (.inl tree) (.inl tree')
  | file (file : LoadedFile) : Found T (.inr file) (.inr file)

theorem resolveResource (h : Simulates env R L P T) (hvisit : Below R L P T visit)
    (hloader : L loader other) {entry : String} {s s' u : σ} {found : Tree ⊕ LoadedFile}
    (hs : R s s') (hentry : Declared env R loader entry)
    (hrun : resolveResource env visit loader entry s = some (.ok found, u))
    (hfound : ∀ tree, found = .inl tree → P tree) :
    ∃ found' u', Overlay.resolveResource env visit other entry s' = some (.ok found', u') ∧
      Found T found found' ∧ R u u' := by
  obtain ⟨child, t, tree, hchild, htree, rfl⟩ | ⟨error, t, content, v, hchild, hfile, hload, rfl,
    rfl⟩ := resolveResource_eq_ok_iff.1 hrun
  · obtain ⟨child', t', hchild', hrelated, ht⟩ := h.child hloader hs hentry hchild
    obtain ⟨tree', u', htree', htree_rel, hu⟩ :=
      h.resolveChild hvisit hrelated ht htree (hfound tree rfl)
    exact ⟨.inl tree', u',
      resolveResource_eq_ok_iff.2 (.inl ⟨child', t', tree', hchild', htree', rfl⟩),
      .base htree_rel, hu⟩
  · obtain ⟨error', t', v', hchild', hfile', hload', hv⟩ :=
      h.resource hloader hs hentry hchild hfile hload
    exact ⟨_, _, resolveResource_eq_ok_iff.2
      (.inr ⟨error', t', content, v', hchild', hfile', hload', rfl, rfl⟩), .file _, hv⟩

theorem resolveResources (h : Simulates env R L P T) (hvisit : Below R L P T visit)
    (hloader : L loader other) {entries : List String} {s s' u : σ}
    {all : List Tree × List LoadedFile} (hs : R s s')
    (hentries : ∀ entry ∈ entries, Declared env R loader entry)
    (hrun : resolveResources env visit loader entries s = some (.ok all, u))
    (hall : ∀ tree ∈ all.1, P tree) :
    ∃ trees' u', Overlay.resolveResources env visit other entries s' =
        some (.ok (trees', all.2), u') ∧ List.Forall₂ T all.1 trees' ∧ R u u' := by
  induction entries generalizing s s' all with
  | nil =>
    cases hrun
    exact ⟨[], s', rfl, .nil, hs⟩
  | cons entry entries ih =>
    obtain ⟨found, t, ⟨trees, files⟩, hfound, hrest, rfl⟩ := resolveResources_eq_ok_iff.1 hrun
    rw [List.forall_mem_cons] at hentries
    have hfirst : ∀ tree, found = .inl tree → P tree := by
      rintro tree rfl
      exact hall tree (List.mem_cons_self ..)
    have hothers : ∀ tree ∈ trees, P tree := by
      intro tree htree
      cases found with
      | inl first => exact hall tree (List.mem_cons_of_mem _ htree)
      | inr file => exact hall tree htree
    obtain ⟨found', t', hfound', hrelated, ht⟩ :=
      h.resolveResource hvisit hloader hs hentries.1 hfound hfirst
    obtain ⟨trees', u', hrest', htrees, hu⟩ := ih ht hentries.2 hrest hothers
    have hrun' := resolveResources_eq_ok_iff.2 ⟨found', t', (trees', files), hfound', hrest', rfl⟩
    cases hrelated with
    | base htree => exact ⟨_, u', hrun', .cons htree htrees, hu⟩
    | file file => exact ⟨_, u', hrun', htrees, hu⟩

theorem resolveNode (h : Simulates env R L P T) (hvisit : Below R L P T visit) :
    Below R L P T (resolveNode env visit) := by
  intro loader other s s' tree u hloader hs hrun htree
  obtain ⟨file, t, bases, v, ⟨more, files⟩, hfile, hcheck, hbases, hmore, rfl⟩ :=
    resolveNode_eq_ok_iff.1 hrun
  have hbelow : ∀ tree ∈ bases ++ more, P tree := h.below htree
  rw [List.forall_mem_append] at hbelow
  have hentries : ∀ entry ∈ file.bases ++ file.resources, Declared env R loader entry :=
    fun entry hentry => ⟨s, s', t, file, hs, hfile, hentry⟩
  rw [List.forall_mem_append] at hentries
  obtain ⟨t', hfile', ht⟩ := h.file hloader hs hfile
  obtain ⟨bases', v', hbases', hbases_rel, hv⟩ :=
    h.resolveBases hvisit hloader ht hentries.1 hbases hbelow.1
  obtain ⟨more', u', hmore', hmore_rel, hu⟩ :=
    h.resolveResources hvisit hloader hv hentries.2 hmore hbelow.2
  obtain ⟨hcheck', htrees⟩ := h.node hloader hcheck htree (List.rel_append hbases_rel hmore_rel)
  exact ⟨_, u', resolveNode_eq_ok_iff.2
    ⟨file, t', bases', v', (more', files), hfile', hcheck', hbases', hmore', rfl⟩, htrees, hu⟩

/-- Success of a resolution carries over, within the same bound. -/
theorem resolve (h : Simulates env R L P T) (bound : Nat) : Below R L P T (resolve env bound) := by
  -- The bound is spent on the way down, in both resolutions alike.
  induction bound with
  | zero =>
    intro loader other s s' tree t _ _ hrun
    cases hrun
  | succ bound ih => exact h.resolveNode ih

end Simulates

end OverlayChain.Overlay
