import OverlayChain.Proofs.Overlay.Reading
import OverlayChain.Proofs.Overlay.Simulation

/-!
# What the rules of a chain change

The validator of a chain only filters: a tree is answered exactly if it is answered without
validation and all of its overlays are accepted. The confined policy only restricts: whatever is
read or resolved under it is so without it.

## Main definitions

- `Validator.Accepts`: a validator accepts what an overlay declares.
- `Validator.Replaced`: a validator with another one in its place.
- `Loader.under`: a loader under another policy.
- `ReadPolicy.Loosened`: a policy in the place of a stricter one.

## Main statements

- `Overlay.simulates_of_sameUpTo`: loaders that differ only in their rules are resolved alike.
- `Overlay.resolve_validated_iff`: the validator only filters.
- `Memory.confined_restricts`: the confined policy only restricts.
-/

namespace OverlayChain

/-- A validator accepts the namespace of an overlay, if it has one, and all of its labels. -/
def Validator.Accepts (validator : Validator) (overlay : Overlay.Resolved) : Prop :=
  (∀ name ∈ overlay.namespaceName, validator.checkNamespace name = .ok ()) ∧
    ∀ label ∈ overlay.labels, validator.checkLabel label.1 label.2 = .ok ()

theorem Validator.permissive_accepts (overlay : Overlay.Resolved) :
    permissive.Accepts overlay := ⟨fun _ _ => rfl, fun _ _ => rfl⟩

/-- A validator with another one in its place. -/
def Validator.Replaced (before after validator other : Validator) : Prop :=
  validator = before ∧ other = after

theorem Validator.replaced (before after : Validator) : Replaced before after before after :=
  ⟨rfl, rfl⟩

namespace Overlay

variable {σ : Type} {env : Env σ} {validator : Validator}

/-- An overlay file is accepted exactly if what it declares is. -/
theorem checkFile_eq_ok_iff {loader : Loader} {file : File} {files : List LoadedFile}
    {bases : List Tree} :
    checkFile validator file = .ok () ↔
      validator.Accepts (treeOf loader file files bases).overlay := by
  have hlabels := Action.except_forM_eq_ok_iff file.labels fun label =>
    validator.checkLabel label.1 label.2
  rw [checkFile]
  change _ ↔ (∀ name ∈ file.namespaceName, _) ∧ ∀ label ∈ file.labels, _
  rw [← hlabels]
  cases file.namespaceName with
  | none => simp
  | some name => simp [Action.except_unit_bind_eq_ok_iff]

/-- Two loaders that differ at most in their rules are resolved to the same tree, if the first one
is stricter and its validator accepts no more than the other one does. -/
theorem simulates_of_sameUpTo {N : ReadPolicy → ReadPolicy → Prop}
    {V : Validator → Validator → Prop} {P Q : Resolved → Prop} (hconfined : N .confined .confined)
    (hstricter : ∀ loader other : Loader, loader.SameUpTo N V other → loader.Stricter env other)
    (haccepts : ∀ validator other overlay, V validator other → validator.Accepts overlay →
      P overlay → other.Accepts overlay ∧ Q overlay) :
    Simulates env Eq (Loader.SameUpTo N V) (Tree.All fun part => P part.overlay)
      fun tree tree' => (tree.All fun part => Q part.overlay) ∧ tree = tree' where
  file := by
    rintro loader other s _ t file hloader rfl h
    exact ⟨t, readFile_of_stricter (hstricter _ _ hloader) h, rfl⟩
  child := by
    rintro loader other child s _ t base hloader rfl - h
    obtain ⟨child', hrun, hchild⟩ := (hloader.child env hconfined base).of_ok h
    exact ⟨child', t, hrun, hchild, rfl⟩
  resource := by
    rintro loader other s _ t u entry error content hloader rfl - hchild hfile hload
    have hrefused := (hloader.child env hconfined entry).of_error hchild
    refine ⟨error, t, u, hrefused, hfile, (hstricter _ _ hloader).load hload, ?_⟩
    rw [reportLoaded, reportLoaded, hloader.root]
  cleanup := by
    rintro loader other s _ t hloader rfl h
    rw [hloader.cleanup] at h
    exact ⟨t, h, rfl⟩
  node := by
    rintro loader other file files bases bases' hloader h htree hbases
    rw [List.forall₂_and_left, List.forall₂_eq_eq_eq] at hbases
    obtain ⟨hall, rfl⟩ := hbases
    have htop : P (treeOf loader file files bases).overlay := htree.top
    obtain ⟨haccepts', hpromised⟩ :=
      haccepts _ _ _ hloader.validator (checkFile_eq_ok_iff.1 h) htop
    refine ⟨checkFile_eq_ok_iff.2 haccepts', .node hpromised hall, ?_⟩
    rw [treeOf, treeOf, hloader.root, hloader.source]
  below := by
    rintro overlay bases h
    exact h.bases

/-- What is resolved under a validator is resolved without validation, and is accepted. -/
theorem simulates_permissive (env : Env σ) (validator : Validator) :
    Simulates env Eq
      (Loader.SameUpTo Eq (Validator.Replaced validator .permissive)) (Tree.All fun _ => True)
      fun tree tree' => (tree.All fun part => validator.Accepts part.overlay) ∧ tree = tree' := by
  refine simulates_of_sameUpTo (P := fun _ => True) rfl (fun _ _ h => .of_same h.root h.policy) ?_
  rintro _ _ overlay ⟨rfl, rfl⟩ haccepts -
  exact ⟨Validator.permissive_accepts overlay, haccepts⟩

/-- What is resolved without validation and is accepted is resolved under the validator. -/
theorem simulates_validated (env : Env σ) (validator : Validator) :
    Simulates env Eq
      (Loader.SameUpTo Eq (Validator.Replaced .permissive validator))
      (Tree.All fun part => validator.Accepts part.overlay)
      fun tree tree' => (tree.All fun _ => True) ∧ tree = tree' := by
  refine simulates_of_sameUpTo (Q := fun _ => True) rfl (fun _ _ h => .of_same h.root h.policy) ?_
  rintro _ _ overlay ⟨rfl, rfl⟩ - haccepts
  exact ⟨haccepts, trivial⟩

/-- The validator only filters: a tree is answered exactly if it is answered without validation and
the validator, `Validator.dns1123` or any other one, accepts the namespace and the labels of all of
its overlays. Both resolutions lead to the same state. -/
theorem resolve_validated_iff (env : Env σ) (validator : Validator) (policy : ReadPolicy)
    (path : Path) (bound : Nat) (s t w u : σ) (tree : Tree) :
    (∃ loader, Loader.origin env validator policy path s = (.ok loader, t) ∧
        resolve env bound loader w = some (.ok tree, u)) ↔
      (∃ loader, Loader.origin env .permissive policy path s = (.ok loader, t) ∧
        resolve env bound loader w = some (.ok tree, u)) ∧
      tree.All fun part =>
        (∀ name ∈ part.overlay.namespaceName, validator.checkNamespace name = .ok ()) ∧
          ∀ label ∈ part.overlay.labels, validator.checkLabel label.1 label.2 = .ok () := by
  constructor
  · rintro ⟨strict, horigin, hrun⟩
    obtain ⟨lenient, horigin', hsame⟩ := Loader.SameUpTo.of_origin (N := Eq) rfl
      (Validator.replaced validator .permissive) horigin
    obtain ⟨_, _, hrun', ⟨haccepted, rfl⟩, rfl⟩ :=
      (simulates_permissive env validator).resolve bound hsame rfl hrun
        (.of_forall (fun _ => trivial) tree)
    exact ⟨⟨lenient, horigin', hrun'⟩, haccepted⟩
  · rintro ⟨⟨lenient, horigin, hrun⟩, haccepted⟩
    obtain ⟨strict, horigin', hsame⟩ := Loader.SameUpTo.of_origin (N := Eq) rfl
      (Validator.replaced .permissive validator) horigin
    obtain ⟨_, _, hrun', ⟨-, rfl⟩, rfl⟩ :=
      (simulates_validated env validator).resolve bound hsame rfl hrun haccepted
    exact ⟨strict, horigin', hrun'⟩

end Overlay

/-- The loader under another policy. -/
def Loader.under (loader : Loader) (policy : ReadPolicy) : Loader :=
  { loader with node := { loader.node with policy } }

/-- A policy in the place of a stricter one, or the same policy. -/
def ReadPolicy.Loosened (policy other : ReadPolicy) : Prop :=
  policy = .confined ∨ other = .unrestricted

namespace Memory

variable {cloner : Cloner Memory} {loader other : Loader}

/-- A confined loader reads what it does not refuse at the place that is asked for, as an
unrestricted loader does. -/
theorem stricter_of_confined (hroot : loader.root = other.root)
    (hconfined : loader.node.policy = .confined) (hfree : other.node.policy = .unrestricted) :
    loader.Stricter (env cloner) other := by
  intro text m
  rw [load_confined hconfined, load_unrestricted hfree]
  have hrequested : other.requested ⟨text⟩ = loader.requested ⟨text⟩ := by
    rw [Loader.requested, Loader.requested, hroot]
  rw [hrequested]
  rcases hlocate : m.locate (loader.requested ⟨text⟩) with error | ⟨dir, file⟩
  · obtain ⟨message, rfl⟩ := locate_fails (loader.requested ⟨text⟩) m error m
      (by rw [fileSystem_locate, hlocate])
    exact .inr ⟨_, m, rfl, by simp⟩
  · cases file with
    | none => exact .inr ⟨_, m, rfl, by simp⟩
    | some name =>
      dsimp only
      by_cases hwithin : dir.isWithin loader.root.path = true
      · rw [if_pos hwithin, read_located (Path.isText_mk text) hlocate hwithin]
        exact .inl rfl
      · rw [if_neg hwithin]
        exact .inr ⟨_, m, rfl, by simp⟩

/-- A loader under a stricter policy is stricter. -/
theorem stricter_of_loosened {V : Validator → Validator → Prop}
    (h : loader.SameUpTo ReadPolicy.Loosened V other) : loader.Stricter (env cloner) other := by
  cases hpolicy : loader.node.policy with
  | confined =>
    cases hother : other.node.policy with
    | confined => exact .of_same h.root (hpolicy.trans hother.symm)
    | unrestricted => exact stricter_of_confined h.root hpolicy hother
  | unrestricted =>
    rcases h.policy with hconfined | hother
    · rw [hpolicy] at hconfined
      cases hconfined
    · exact .of_same h.root (hpolicy.trans hother.symm)

/-- What is resolved under stricter policies is resolved under looser ones. -/
theorem simulates_loosened (cloner : Cloner Memory) :
    Overlay.Simulates (env cloner) Eq (Loader.SameUpTo ReadPolicy.Loosened Eq)
      (Overlay.Tree.All fun _ => True)
      fun tree tree' => (tree.All fun _ => True) ∧ tree = tree' := by
  refine Overlay.simulates_of_sameUpTo (P := fun _ => True) (Q := fun _ => True) (.inl rfl)
    (fun _ _ h => stricter_of_loosened h) ?_
  rintro validator _ overlay rfl haccepts -
  exact ⟨haccepts, trivial⟩

/-- The confined policy only restricts. What is resolved under it is resolved to the same tree
without it, in the loaders for local bases too, and both resolutions lead to the same store. What a
loader reads under it for a text, it reads without it. -/
theorem confined_restricts (cloner : Cloner Memory) :
    (∀ (validator : Validator) (path : Path) (s t : Memory) (loader : Loader),
      Loader.origin (env cloner) validator .confined path s = (.ok loader, t) →
      ∃ free, Loader.origin (env cloner) validator .unrestricted path s = (.ok free, t) ∧
        ∀ bound w tree u, Overlay.resolve (env cloner) bound loader w = some (.ok tree, u) →
          Overlay.resolve (env cloner) bound free w = some (.ok tree, u)) ∧
    ∀ (loader : Loader) (text : String) (s t : Memory) (content : ByteArray),
      (loader.under .confined).load (env cloner) ⟨text⟩ s = (.ok content, t) →
      (loader.under .unrestricted).load (env cloner) ⟨text⟩ s = (.ok content, t) := by
  constructor
  · intro validator path s t loader horigin
    obtain ⟨free, horigin', hsame⟩ := Loader.SameUpTo.of_origin (N := ReadPolicy.Loosened) (V := Eq)
      (.inl rfl) rfl horigin
    refine ⟨free, horigin', fun bound w tree u hrun => ?_⟩
    obtain ⟨_, _, hrun', ⟨-, rfl⟩, rfl⟩ := (simulates_loosened cloner).resolve bound hsame rfl hrun
      (.of_forall (fun _ => trivial) tree)
    exact hrun'
  · intro loader text s t content hload
    have hstricter : (loader.under .confined).Stricter (env cloner) (loader.under .unrestricted) :=
      stricter_of_confined rfl rfl rfl
    exact hstricter.load hload

/-- An overlay with a base and a file. -/
def Sample.layered : Memory where
  files := [(place ⟨"/a/Kustomization"⟩, "resources: [b, x]".toUTF8),
    (place ⟨"/a/b/Kustomization"⟩, "namespace: n".toUTF8), (place ⟨"/a/x"⟩, "data".toUTF8)]
  dirs := [place ⟨"/a"⟩, place ⟨"/a/b"⟩]

/-- The first loader of a chain, at `/a`. -/
def Sample.guarded : Loader := ⟨⟨⟨⟨"/a"⟩⟩, .confined, none⟩, [], .dns1123, none⟩

/-- What the confined policy lets through is resolved and read without it. -/
theorem Sample.layered_resolves :
    (∃ free, Loader.origin (env (.fixed ⟨"/clone"⟩)) .dns1123 .unrestricted ⟨"/a"⟩ layered =
        (.ok free, layered) ∧
      ∃ tree u, Overlay.resolve (env (.fixed ⟨"/clone"⟩)) 2 free layered = some (.ok tree, u) ∧
        tree.count = 2) ∧
    (guarded.under .unrestricted).load (env (.fixed ⟨"/clone"⟩)) ⟨"b/../x"⟩ layered =
      (.ok "data".toUTF8, layered) := by
  obtain ⟨hresolves, hreads⟩ := confined_restricts (.fixed ⟨"/clone"⟩)
  have horigin : Loader.origin (env (.fixed ⟨"/clone"⟩)) .dns1123 .confined ⟨"/a"⟩ layered =
      (.ok guarded, layered) := rfl
  have hload : (guarded.under .confined).load (env (.fixed ⟨"/clone"⟩)) ⟨"b/../x"⟩ layered =
      (.ok "data".toUTF8, layered) := rfl
  have hok : (Overlay.resolve (env (.fixed ⟨"/clone"⟩)) 2 guarded layered).any (fun ended =>
      ended.1.toOption.any fun tree => tree.count = 2) = true := by decide +kernel
  refine ⟨?_, hreads _ _ _ _ _ hload⟩
  obtain ⟨⟨result, u⟩, hrun, hresult⟩ := (Option.any_eq_true _ _).1 hok
  cases result with
  | error error => cases hresult
  | ok tree =>
    obtain ⟨free, horigin', hfree⟩ := hresolves _ _ _ _ _ horigin
    exact ⟨free, horigin', tree, u, hfree _ _ _ _ hrun, of_decide_eq_true hresult⟩

end Memory

end OverlayChain
