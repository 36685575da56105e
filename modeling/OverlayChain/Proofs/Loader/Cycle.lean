import OverlayChain.Proofs.Loader.Chain
import OverlayChain.Proofs.Memory.Requests

/-!
# Chains without cycles

A child is compared only with the loaders above it, when it is made. Nothing that happens later
changes what those loaders are rooted in, so on a whole chain no local root encloses an earlier
root. What is compared of a repository is the reference before it is cloned, and what is kept is the
reference that the cloner leaves: with cloners that only record a directory, no repository of a chain
overlaps another one.

## Main definitions

- `RemoteRef.Comparable`: one identity begins with the other.
- `Loader.Node.RootApart`, `Loader.Node.RepositoryApart`: a loader does not go back to one above it.

## Main statements

- `Loader.lineage_apart`: the loaders of a chain are apart from each other.
- `Loader.Sample.renamed_overlaps`: a cloner that breaks its contract brings a repository back.
-/

namespace OverlayChain

/-- The identity of one reference begins with that of the other. -/
def RemoteRef.Comparable (a b : RemoteRef) : Prop :=
  a.identity.toList <+: b.identity.toList ∨ b.identity.toList <+: a.identity.toList

theorem RemoteRef.overlaps_iff {a b : RemoteRef} : a.overlaps b = true ↔ a.Comparable b := by
  simp [overlaps, Comparable]

namespace Loader

variable {σ : Type} {env : Env σ} {loader : Loader}

/-- The root of a local base does not enclose the root of a loader above it. -/
def Node.RootApart (node above : Node) : Prop :=
  node.source = none → above.root.isWithin node.root.path = false

/-- The repositories of a loader and of one above it do not overlap. -/
def Node.RepositoryApart (node above : Node) : Prop :=
  ∀ clone ∈ node.source, ∀ seen ∈ above.source, ¬ seen.ref.Comparable clone.ref

theorem checkDirectory_eq_ok_iff {candidate : Directory} :
    loader.checkDirectory candidate = .ok () ↔
      ∀ node ∈ loader.lineage, node.root.isWithin candidate.path = false := by
  rw [checkDirectory]
  cases hfind : loader.lineage.find? fun node => node.root.isWithin candidate.path with
  | none => simpa using hfind
  | some visited =>
    have hvisited : visited.root.isWithin candidate.path = true :=
      List.find?_some (p := fun node : Node => node.root.isWithin candidate.path) hfind
    constructor
    · intro h
      cases h
    · intro h
      rw [h visited (List.mem_of_find?_eq_some hfind)] at hvisited
      cases hvisited

theorem checkRepository_eq_ok_iff {ref : RemoteRef} :
    loader.checkRepository ref = .ok () ↔
      ∀ node ∈ loader.lineage, ∀ seen ∈ node.source, ¬ seen.ref.Comparable ref := by
  rw [checkRepository]
  cases hfind : (loader.lineage.filterMap Node.source).find? fun seen => seen.ref.overlaps ref with
  | none =>
    have hall := List.find?_eq_none.1 hfind
    refine iff_of_true rfl ?_
    intro node hnode seen hseen hcomparable
    exact hall seen (List.mem_filterMap.2 ⟨node, hnode, hseen⟩)
      (RemoteRef.overlaps_iff.2 hcomparable)
  | some seen =>
    obtain ⟨node, hnode, hseen⟩ := List.mem_filterMap.1 (List.mem_of_find?_eq_some hfind)
    have hoverlaps : seen.ref.overlaps ref = true :=
      List.find?_some (p := fun seen : Clone => seen.ref.overlaps ref) hfind
    constructor
    · intro h
      cases h
    · intro h
      exact absurd (RemoteRef.overlaps_iff.1 hoverlaps) (h node hnode seen hseen)

/-- A local base encloses no root above it. -/
theorem Grows.rootApart {parent child : Loader} {base : String} (h : Grows env parent base child) :
    ∀ above ∈ parent.lineage, child.node.RootApart above := by
  intro above habove hsource
  cases h with
  | within root s t hbase hrelative hroot hclone hcycle =>
    exact checkDirectory_eq_ok_iff.1 hcycle above habove
  | remote ref left dir root s t u v hbase hcycle hclone hroot hwithin => cases hsource

/-- A repository overlaps none above it, if the cloner leaves the reference that it was asked for. -/
theorem Grows.repositoryApart {parent child : Loader} {base : String}
    (hcontract : env.cloner.OnlyRecords env.fs) (h : Grows env parent base child) :
    ∀ above ∈ parent.lineage, child.node.RepositoryApart above := by
  intro above habove clone hsource seen hseen
  cases h with
  | within root s t hbase hrelative hroot hclone hcycle => cases hsource
  | remote ref left dir root s t u v hbase hcycle hclone hroot hwithin =>
    cases hsource
    obtain rfl : left = ref := hcontract.ref_eq hclone
    exact checkRepository_eq_ok_iff.1 hcycle above habove seen hseen

theorem Grows.lineage {parent child : Loader} {base : String} (h : Grows env parent base child) :
    child.lineage = child.node :: parent.lineage := by
  cases h <;> rfl

/-- What every child has with all loaders above it, any two loaders of a chain have. -/
theorem Reachable.pairwise {R : Node → Node → Prop} (h : loader.Reachable env)
    (hgrows : ∀ {parent child : Loader} {base : String}, Grows env parent base child →
      ∀ above ∈ parent.lineage, R child.node above) : loader.lineage.Pairwise R := by
  refine h.induction (P := fun loader => loader.lineage.Pairwise R) ?_ ?_ ?_
  · intro root policy validator path s t _
    exact List.pairwise_singleton _ _
  · intro parent base child _ ih hchild
    rw [hchild.lineage, List.pairwise_cons]
    exact ⟨hgrows hchild, ih⟩
  · intro loader ih
    exact ih

theorem Reachable.pairwise_rootApart (h : loader.Reachable env) :
    loader.lineage.Pairwise Node.RootApart := h.pairwise Grows.rootApart

theorem Reachable.pairwise_repositoryApart (h : loader.Reachable env)
    (hcontract : env.cloner.OnlyRecords env.fs) : loader.lineage.Pairwise Node.RepositoryApart :=
  h.pairwise (Grows.repositoryApart hcontract)

/-- Two cloners that agree on a reference make the same child for it. -/
theorem remoteChild_congr {cloner : Cloner σ} {ref : RemoteRef}
    (h : cloner.clone env.fs ⟨ref, none⟩ = env.cloner.clone env.fs ⟨ref, none⟩) :
    loader.remoteChild { env with cloner := cloner } ref = loader.remoteChild env ref := by
  unfold remoteChild Cloner.take
  rw [h]
  rfl

/-- A cloner is asked only for references that overlap none of the chain. -/
theorem child_congr {cloner : Cloner σ}
    (h : ∀ ref, loader.checkRepository ref = .ok () →
      cloner.clone env.fs ⟨ref, none⟩ = env.cloner.clone env.fs ⟨ref, none⟩) (base : String) :
    loader.child { env with cloner := cloner } base = loader.child env base := by
  unfold child
  split
  · rfl
  · cases hbase : RemoteRef.parse? base with
    | none => rfl
    | some ref =>
      funext s
      cases hcheck : loader.checkRepository ref with
      | error error => simp [Action.bind_apply, report_apply, noted, hcheck]
      | ok _ =>
        simp only [Action.bind_apply, report_apply, noted, hcheck, remoteChild_congr (h ref hcheck)]

/-- On every chain that requests can make, for every file system and every cloner: the root of a
local base encloses no root above it; no identity begins with another one, if the cloner changes
nothing of a reference but the directory; and the cloner is asked only for references whose identity is
comparable with none of the chain, each without a directory, so that no other answer of it matters. -/
theorem lineage_apart (h : loader.Reachable env) :
    loader.lineage.Pairwise Node.RootApart ∧
      (env.cloner.OnlyRecords env.fs → loader.lineage.Pairwise Node.RepositoryApart) ∧
      ∀ cloner : Cloner σ,
        (∀ ref, (∀ node ∈ loader.lineage, ∀ seen ∈ node.source, ¬ seen.ref.Comparable ref) →
          cloner.clone env.fs ⟨ref, none⟩ = env.cloner.clone env.fs ⟨ref, none⟩) →
        ∀ base, loader.child { env with cloner := cloner } base = loader.child env base := by
  refine ⟨h.pairwise_rootApart, h.pairwise_repositoryApart, ?_⟩
  intro cloner hagree base
  exact child_congr (fun ref hcheck => hagree ref (checkRepository_eq_ok_iff.1 hcheck)) base

/-- Four directories, in two trees. -/
def Sample.store : Memory :=
  ⟨[], ["/a", "/a/b", "/c", "/c/d"].map fun text : String => Memory.place ⟨text⟩⟩

/-- A repository. -/
def Sample.repository : RemoteRef := ⟨"git@h:o/r", "git@h:", "o/r", "", none, false⟩

/-- A chain of two local bases with a repository between them. -/
def Sample.chain : Loader :=
  ⟨⟨⟨⟨"/c/d"⟩⟩, .confined, none⟩,
    [⟨⟨⟨"/c"⟩⟩, .confined, some ⟨repository, ⟨⟨"/c"⟩⟩⟩⟩, ⟨⟨⟨"/a/b"⟩⟩, .unrestricted, none⟩,
      ⟨⟨⟨"/a"⟩⟩, .unrestricted, none⟩], .permissive, none⟩

theorem Sample.chain_reachable : Sample.chain.Reachable (Memory.env (.fixed ⟨"/c"⟩)) := by
  have horigin := Reachable.origin (show Loader.origin (Memory.env (.fixed ⟨"/c"⟩)) .permissive
    .unrestricted ⟨"/a"⟩ store = (.ok _, store) from rfl)
  have hbase := horigin.child (show Loader.child _ _ "b" store = (.ok _, store) from rfl)
  have hremote := hbase.child (show Loader.child _ _ "git@h:o/r" store = (.ok _, store) from rfl)
  exact hremote.child (show Loader.child _ _ "d" store = (.ok _, store) from rfl)

/-- On the chain through a repository, nothing is gone back to. -/
theorem Sample.chain_apart :
    Sample.chain.Reachable (Memory.env (.fixed ⟨"/c"⟩)) ∧
      (Memory.env (.fixed ⟨"/c"⟩)).cloner.OnlyRecords Memory.fileSystem ∧
      Sample.chain.lineage.Pairwise Node.RootApart ∧
      Sample.chain.lineage.Pairwise Node.RepositoryApart := by
  obtain ⟨hroots, hrepositories, -⟩ := lineage_apart Sample.chain_reachable
  have hcontract := Cloner.fixed_onlyRecords ⟨"/c"⟩ Memory.fileSystem
  exact ⟨Sample.chain_reachable, hcontract, hroots, hrepositories hcontract⟩

/-- A cloner that leaves another reference than the one that it was asked for. -/
def Sample.renamer : Cloner Memory where
  clone _ _ := fun m => ((.ok (), ⟨repository, some ⟨⟨"/c"⟩⟩⟩), m)

/-- What the contract of cloners is needed for: a cloner that changes references brings a repository
back on the chain, although it is asked for another one. -/
theorem Sample.renamed_overlaps : ∃ loader : Loader,
    loader.Reachable (Memory.env renamer) ∧ ¬ loader.lineage.Pairwise Node.RepositoryApart := by
  have horigin := Reachable.origin (show Loader.origin (Memory.env renamer) .permissive
    .unrestricted ⟨"/a"⟩ store = (.ok _, store) from rfl)
  have hremote := horigin.child (show Loader.child _ _ "git@h:o/r" store = (.ok _, store) from rfl)
  have hagain := hremote.child (show Loader.child _ _ "git@h:p/q" store = (.ok _, store) from rfl)
  refine ⟨_, hagain, ?_⟩
  intro hapart
  have hnearest := (List.pairwise_cons.1 hapart).1 _ (List.mem_cons_self ..)
  exact hnearest _ rfl _ rfl (.inl (List.prefix_refl _))

end Loader

end OverlayChain
