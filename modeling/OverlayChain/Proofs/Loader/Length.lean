import OverlayChain.Proofs.Loader.Containment
import OverlayChain.Proofs.Loader.Cycle
import OverlayChain.Proofs.Memory.Built
import OverlayChain.Proofs.Memory.Children

/-!
# How long chains get

The loaders for local bases on a chain have different roots, and the loaders for references have
different identities. If the roots are directories of a store, and the identities occur in its
overlay files, then a chain is no longer than the number of those directories and identities.

## Main definitions

- `Loader.Charted`: the roots and the identities of a chain come from a store.

## Main statements

- `Loader.Charted.length_le`: how long such a chain gets.
- `Loader.Charted.extend`: children of such a chain.
-/

namespace OverlayChain.Loader

variable {σ : Type} {env : Env σ} {loader parent child : Loader} {whole : Memory}

/-- The roots of local bases are directories of a store, and the identities of references occur in
its overlay files. -/
structure Charted (loader : Loader) (whole : Memory) : Prop where
  rooted : ∀ node ∈ loader.lineage, node.source = none →
    ∃ place ∈ whole.directories, node.root = ⟨place.path⟩
  known : ∀ node ∈ loader.lineage, ∀ clone ∈ node.source, clone.ref.identity ∈ whole.identities

/-- The roots of the loaders for local bases. -/
def localRoots (lineage : List Node) : List Directory :=
  (lineage.filter fun node => node.source.isNone).map Node.root

/-- The identities of the loaders for references. -/
def identities (lineage : List Node) : List String :=
  (lineage.filterMap Node.source).map fun clone => clone.ref.identity

/-- Every loader is for a local base or for a reference. -/
theorem length_lineage (lineage : List Node) :
    lineage.length = (localRoots lineage).length + (identities lineage).length := by
  induction lineage with
  | nil => rfl
  | cons node lineage ih =>
    rw [localRoots, identities, List.length_map, List.length_map] at ih ⊢
    cases hsource : node.source with
    | none =>
      simp [hsource]
      omega
    | some clone =>
      simp [hsource]
      omega

theorem nodup_localRoots {lineage : List Node} (h : lineage.Pairwise Node.RootApart) :
    (localRoots lineage).Nodup := by
  refine List.pairwise_map.2 (List.pairwise_filter.2 (h.imp ?_))
  intro node above hapart hnode _ heq
  -- A local root encloses itself, so no root above is the same.
  have hwithin : above.root.isWithin node.root.path = false :=
    hapart (Option.isNone_iff_eq_none.1 hnode)
  have hself : node.root.isWithin node.root.path = true :=
    List.isPrefixOf_iff_prefix.2 (List.prefix_refl _)
  rw [← heq, hself] at hwithin
  cases hwithin

theorem nodup_identities {lineage : List Node} (h : lineage.Pairwise Node.RepositoryApart) :
    (identities lineage).Nodup := by
  refine List.pairwise_map.2 (List.pairwise_filterMap.2 (h.imp ?_))
  intro node above hapart clone hclone seen hseen heq
  exact hapart clone hclone seen hseen (.inl (heq ▸ List.prefix_refl _))

/-- A chain is no longer than the number of directories and identities of the store from which its
roots and identities come. -/
theorem Charted.length_le (h : loader.Charted whole)
    (hroot : loader.lineage.Pairwise Node.RootApart)
    (hrepository : loader.lineage.Pairwise Node.RepositoryApart) :
    loader.lineage.length ≤ whole.dirCount + whole.identities.length := by
  have hroots : localRoots loader.lineage ⊆
      whole.directories.map fun place => ⟨place.path⟩ := by
    intro root hroot
    obtain ⟨node, hnode, rfl⟩ := List.mem_map.1 hroot
    obtain ⟨hmem, hlocal⟩ := List.mem_filter.1 hnode
    obtain ⟨place, hplace, heq⟩ := h.rooted node hmem (Option.isNone_iff_eq_none.1 hlocal)
    rw [heq]
    exact List.mem_map_of_mem hplace
  have hidentities : identities loader.lineage ⊆ whole.identities := by
    intro identity hidentity
    obtain ⟨clone, hclone, rfl⟩ := List.mem_map.1 hidentity
    obtain ⟨node, hmem, hsource⟩ := List.mem_filterMap.1 hclone
    exact h.known node hmem clone hsource
  -- Neither roots nor identities repeat, so there are no more of them than the store has.
  have hlocal := (nodup_localRoots hroot).length_le_of_subset hroots
  have hremote := (nodup_identities hrepository).length_le_of_subset hidentities
  rw [List.length_map, Memory.length_directories] at hlocal
  rw [length_lineage]
  omega

/-- A child over a part of the store comes from the store as well, if its base does. -/
theorem Charted.extend {dirOf : RemoteRef → Option Path} {m : Memory} {root : Location}
    {base : String} (h : parent.Charted whole) (hpart : whole.Covers m)
    (hbase : ∀ ref, RemoteRef.parse? base = some ref → ref.identity ∈ whole.identities)
    (hspawns : Memory.Spawns dirOf m parent root base child) : child.Charted whole := by
  -- A local base adds a root and a reference adds an identity. The other half stays as it was.
  cases hspawns with
  | within hlocal hrelative hdir hclone hcycle =>
    constructor
    · intro node hnode hsource
      rcases List.mem_cons.1 hnode with rfl | hmem
      · exact ⟨_, Memory.mem_directories.2 (hpart.isDir _ hdir), rfl⟩
      · exact h.rooted node hmem hsource
    · intro node hnode clone hsource
      rcases List.mem_cons.1 hnode with rfl | hmem
      · cases hsource
      · exact h.known node hmem clone hsource
  | remote ref dir href hcycle hknown htop hdir hwithin =>
    constructor
    · intro node hnode hsource
      rcases List.mem_cons.1 hnode with rfl | hmem
      · cases hsource
      · exact h.rooted node hmem hsource
    · intro node hnode clone hsource
      rcases List.mem_cons.1 hnode with rfl | hmem
      · cases hsource
        exact hbase ref href
      · exact h.known node hmem clone hsource

/-- Every loader has its root at a place, if the file system finds only such directories. -/
theorem Reachable.exists_place (h : loader.Reachable env) (hplaces : env.fs.Places) :
    ∃ root : Location, loader.root = ⟨root.path⟩ := by
  refine h.induction (P := fun loader => ∃ root : Location, loader.root = ⟨root.path⟩) ?_ ?_ ?_
  · intro root policy validator path s t hroot
    exact place_of_admitRoot hplaces hroot
  · intro parent base child _ _ hgrows
    cases hgrows with
    | within root s t hbase hrelative hroot hclone hcycle =>
      exact place_of_admitRoot hplaces hroot
    | remote ref left dir root s t u v hbase hcycle hcloned hroot hwithin =>
      exact place_of_admitRoot hplaces hroot
  · intro loader ih
    exact ih

end OverlayChain.Loader
