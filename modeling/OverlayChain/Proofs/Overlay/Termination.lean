import OverlayChain.Proofs.Loader.Length
import OverlayChain.Proofs.Overlay.Limit
import OverlayChain.Proofs.Overlay.Reading

/-!
# Resolution ends

Over files in memory, with clones that are already there, resolution ends whatever the overlay files
declare. The store only loses entries on the way, so every root and every identity on a chain comes
from the store at the start, and no chain holds more loaders than there are directories and
identities in it.

## Main definitions

- `Overlay.OnChain`: the loaders that resolution over a store makes.
- `Overlay.EndsBelow`: what is assumed of the resolution of their children.

## Main statements

- `Overlay.resolveWithin_ends`: resolution does not run out.
- `Overlay.resolve_terminates`: resolution ends, with chains that are not too long.
-/

namespace OverlayChain

namespace Memory

variable {dirOf : RemoteRef → Option Path} {cloner : Cloner Memory} {m m' whole : Memory}
  {loader : Loader} {root : Location}

/-- Nothing that a loader does over a part of a store adds to it. -/
theorem env_keeps (dirOf : RemoteRef → Option Path) (whole : Memory) :
    (env (.pointing dirOf)).Keeps whole.Covers := by
  have hlooks := env_looks (.pointing dirOf) whole.Covers
  exact ⟨hlooks, fun path m hm => hm.removeBelow _, Cloner.pointing_keeps hlooks.locate⟩

/-- The references in an overlay file that was read over a part of a store are counted there. -/
theorem identity_mem_identities (hroot : loader.root = ⟨root.path⟩) (hpart : whole.Covers m)
    {file : Overlay.File} (hread : Overlay.readFile (env cloner) loader m = (.ok file, m'))
    {entry : String} (hentry : entry ∈ file.bases ++ file.resources) {ref : RemoteRef}
    (href : RemoteRef.parse? entry = some ref) : ref.identity ∈ whole.identities := by
  obtain ⟨name, content, htext, hcontent, hentries⟩ := exists_entriesOf_of_readFile hroot hread
  -- The file was there at the start, under the same name and with the same content.
  have hmem : (root ++ [name], content) ∈ whole.files :=
    mem_of_lookup (hpart.content? _ content hcontent)
  have hname : isOverlayFile (root ++ [name]) = true := by
    rw [isOverlayFile, List.getLast?_concat]
    simpa using htext
  rw [identities, List.mem_eraseDups, List.mem_filterMap]
  refine ⟨entry, List.mem_flatMap.2 ⟨_, List.mem_filter.2 ⟨hmem, hname⟩, ?_⟩, ?_⟩
  · rw [hentries]
    exact hentry
  · rw [href]
    rfl

end Memory

namespace Overlay

open Memory (env)

variable {dirOf : RemoteRef → Option Path} {whole : Memory} {loader : Loader}
  {visit : Loader → Walk Memory Tree}

/-- A loader of a chain over parts of a store. -/
structure OnChain (dirOf : RemoteRef → Option Path) (whole : Memory) (loader : Loader) : Prop where
  reachable : loader.Reachable (env (.pointing dirOf))
  charted : loader.Charted whole

/-- The walks of all loaders one further down on chains over parts of a store end. -/
def EndsBelow (dirOf : RemoteRef → Option Path) (whole : Memory) (loader : Loader)
    (visit : Loader → Walk Memory Tree) : Prop :=
  ∀ child, OnChain dirOf whole child → child.lineage.length = loader.lineage.length + 1 →
    (visit child).Ends whole.Covers fun _ => True

theorem OnChain.length_le (h : OnChain dirOf whole loader) :
    loader.lineage.length ≤ whole.dirCount + whole.identities.length :=
  h.charted.length_le h.reachable.pairwise_rootApart
    (h.reachable.pairwise_repositoryApart (Cloner.pointing_onlyRecords _ _))

theorem lineage_of_origin {cloner : Cloner Memory} {validator : Validator} {policy : ReadPolicy}
    {path : Path} {s t : Memory}
    (horigin : Loader.origin (env cloner) validator policy path s = (.ok loader, t)) :
    loader.lineage = [⟨loader.root, policy, none⟩] := by
  obtain ⟨root, -, rfl⟩ := Loader.eq_of_origin horigin
  rfl

/-- The first loader of a chain is on it, if its root is a directory of the store. -/
theorem onChain_origin {validator : Validator} {policy : ReadPolicy} {path : Path} {s t : Memory}
    {root : Location} (hroot : loader.root = ⟨root.path⟩) (hdir : whole.isDir root = true)
    (horigin : Loader.origin (env (.pointing dirOf)) validator policy path s = (.ok loader, t)) :
    OnChain dirOf whole loader := by
  have hlineage := lineage_of_origin horigin
  refine ⟨.origin horigin, fun node hnode _ => ?_, fun node hnode clone hclone => ?_⟩
  · rw [hlineage, List.mem_singleton] at hnode
    rw [hnode]
    exact ⟨root, Memory.mem_directories.2 hdir, hroot⟩
  · rw [hlineage, List.mem_singleton] at hnode
    rw [hnode] at hclone
    cases hclone

theorem OnChain.exists_place (h : OnChain dirOf whole loader) :
    ∃ root : Location, loader.root = ⟨root.path⟩ :=
  h.reachable.exists_place Memory.fileSystem_places

/-- A child is on the chain too, one further down. -/
theorem child_ends (h : OnChain dirOf whole loader) {base : String}
    (hbase : ∀ ref, RemoteRef.parse? base = some ref → ref.identity ∈ whole.identities) :
    (Walk.ofAction (loader.child (env (.pointing dirOf)) base)).Ends whole.Covers
      fun child => OnChain dirOf whole child ∧
        child.lineage.length = loader.lineage.length + 1 := by
  obtain ⟨root, hroot⟩ := h.exists_place
  refine .ofAction (Loader.child_keeps (Memory.env_keeps dirOf whole) base) ?_
  intro m child t hm hchild
  obtain ⟨-, -, hspawns⟩ := (Memory.child_eq_ok_iff hroot).1 hchild
  refine ⟨⟨h.reachable.child hchild, h.charted.extend hm hbase hspawns⟩, ?_⟩
  rw [(Loader.grows_of_child hchild).lineage, List.length_cons]

theorem readFile_ends (h : OnChain dirOf whole loader) :
    (Walk.ofAction (readFile (env (.pointing dirOf)) loader)).Ends whole.Covers
      fun file => ∀ entry ∈ file.bases ++ file.resources, ∀ ref,
        RemoteRef.parse? entry = some ref → ref.identity ∈ whole.identities := by
  obtain ⟨root, hroot⟩ := h.exists_place
  refine .ofAction (readFile_keeps (Memory.env_looks _ _) loader) ?_
  intro m file t hm hread entry hentry ref href
  exact Memory.identity_mem_identities hroot hm hread hentry href

theorem resolveChild_ends {child : Loader}
    (hvisit : (visit child).Ends whole.Covers fun _ => True) :
    (resolveChild (env (.pointing dirOf)) visit child).Ends whole.Covers
      fun _ => True := by
  have hkeeps := Loader.cleanup_keeps (Memory.env_keeps dirOf whole) child
  refine .bind hvisit.attempt fun resolved _ => ?_
  refine .bind (Walk.Ends.ofAction hkeeps fun _ _ _ _ _ => trivial).attempt fun cleaned _ => ?_
  cases resolved with
  | ok tree =>
    cases cleaned with
    | ok _ => exact .pure trivial
    | error error => exact .throw error
  | error error =>
    cases cleaned with
    | ok _ => exact .throw error
    | error removal =>
      have hlog := Action.Keeps.update (I := whole.Covers) fun _ hm => hm
      exact .bind (.ofAction hlog fun _ _ _ _ _ => trivial) fun _ _ => .throw error

theorem resolveBases_ends (h : OnChain dirOf whole loader)
    (hvisit : EndsBelow dirOf whole loader visit) {bases : List String}
    (hbases : ∀ base ∈ bases, ∀ ref, RemoteRef.parse? base = some ref →
      ref.identity ∈ whole.identities) :
    (resolveBases (env (.pointing dirOf)) visit loader bases).Ends whole.Covers
      fun _ => True := by
  induction bases with
  | nil => exact .pure trivial
  | cons base bases ih =>
    have hrest := ih fun other hother => hbases other (List.mem_cons_of_mem _ hother)
    refine .bind (child_ends h (hbases base (List.mem_cons_self ..))) fun child hchild => ?_
    refine .bind (resolveChild_ends (hvisit child hchild.1 hchild.2)) fun tree _ => ?_
    exact .bind hrest fun _ _ => .pure trivial

theorem resolveResource_ends (h : OnChain dirOf whole loader)
    (hvisit : EndsBelow dirOf whole loader visit) {entry : String}
    (hentry : ∀ ref, RemoteRef.parse? entry = some ref → ref.identity ∈ whole.identities) :
    (resolveResource (env (.pointing dirOf)) visit loader entry).Ends whole.Covers
      fun _ => True := by
  refine .bind (child_ends h hentry).attempt fun outcome houtcome => ?_
  cases outcome with
  | ok child =>
    obtain ⟨hchild, hlength⟩ := houtcome child rfl
    exact .bind (resolveChild_ends (hvisit child hchild hlength)) fun _ _ => .pure trivial
  | error error =>
    dsimp only
    split
    · have hload : (loader.load (env (.pointing dirOf)) ⟨entry⟩).Keeps whole.Covers :=
        Loader.load_keeps (Memory.env_looks _ _) ⟨entry⟩
      refine .bind (.ofAction hload fun _ _ _ _ _ => trivial) fun content _ => ?_
      refine .bind (.ofAction (.update fun _ hm => hm) fun _ _ _ _ _ => trivial) fun _ _ => ?_
      exact .pure trivial
    · exact .throw error

theorem resolveResources_ends (h : OnChain dirOf whole loader)
    (hvisit : EndsBelow dirOf whole loader visit) {entries : List String}
    (hentries : ∀ entry ∈ entries, ∀ ref, RemoteRef.parse? entry = some ref →
      ref.identity ∈ whole.identities) :
    (resolveResources (env (.pointing dirOf)) visit loader entries).Ends whole.Covers
      fun _ => True := by
  induction entries with
  | nil => exact .pure trivial
  | cons entry entries ih =>
    have hrest := ih fun other hother => hentries other (List.mem_cons_of_mem _ hother)
    have hfirst := resolveResource_ends h hvisit (hentries entry (List.mem_cons_self ..))
    refine .bind hfirst fun found _ => ?_
    refine .bind hrest fun _ _ => ?_
    cases found with
    | inl tree => exact .pure trivial
    | inr file => exact .pure trivial

theorem resolveNode_ends (h : OnChain dirOf whole loader)
    (hvisit : EndsBelow dirOf whole loader visit) :
    (resolveNode (env (.pointing dirOf)) visit loader).Ends whole.Covers
      fun _ => True := by
  refine .bind (readFile_ends h) fun file hfile => ?_
  have hbases := fun base hbase => hfile base (List.mem_append_left _ hbase)
  have hresources := fun entry hentry => hfile entry (List.mem_append_right _ hentry)
  refine .bind (.ofAction (.check _) fun _ _ _ _ _ => trivial) fun _ _ => ?_
  refine .bind (resolveBases_ends h hvisit hbases) fun trees _ => ?_
  exact .bind (resolveResources_ends h hvisit hresources) fun _ _ => .pure trivial

/-- Resolution does not run out, if its bound exceeds what is left of the longest chain. -/
theorem resolveWithin_ends (h : OnChain dirOf whole loader) {bound : Nat}
    (hbound : whole.dirCount + whole.identities.length < bound + loader.lineage.length) :
    (resolveWithin (env (.pointing dirOf)) (whole.dirCount + whole.identities.length) bound
      loader).Ends whole.Covers fun _ => True := by
  -- The bound falls as the chain gets longer, and the chain is never longer than the limit.
  have hlength := h.length_le
  induction bound generalizing loader with
  | zero => omega
  | succ bound ih =>
    rw [resolveWithin, if_pos hlength]
    refine resolveNode_ends h fun child hchild hdeeper => ?_
    exact ih hchild (by omega) hchild.length_le

/-- A loader whose root is no directory of the store has no overlay file there. -/
theorem readFile_of_not_isDir {cloner : Cloner Memory} {root : Location} (hbuilt : whole.Built)
    (hroot : loader.root = ⟨root.path⟩) (hno : whole.isDir root = false) :
    ∃ error t, readFile (env cloner) loader whole = (.error error, t) := by
  rcases hread : readFile (env cloner) loader whole with ⟨error | file, t⟩
  · exact ⟨error, t, rfl⟩
  · obtain ⟨text, htext, content, hcontent, -⟩ := Memory.content?_of_readFile hroot hread
    have hdir := hbuilt.isDir_dropLast hcontent
    have hplace : root.walk ⟨text⟩ = root ++ [⟨text, Memory.isName_of_mem_fileNames text htext⟩] :=
      Location.walk_name root ⟨text, _⟩
    rw [hplace, List.dropLast_concat, hno] at hdir
    cases hdir

/-- Over a store that was built, with clones that are already there, resolution that begins at the
first loader of a chain ends, and its answer does not depend on the bound. It ends as well if it
runs out as soon as a chain holds more loaders than there are directories in the store and
identities of references in its overlay files: so no chain does. -/
theorem resolve_terminates {whole : Memory} (hbuilt : whole.Built) {cloner : Cloner Memory}
    (hcloner : (∃ dir, cloner = .fixed dir) ∨ ∃ dirs, cloner = .byUrl dirs)
    {validator : Validator} {policy : ReadPolicy} {path : Path} {s t : Memory} {loader : Loader}
    (horigin : Loader.origin (env cloner) validator policy path s = (.ok loader, t)) :
    ∃ answer, ∀ bound, whole.dirCount + whole.identities.length ≤ bound →
      resolve (env cloner) bound loader whole = some answer ∧
        resolveWithin (env cloner) (whole.dirCount + whole.identities.length) bound loader whole =
          some answer := by
  obtain ⟨dirOf, rfl⟩ : ∃ dirOf, cloner = .pointing dirOf := by
    rcases hcloner with ⟨dir, rfl⟩ | ⟨dirs, rfl⟩
    · exact ⟨_, Cloner.fixed_eq_pointing dir⟩
    · exact ⟨_, Cloner.byUrl_eq_pointing dirs⟩
  -- It is enough that the resolution that looks at the length of chains ends under some bound.
  suffices hends : ∃ answer, ∃ bound ≤ whole.dirCount + whole.identities.length,
      resolveWithin (env (.pointing dirOf)) (whole.dirCount + whole.identities.length) bound loader
        whole = some answer by
    obtain ⟨answer, bound, hbound, hrun⟩ := hends
    exact ⟨answer, fun more hmore => resolve_of_resolveWithin (Nat.le_trans hbound hmore) hrun⟩
  have hpositive : 1 ≤ whole.dirCount := Nat.le_add_left 1 _
  have hlength : loader.lineage.length = 1 := by
    rw [lineage_of_origin horigin, List.length_singleton]
  obtain ⟨root, hroot⟩ := (Loader.Reachable.origin horigin).exists_place Memory.fileSystem_places
  by_cases hdir : whole.isDir root = true
  · have hchain : OnChain dirOf whole loader := onChain_origin hroot hdir horigin
    have hbound : whole.dirCount + whole.identities.length <
        whole.dirCount + whole.identities.length + loader.lineage.length := by omega
    obtain ⟨result, u, hrun, -, -⟩ :=
      resolveWithin_ends hchain hbound whole (Memory.Covers.refl whole)
    exact ⟨_, _, Nat.le_refl _, hrun⟩
  · -- The root was removed after the loader was made, and its overlay file with it.
    have hno : whole.isDir root = false := by simpa using hdir
    obtain ⟨error, u, hread⟩ : ∃ error u,
        readFile (env (.pointing dirOf)) loader whole = (.error error, u) :=
      readFile_of_not_isDir hbuilt hroot hno
    refine ⟨(.error error, u), 1, by omega, ?_⟩
    rw [resolveWithin, if_pos (by omega), resolveNode, Walk.bind_apply, Walk.ofAction_apply, hread]

/-- An overlay that is based on a reference, of which the clone is the overlay itself. -/
def Sample.looping : Memory where
  files := [(Memory.place ⟨"/a/Kustomization"⟩, "bases: [git@h:o/r]".toUTF8)]
  dirs := [Memory.place ⟨"/a"⟩]

theorem Sample.looping_built : Sample.looping.Built :=
  .addFile .empty ⟨"/a/Kustomization"⟩ "bases: [git@h:o/r]".toUTF8 rfl

/-- The first loader of a chain that goes around. -/
def Sample.looper : Loader := ⟨⟨⟨⟨"/a"⟩⟩, .confined, none⟩, [], .permissive, none⟩

/-- The overlay that is based on itself is resolved to some answer. -/
theorem Sample.looping_ends :
    Sample.looping.Built ∧
      Loader.origin (env (.fixed ⟨"/a"⟩)) .permissive .confined ⟨"/a"⟩ looping =
        (.ok looper, looping) ∧
      ∃ answer, ∀ bound, looping.dirCount + looping.identities.length ≤ bound →
        resolve (env (.fixed ⟨"/a"⟩)) bound looper looping = some answer := by
  have horigin : Loader.origin (env (.fixed ⟨"/a"⟩)) .permissive .confined ⟨"/a"⟩ looping =
      (.ok looper, looping) := rfl
  obtain ⟨answer, hanswer⟩ :=
    resolve_terminates looping_built (.inl ⟨⟨"/a"⟩, rfl⟩) horigin
  exact ⟨looping_built, horigin, answer, fun bound hbound => (hanswer bound hbound).1⟩

end Overlay

end OverlayChain
