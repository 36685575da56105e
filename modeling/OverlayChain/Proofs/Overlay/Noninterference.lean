import OverlayChain.Proofs.Loader.Containment
import OverlayChain.Proofs.Memory.Children
import OverlayChain.Proofs.Overlay.Reading
import OverlayChain.Proofs.Overlay.Success

/-!
# A clone is resolved by itself

Whether the overlays of a clone are resolved, and to which tree, does not depend on what lies
outside of the clone. Everything that a loader of the clone asks for outside of it is refused, in
one way or another, and a refusal never leads to a tree.

## Main definitions

- `Memory.Agree`: two stores hold the same at and below a place.
- `Loader.BoundTo`: a loader that keeps to its nearest clone, which is at a place.
- `Overlay.TransfersBelow`: what is assumed of the resolution of such loaders.

## Main statements

- `Overlay.resolve_transfers`: success carries over to a store that agrees on the clone.
- `Overlay.resolve_eq_ok_iff_of_agree`: stores that agree on the clone give the same tree.
-/

namespace OverlayChain

/-- Two stores hold the same directories and files at and below a place. -/
structure Memory.Agree (top : Location) (m m' : Memory) : Prop where
  isDir : ∀ place, top <+: place → m.isDir place = m'.isDir place
  content? : ∀ place, top <+: place → m.content? place = m'.content? place

/-- A loader that keeps to its nearest clone, which is at the place `top`. -/
def Loader.BoundTo (loader : Loader) (top root : Location) : Prop :=
  ∃ clone, loader.nearestClone? = some clone ∧ loader.KeepsTo clone top root

namespace Memory

variable {top root : Location} {dir : Path} {m m' : Memory} {parent child loader : Loader}
  {base : String}

theorem Agree.symm (h : Agree top m m') : Agree top m' m :=
  ⟨fun place hplace => (h.isDir place hplace).symm,
    fun place hplace => (h.content? place hplace).symm⟩

/-- What is removed from both stores is the same in both. -/
theorem agree_removeBelow (top : Location) (m m' : Memory) :
    Agree top (m.removeBelow top) (m'.removeBelow top) := by
  refine ⟨fun place hplace => ?_, fun place hplace => ?_⟩
  · rw [Bool.eq_iff_iff, isDir_removeBelow, isDir_removeBelow]
    simp [hplace]
  · rw [content?_removeBelow, content?_removeBelow, if_pos hplace, if_pos hplace]

/-- A child of a loader that is bound to the only clone is bound to it, and owns nothing else. -/
theorem Spawns.boundTo (h : Spawns (fun _ => some dir) m parent root base child)
    (hbound : parent.BoundTo (place dir) root) :
    (∃ root', child.BoundTo (place dir) root') ∧
      (child.lease = none ∨ child.lease = some ⟨(place dir).path⟩) := by
  obtain ⟨clone, hclone, hkeeps⟩ := hbound
  cases h with
  | within hbase hrelative hdir hwithin hcycle =>
    exact ⟨⟨_, clone, hclone, hkeeps.extend hclone hwithin⟩, .inl rfl⟩
  | remote ref path hbase hcycle hknown htop hdir hwithin =>
    cases hknown
    exact ⟨⟨_, ⟨ref, ⟨(place dir).path⟩⟩, rfl, rfl, rfl, hwithin, rfl⟩, .inr rfl⟩

/-- Stores that agree on the only clone spawn the same children of loaders that are bound to it. -/
theorem Spawns.agree (h : Spawns (fun _ => some dir) m parent root base child)
    (hbound : parent.BoundTo (place dir) root) (hagree : Agree (place dir) m m') :
    Spawns (fun _ => some dir) m' parent root base child := by
  -- The directory of a child is checked against the clone before anything is made of it.
  obtain ⟨clone, hclone, hkeeps⟩ := hbound
  cases h with
  | within hbase hrelative hdir hwithin hcycle =>
    rw [hagree.isDir _ (hkeeps.extend hclone hwithin).within] at hdir
    exact .within hbase hrelative hdir hwithin hcycle
  | remote ref path hbase hcycle hknown htop hdir hwithin =>
    cases hknown
    rw [hagree.isDir _ (List.prefix_refl _)] at htop
    rw [hagree.isDir _ hwithin] at hdir
    exact .remote ref dir hbase hcycle rfl htop hdir hwithin

end Memory

namespace Overlay

open Memory (Agree Spawns env)

variable {top root : Location} {dir : Path} {loader : Loader} {visit : Loader → Walk Memory Tree}

/-- Success of the walks of all loaders that are bound to the clone carries over to stores that
agree on it. -/
def TransfersBelow (dir : Path) (visit : Loader → Walk Memory Tree) : Prop :=
  ∀ child root, child.BoundTo (Memory.place dir) root →
    (visit child).Transfers (Agree (Memory.place dir)) fun _ => True

theorem child_transfers (hbound : loader.BoundTo (Memory.place dir) root) (base : String) :
    (Walk.ofAction (loader.child (env (.fixed dir)) base)).Transfers (Agree (Memory.place dir))
      fun child => (∃ root', child.BoundTo (Memory.place dir) root') ∧
        (child.lease = none ∨ child.lease = some ⟨(Memory.place dir).path⟩) := by
  obtain ⟨clone, hclone, hkeeps⟩ := hbound
  refine .ofAction fun m m' child t hagree hchild => ?_
  rw [Cloner.fixed_eq_pointing, Memory.child_eq_ok_iff hkeeps.rooted] at hchild
  obtain ⟨hne, rfl, hspawns⟩ := hchild
  refine ⟨hspawns.boundTo ⟨clone, hclone, hkeeps⟩, m', ?_, hagree⟩
  rw [Cloner.fixed_eq_pointing, Memory.child_eq_ok_iff hkeeps.rooted]
  exact ⟨hne, rfl, hspawns.agree ⟨clone, hclone, hkeeps⟩ hagree⟩

theorem cleanup_transfers
    (hlease : loader.lease = none ∨ loader.lease = some ⟨(Memory.place dir).path⟩) :
    (Walk.ofAction (loader.cleanup (env (.fixed dir)))).Transfers (Agree (Memory.place dir))
      fun _ => True := by
  refine .ofAction fun m m' done t hagree hcleanup => ⟨trivial, ?_⟩
  rw [Loader.cleanup] at hcleanup ⊢
  -- No other clone is owned than the one on which the stores agree.
  rcases hlease with hlease | hlease
  · rw [hlease] at hcleanup ⊢
    cases hcleanup
    exact ⟨m', rfl, hagree⟩
  · rw [hlease] at hcleanup ⊢
    cases hcleanup
    refine ⟨_, rfl, ?_⟩
    rw [Memory.place_path]
    exact Memory.agree_removeBelow _ m m'

theorem resolveChild_transfers {child : Loader}
    (hvisit : (visit child).Transfers (Agree (Memory.place dir)) fun _ => True)
    (hlease : child.lease = none ∨ child.lease = some ⟨(Memory.place dir).path⟩) :
    (resolveChild (env (.fixed dir)) visit child).Transfers (Agree (Memory.place dir))
      fun _ => True := by
  intro m m' tree u hagree h
  obtain ⟨t, hresolved, hcleanup⟩ := resolveChild_eq_ok_iff.1 h
  obtain ⟨-, t', hresolved', ht⟩ := hvisit m m' tree t hagree hresolved
  obtain ⟨-, u', hcleanup', hu⟩ :=
    cleanup_transfers hlease t t' () u ht (congrArg some hcleanup)
  exact ⟨trivial, u', resolveChild_eq_ok_iff.2 ⟨t', hresolved', Option.some.inj hcleanup'⟩, hu⟩

theorem resolveBases_transfers (hbound : loader.BoundTo (Memory.place dir) root)
    (hvisit : TransfersBelow dir visit) (bases : List String) :
    (resolveBases (env (.fixed dir)) visit loader bases).Transfers (Agree (Memory.place dir))
      fun _ => True := by
  induction bases with
  | nil => exact .pure trivial
  | cons base bases ih =>
    rw [resolveBases]
    refine .bind (child_transfers hbound base) fun child hchild => ?_
    obtain ⟨⟨root', hbound'⟩, hlease⟩ := hchild
    refine .bind (resolveChild_transfers (hvisit child root' hbound') hlease) fun tree _ => ?_
    exact .bind ih fun trees _ => .pure trivial

/-- Asked for a text, a loader that is bound to the clone reads the same from stores that agree on
the clone. -/
theorem load_transfers (hbound : loader.BoundTo (Memory.place dir) root) (text : String) :
    (Walk.ofAction (loader.load (env (.fixed dir)) ⟨text⟩)).Transfers (Agree (Memory.place dir))
      fun _ => True := by
  obtain ⟨clone, hclone, hkeeps⟩ := hbound
  refine .ofAction fun m m' content t hagree hload => ⟨trivial, ?_⟩
  rw [Memory.load_confined_eq_ok_iff hkeeps.confined hkeeps.rooted (Path.isText_mk _)] at hload
  obtain ⟨rfl, above, name, hsplit, hwithin, hno, hdir, hcontent⟩ := hload
  -- Clone, root, directory and file lie below each other, so the stores agree on all of them.
  have habove : Memory.place dir <+: above := hkeeps.within.trans hwithin
  have htarget : Memory.place dir <+: root.walk ⟨text⟩ := by
    rw [hsplit]
    exact habove.trans (List.prefix_append above [name])
  rw [hagree.isDir _ htarget] at hno
  rw [hagree.isDir _ habove] at hdir
  rw [hagree.content? _ htarget] at hcontent
  refine ⟨m', ?_, hagree⟩
  rw [Memory.load_confined_eq_ok_iff hkeeps.confined hkeeps.rooted (Path.isText_mk _)]
  exact ⟨rfl, above, name, hsplit, hwithin, hno, hdir, hcontent⟩

theorem readFile_transfers (hbound : loader.BoundTo (Memory.place dir) root) :
    (Walk.ofAction (readFile (env (.fixed dir)) loader)).Transfers (Agree (Memory.place dir))
      fun _ => True := by
  obtain ⟨clone, hclone, hkeeps⟩ := hbound
  have hsnd : ∀ m, (readFile (env (.fixed dir)) loader m).2 = m := fun m =>
    readFile_keeps (Memory.env_looks _ (· = m)) loader m rfl
  refine .ofAction fun m m' file t hagree hread => ⟨trivial, m', Prod.ext ?_ (hsnd m'), ?_⟩
  · rw [← Memory.readFile_congr hkeeps.confined hkeeps.rooted
      (hagree.isDir root hkeeps.within) fun name => ?_, hread]
    have hname : Memory.place dir <+: root ++ [name] :=
      hkeeps.within.trans (List.prefix_append root [name])
    exact ⟨hagree.isDir _ hname, hagree.content? _ hname⟩
  · have ht := hsnd m
    rw [hread] at ht
    rw [show t = m from ht]
    exact hagree

/-- An entry that a loader reads as a file is no base. -/
theorem child_of_load (hbound : loader.BoundTo (Memory.place dir) root) {entry : String}
    (hbase : RemoteRef.parse? entry = none) (hne : entry ≠ "") {m t : Memory} {content : ByteArray}
    (hload : loader.load (env (.fixed dir)) ⟨entry⟩ m = (.ok content, t)) :
    ∃ error, loader.child (env (.fixed dir)) entry m = (.error error, m) ∧
      mayBeFile entry error = true := by
  obtain ⟨clone, hclone, hkeeps⟩ := hbound
  rw [Memory.load_confined_eq_ok_iff hkeeps.confined hkeeps.rooted (Path.isText_mk _)] at hload
  obtain ⟨-, above, name, hsplit, -, hno, hdir, -⟩ := hload
  exact Memory.child_of_file hkeeps.rooted hbase hne hsplit hno hdir

/-- An entry that is read as a file from one store is a file in every other one that agrees on the
clone, so it is no base there either. -/
theorem resolveResource_transfers (hbound : loader.BoundTo (Memory.place dir) root)
    (hvisit : TransfersBelow dir visit) (entry : String) :
    (resolveResource (env (.fixed dir)) visit loader entry).Transfers (Agree (Memory.place dir))
      fun _ => True := by
  intro m m' found u hagree h
  obtain ⟨child, t, tree, hchild, hresolved, rfl⟩ | ⟨error, t, content, v, hchild, hfile, hload, rfl,
    rfl⟩ := resolveResource_eq_ok_iff.1 h
  · obtain ⟨⟨⟨root', hbound'⟩, hlease⟩, t', hchild', ht⟩ :=
      child_transfers hbound entry m m' child t hagree (congrArg some hchild)
    obtain ⟨-, u', hresolved', hu⟩ :=
      resolveChild_transfers (hvisit child root' hbound') hlease t t' tree u ht hresolved
    exact ⟨trivial, u', resolveResource_eq_ok_iff.2
      (.inl ⟨child, t', tree, Option.some.inj hchild', hresolved', rfl⟩), hu⟩
  · -- Whatever kept it from being a base in one store, in the other one it names a file as well.
    rw [Cloner.fixed_eq_pointing] at hchild
    obtain ⟨hne, hbase, rfl⟩ := Memory.of_mayBeFile hchild hfile
    obtain ⟨-, v', hload', hv⟩ :=
      load_transfers hbound entry _ m' content v hagree (congrArg some hload)
    obtain ⟨error', hchild', hfile'⟩ := child_of_load hbound hbase hne (Option.some.inj hload')
    exact ⟨trivial, v', resolveResource_eq_ok_iff.2
      (.inr ⟨error', m', content, v', hchild', hfile', Option.some.inj hload', rfl, rfl⟩), hv⟩

theorem resolveResources_transfers (hbound : loader.BoundTo (Memory.place dir) root)
    (hvisit : TransfersBelow dir visit) (entries : List String) :
    (resolveResources (env (.fixed dir)) visit loader entries).Transfers (Agree (Memory.place dir))
      fun _ => True := by
  induction entries with
  | nil => exact .pure trivial
  | cons entry entries ih =>
    rw [resolveResources]
    refine .bind (resolveResource_transfers hbound hvisit entry) fun found _ => ?_
    refine .bind ih fun rest _ => ?_
    cases found with
    | inl tree => exact .pure trivial
    | inr file => exact .pure trivial

theorem resolveNode_transfers (hbound : loader.BoundTo (Memory.place dir) root)
    (hvisit : TransfersBelow dir visit) :
    (resolveNode (env (.fixed dir)) visit loader).Transfers (Agree (Memory.place dir))
      fun _ => True := by
  have hcheck : ∀ file, (Walk.ofAction (Action.check (checkFile loader.validator file))).Transfers
      (Agree (Memory.place dir)) fun _ => True := by
    intro file
    refine .ofAction fun m m' done t hagree h => ?_
    obtain ⟨hdone, rfl⟩ := Action.check_eq_ok_iff.1 h
    exact ⟨trivial, m', Action.check_eq_ok_iff.2 ⟨hdone, rfl⟩, hagree⟩
  refine .bind (readFile_transfers hbound) fun file _ => ?_
  refine .bind (hcheck file) fun _ _ => ?_
  refine .bind (resolveBases_transfers hbound hvisit file.bases) fun trees _ => ?_
  exact .bind (resolveResources_transfers hbound hvisit file.resources) fun rest _ => .pure trivial

/-- Success carries over to a store that agrees on the clone. -/
theorem resolve_transfers (bound : Nat) (hbound : loader.BoundTo (Memory.place dir) root) :
    (resolve (env (.fixed dir)) bound loader).Transfers (Agree (Memory.place dir)) fun _ => True := by
  -- The bound is spent on the way down, and every loader on the way is bound to the same clone.
  induction bound generalizing loader root with
  | zero =>
    intro m m' tree t _ h
    cases h
  | succ bound ih => exact resolveNode_transfers hbound fun child root' hchild => ih hchild

/-- A loader whose chain goes through the only clone is resolved to the same trees from any two
stores that hold the same directories and files in the clone, whatever else they hold. -/
theorem resolve_eq_ok_iff_of_agree {clone : Clone} {m m' : Memory}
    (hloader : loader.Reachable (env (.fixed dir))) (hclone : loader.nearestClone? = some clone)
    (hdir : clone.dir = ⟨(Memory.place dir).path⟩) (hagree : Agree (Memory.place dir) m m')
    (bound : Nat) (tree : Tree) :
    (∃ t, resolve (env (.fixed dir)) bound loader m = some (.ok tree, t)) ↔
      ∃ t, resolve (env (.fixed dir)) bound loader m' = some (.ok tree, t) := by
  obtain ⟨top, root, hkeeps⟩ := hloader.keepsTo Memory.fileSystem_places
    (Cloner.fixed_locates dir Memory.fileSystem) hclone
  have htop : top = Memory.place dir := by
    have hpath := hkeeps.source.symm.trans hdir
    exact Location.path_injective (congrArg Directory.path hpath)
  have hbound : loader.BoundTo (Memory.place dir) root := ⟨clone, hclone, htop ▸ hkeeps⟩
  have htransfers := resolve_transfers bound hbound
  constructor
  · rintro ⟨t, h⟩
    obtain ⟨-, t', h', -⟩ := htransfers m m' tree t hagree h
    exact ⟨t', h'⟩
  · rintro ⟨t, h⟩
    obtain ⟨-, t', h', -⟩ := htransfers m' m tree t hagree.symm h
    exact ⟨t', h'⟩

/-- A store with a clone that holds one overlay. -/
def Sample.alone : Memory :=
  ⟨[(Memory.place ⟨"/clone/Kustomization"⟩, "namespace: n".toUTF8)], [Memory.place ⟨"/clone"⟩]⟩

/-- The same store with a file and a directory more, outside of the clone. -/
def Sample.accompanied : Memory :=
  ⟨(Memory.place ⟨"/secret"⟩, "token".toUTF8) :: alone.files, Memory.place ⟨"/a"⟩ :: alone.dirs⟩

theorem Sample.agree : Agree (Memory.place ⟨"/clone"⟩) alone accompanied := by
  have hne : ∀ place : Location, Memory.place ⟨"/clone"⟩ <+: place →
      place ≠ Memory.place ⟨"/a"⟩ ∧ place ≠ Memory.place ⟨"/secret"⟩ := by
    intro place hplace
    constructor
    · rintro rfl
      exact absurd hplace (by decide)
    · rintro rfl
      exact absurd hplace (by decide)
  refine ⟨fun place hplace => ?_, fun place hplace => ?_⟩
  · simp [Memory.isDir, accompanied, (hne place hplace).1]
  · have hsecret : (place == Memory.place ⟨"/secret"⟩) = false := by
      simpa using (hne place hplace).2
    simp [Memory.content?, accompanied, List.lookup_cons, hsecret]

/-- The loader of the clone is made in a store, and resolved in another one that holds more. -/
theorem Sample.guest_resolves :
    Loader.Sample.guest.Reachable (env (.fixed ⟨"/clone"⟩)) ∧
      Loader.Sample.guest.nearestClone? = some Loader.Sample.checkout ∧
      Loader.Sample.checkout.dir = ⟨(Memory.place ⟨"/clone"⟩).path⟩ ∧
      Agree (Memory.place ⟨"/clone"⟩) alone accompanied ∧
      ∃ tree t, resolve (env (.fixed ⟨"/clone"⟩)) 1 Loader.Sample.guest accompanied =
        some (.ok tree, t) := by
  have hreachable : Loader.Sample.guest.Reachable (env (.fixed ⟨"/clone"⟩)) := by
    have horigin := Loader.Reachable.origin (show Loader.origin (env (.fixed ⟨"/clone"⟩)) .permissive
      .unrestricted ⟨"/"⟩ alone = (.ok _, alone) from rfl)
    exact horigin.child (show Loader.child _ _ "git@h:o/r" alone = (.ok _, alone) from rfl)
  have hdir : Loader.Sample.checkout.dir = ⟨(Memory.place ⟨"/clone"⟩).path⟩ := by decide
  have hok : (resolve (env (.fixed ⟨"/clone"⟩)) 1 Loader.Sample.guest alone).any
      (fun ended => ended.1.toBool) = true := by decide +kernel
  obtain ⟨⟨result, t⟩, hrun, hresult⟩ := (Option.any_eq_true _ _).1 hok
  refine ⟨hreachable, rfl, hdir, Sample.agree, ?_⟩
  cases result with
  | error error => cases hresult
  | ok tree =>
    have hiff := resolve_eq_ok_iff_of_agree hreachable
      (show Loader.Sample.guest.nearestClone? = some Loader.Sample.checkout from rfl) hdir
      Sample.agree 1 tree
    exact ⟨tree, hiff.1 ⟨t, hrun⟩⟩

end Overlay

end OverlayChain
