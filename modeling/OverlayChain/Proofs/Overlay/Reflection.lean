import Mathlib.Data.List.Forall2
import OverlayChain.Proofs.Loader.Length
import OverlayChain.Proofs.Memory.Remains
import OverlayChain.Proofs.Overlay.Noninterference

/-!
# A tree says what its overlay files say

A tree that resolution answers holds, for each of its overlays, what the overlay file in its root
declares: an overlay for every base, a file for every resource that is none, in the order of the
entries, and nothing else. This is so for the store with which the resolution begins, although
clones are removed on the way.

## Main definitions

- `Overlay.isBase`: an entry that is a base.
- `Overlay.LeadsTo`: the overlay that a base leads to.
- `Overlay.NamesFile`: the file that an entry names.
- `Overlay.Reflects`: an overlay says what its overlay file says.

## Main statements

- `Overlay.resolve_reflects`: all overlays of an answer say what their overlay files say.
-/

namespace OverlayChain.Overlay

open Memory (env place Remains Spawns)

/-- An entry that is a base: a remote reference, or a relative path to a directory. -/
def isBase (m : Memory) (root : Location) (entry : String) : Bool :=
  (RemoteRef.parse? entry).isSome ||
    !(Path.mk entry).isAbsolute && m.isDir (root.walk ⟨entry⟩)

/-- The overlay that a base leads to. -/
inductive LeadsTo (dir : Path) (m : Memory) (root : Location) (entry : String) (sub : Tree) : Prop
  /-- A directory, taken relative to the root. -/
  | within (hbase : RemoteRef.parse? entry = none) (hrelative : (Path.mk entry).isAbsolute = false)
      (hdir : m.isDir (root.walk ⟨entry⟩) = true)
      (hroot : sub.overlay.root = (root.walk ⟨entry⟩).path) (hremote : sub.overlay.remote = none)
  /-- A directory of the clone. -/
  | remote (ref : RemoteRef) (hbase : RemoteRef.parse? entry = some ref)
      (hdir : m.isDir (Location.walk (place dir) ⟨ref.path⟩) = true)
      (hwithin : place dir <+: Location.walk (place dir) ⟨ref.path⟩)
      (hroot : sub.overlay.root = (Location.walk (place dir) ⟨ref.path⟩).path)
      (hremote : sub.overlay.remote = some ref.identity)

/-- The file that an entry names: it lies strictly below the root. -/
structure NamesFile (m : Memory) (root : Location) (entry : String) (file : LoadedFile) : Prop where
  path : file.path = entry
  below : root <+: root.walk ⟨entry⟩
  ne_root : root.walk ⟨entry⟩ ≠ root
  size : ∃ content, m.content? (root.walk ⟨entry⟩) = some content ∧ file.size = content.size

/-- The overlay at the top of a tree says what its overlay file says. -/
structure Reflects (dir : Path) (m : Memory) (root : Location) (file : File) (tree : Tree) :
    Prop where
  root_eq : tree.overlay.root = root.path
  isDir : m.isDir root = true
  read : ∃ content, m.overlayContent? root = some content ∧ File.parse content = .ok file
  namespaceName : tree.overlay.namespaceName = file.namespaceName
  labels : tree.overlay.labels = file.labels
  bases : List.Forall₂ (LeadsTo dir m root) (file.bases ++ file.resources.filter (isBase m root))
    tree.bases
  files : List.Forall₂ (NamesFile m root) (file.resources.filter fun entry => !isBase m root entry)
    tree.overlay.files

/-- All overlays of a tree say what their overlay files say. -/
def Faithful (dir : Path) (m : Memory) (tree : Tree) : Prop :=
  tree.All fun part => ∃ root file, Reflects dir m root file part

variable {dir : Path} {m : Memory} {loader : Loader} {root : Location}
  {visit : Loader → Walk Memory Tree}

/-- A confined loader at a place, which owns no clone but the one directory. -/
structure Settled (dir : Path) (m : Memory) (loader : Loader) (root : Location) : Prop where
  confined : loader.node.policy = .confined
  rooted : loader.root = ⟨root.path⟩
  lease : loader.lease = none ∨
    loader.lease = some ⟨(place dir).path⟩ ∧ m.isDir (place dir) = true

/-- What is promised of the tree of a loader. -/
def TreeOf (dir : Path) (m : Memory) (loader : Loader) (tree : Tree) : Prop :=
  tree.overlay.root = loader.root.path ∧
    tree.overlay.remote = (loader.node.source.map fun clone => clone.ref.identity) ∧
    Faithful dir m tree

/-- The walks of all confined loaders give their trees. -/
def GivesBelow (dir : Path) (m : Memory) (visit : Loader → Walk Memory Tree) : Prop :=
  ∀ child root, Settled dir m child root →
    (visit child).Gives (Remains (place dir) m) (TreeOf dir m child)

theorem child_gives (hloader : Settled dir m loader root) (entry : String) :
    (Walk.ofAction (loader.child (env (.fixed dir)) entry)).Gives (Remains (place dir) m)
      fun child => isBase m root entry = true ∧ (∃ root', Settled dir m child root') ∧
        ∀ tree, TreeOf dir m child tree → LeadsTo dir m root entry tree := by
  refine .ofAction fun m' child t hremains hchild => ?_
  rw [Cloner.fixed_eq_pointing, Memory.child_eq_ok_iff hloader.rooted] at hchild
  obtain ⟨-, rfl, hspawns⟩ := hchild
  refine ⟨hremains, ?_⟩
  have hcovers := hremains.covers
  cases hspawns with
  | within hbase hrelative hdir hclone hcycle =>
    have hdir := hcovers.isDir _ hdir
    refine ⟨?_, ⟨_, hloader.confined, rfl, .inl rfl⟩, fun tree htree => ?_⟩
    · simp [isBase, hrelative, hdir]
    · exact .within hbase hrelative hdir htree.1 htree.2.1
  | remote ref path hbase hcycle hknown htop hdir hwithin =>
    cases hknown
    have htop := hcovers.isDir _ htop
    have hdir := hcovers.isDir _ hdir
    refine ⟨?_, ⟨_, rfl, rfl, .inr ⟨rfl, htop⟩⟩, fun tree htree => ?_⟩
    · simp [isBase, hbase]
    · exact .remote ref hbase hdir hwithin htree.1 htree.2.1

theorem resolveChild_gives {child : Loader} (hchild : Settled dir m child root)
    (hvisit : GivesBelow dir m visit) :
    (resolveChild (env (.fixed dir)) visit child).Gives (Remains (place dir) m)
      (TreeOf dir m child) := by
  intro s tree u hs h
  obtain ⟨t, hresolved, hcleanup⟩ := resolveChild_eq_ok_iff.1 h
  obtain ⟨ht, htree⟩ := hvisit child root hchild s tree t hs hresolved
  refine ⟨?_, htree⟩
  rw [Loader.cleanup] at hcleanup
  rcases hchild.lease with hlease | ⟨hlease, htop⟩
  · rw [hlease] at hcleanup
    cases hcleanup
    exact ht
  · rw [hlease] at hcleanup
    cases hcleanup
    rw [Memory.place_path]
    exact ht.removeBelow htop

theorem resolveBases_gives (hloader : Settled dir m loader root) (hvisit : GivesBelow dir m visit)
    (bases : List String) :
    (resolveBases (env (.fixed dir)) visit loader bases).Gives (Remains (place dir) m)
      fun trees => List.Forall₂ (LeadsTo dir m root) bases trees ∧
        ∀ tree ∈ trees, Faithful dir m tree := by
  induction bases with
  | nil => exact .pure ⟨.nil, by simp⟩
  | cons base bases ih =>
    refine .bind (child_gives hloader base) fun child hchild => ?_
    obtain ⟨-, ⟨root', hsettled⟩, hleads⟩ := hchild
    refine .bind (resolveChild_gives hsettled hvisit) fun tree htree => ?_
    refine .bind ih fun trees htrees => .pure ⟨.cons (hleads tree htree) htrees.1, ?_⟩
    rintro other hother
    rcases List.mem_cons.1 hother with rfl | hother
    · exact htree.2.2
    · exact htrees.2 other hother

/-- What is promised of an entry of the resources. -/
def FoundFor (dir : Path) (m : Memory) (root : Location) (entry : String) :
    Tree ⊕ LoadedFile → Prop
  | .inl tree => isBase m root entry = true ∧ LeadsTo dir m root entry tree ∧ Faithful dir m tree
  | .inr file => isBase m root entry = false ∧ NamesFile m root entry file

theorem resolveResource_gives (hloader : Settled dir m loader root)
    (hvisit : GivesBelow dir m visit) (entry : String) :
    (resolveResource (env (.fixed dir)) visit loader entry).Gives (Remains (place dir) m)
      (FoundFor dir m root entry) := by
  intro s found u hs h
  obtain ⟨child, t, tree, hchild, hresolved, rfl⟩ | ⟨error, t, content, v, hchild, hfile, hload, rfl,
    rfl⟩ := resolveResource_eq_ok_iff.1 h
  · obtain ⟨ht, hbase, ⟨root', hsettled⟩, hleads⟩ :=
      child_gives hloader entry s child t hs (congrArg some hchild)
    obtain ⟨hu, htree⟩ := resolveChild_gives hsettled hvisit t tree u ht hresolved
    exact ⟨hu, hbase, hleads tree htree, htree.2.2⟩
  · rw [Cloner.fixed_eq_pointing] at hchild
    obtain ⟨-, hbase, rfl⟩ := Memory.of_mayBeFile hchild hfile
    obtain ⟨rfl, above, name, hsplit, hwithin, hno, -, hcontent⟩ :=
      (Memory.load_confined_eq_ok_iff hloader.confined hloader.rooted (Path.isText_mk _)).1 hload
    -- What is read as a file is left, so it was no directory before either.
    rw [← hs.isDir_of_content? hcontent] at hno
    refine ⟨hs, by simp [isBase, hbase, hno], rfl, ?_, ?_, content,
      hs.covers.content? _ _ hcontent, rfl⟩
    · rw [hsplit]
      exact hwithin.trans (List.prefix_append above [name])
    · intro heq
      have hlength := hwithin.length_le
      rw [← heq, hsplit, List.length_append, List.length_singleton] at hlength
      omega

theorem resolveResources_gives (hloader : Settled dir m loader root)
    (hvisit : GivesBelow dir m visit) (entries : List String) :
    (resolveResources (env (.fixed dir)) visit loader entries).Gives (Remains (place dir) m)
      fun found => List.Forall₂ (LeadsTo dir m root) (entries.filter (isBase m root)) found.1 ∧
        (∀ tree ∈ found.1, Faithful dir m tree) ∧
        List.Forall₂ (NamesFile m root) (entries.filter fun entry => !isBase m root entry)
          found.2 := by
  induction entries with
  | nil => exact .pure ⟨.nil, by simp, .nil⟩
  | cons entry entries ih =>
    refine .bind (resolveResource_gives hloader hvisit entry) fun found hfound => ?_
    refine .bind ih fun rest hrest => ?_
    obtain ⟨trees, files⟩ := rest
    obtain ⟨htrees, hfaithful, hfiles⟩ := hrest
    cases found with
    | inl tree =>
      obtain ⟨hbase, hleads, htree⟩ := hfound
      refine .pure ⟨?_, ?_, ?_⟩
      · rw [List.filter_cons_of_pos hbase]
        exact .cons hleads htrees
      · intro other hother
        rcases List.mem_cons.1 hother with rfl | hother
        · exact htree
        · exact hfaithful other hother
      · rw [List.filter_cons_of_neg (by simp [hbase])]
        exact hfiles
    | inr file =>
      obtain ⟨hbase, hnames⟩ := hfound
      refine .pure ⟨?_, hfaithful, ?_⟩
      · rw [List.filter_cons_of_neg (by simp [hbase])]
        exact htrees
      · rw [List.filter_cons_of_pos (by simp [hbase])]
        exact .cons hnames hfiles

theorem readFile_gives (hloader : Settled dir m loader root) :
    (Walk.ofAction (readFile (env (.fixed dir)) loader)).Gives (Remains (place dir) m)
      fun file => m.isDir root = true ∧
        ∃ content, m.overlayContent? root = some content ∧ File.parse content = .ok file := by
  refine .ofAction fun s file t hs hread => ⟨?_, ?_⟩
  · have hkeeps := readFile_keeps (Memory.env_looks (.fixed dir) (· = s)) loader s rfl
    rw [hread] at hkeeps
    rw [show t = s from hkeeps]
    exact hs
  · exact Memory.overlayContent?_of_readFile hs hloader.confined hloader.rooted hread

theorem resolveNode_gives (hloader : Settled dir m loader root) (hvisit : GivesBelow dir m visit) :
    (resolveNode (env (.fixed dir)) visit loader).Gives (Remains (place dir) m)
      (TreeOf dir m loader) := by
  refine .bind (readFile_gives hloader) fun file hfile => ?_
  have hcheck : (Walk.ofAction (Action.check (checkFile loader.validator file))).Gives
      (Remains (place dir) m) fun _ => True := by
    refine .ofAction fun s done t hs h => ?_
    obtain ⟨-, rfl⟩ := Action.check_eq_ok_iff.1 h
    exact ⟨hs, trivial⟩
  refine .bind hcheck fun _ _ => ?_
  refine .bind (resolveBases_gives hloader hvisit file.bases) fun bases hbases => ?_
  refine .bind (resolveResources_gives hloader hvisit file.resources) fun found hfound => ?_
  obtain ⟨more, files⟩ := found
  refine .pure ⟨rfl, rfl, .node ⟨root, file, ?_, hfile.1, hfile.2, rfl, rfl, ?_, hfound.2.2⟩ ?_⟩
  · exact congrArg Directory.path hloader.rooted
  · exact List.rel_append hbases.1 hfound.1
  · intro sub hsub
    rcases List.mem_append.1 hsub with hsub | hsub
    · exact hbases.2 sub hsub
    · exact hfound.2.1 sub hsub

theorem resolve_gives (bound : Nat) : GivesBelow dir m (resolve (env (.fixed dir)) bound) := by
  -- The bound is spent on the way down; what is left of the store is carried along.
  induction bound with
  | zero =>
    intro child root _ s tree t _ h
    cases h
  | succ bound ih => exact fun child root hchild => resolveNode_gives hchild ih

/-- All overlays of a tree that resolution answers for a confined first loader say what the overlay
files say with which it begins, whatever clone is removed on the way. Where no overlay file of a
root is a directory too, it is the first one in that root. -/
theorem resolve_reflects {validator : Validator} {path : Path} {s t : Memory}
    (horigin : Loader.origin (env (.fixed dir)) validator .confined path s = (.ok loader, t))
    {bound : Nat} {tree : Tree} {u : Memory}
    (h : resolve (env (.fixed dir)) bound loader m = some (.ok tree, u)) :
    tree.overlay.root = loader.root.path ∧ tree.overlay.remote = none ∧
      tree.All fun part => ∃ root file, Reflects dir m root file part ∧
        ((∀ name ∈ fileNames, m.isDir (root.walk ⟨name⟩) = true →
            m.content? (root.walk ⟨name⟩) = none) →
          ∃ content, (fileNames.findSome? fun name : String => m.content? (root.walk ⟨name⟩)) =
            some content ∧ File.parse content = .ok file) := by
  obtain ⟨root, hroot⟩ := (Loader.Reachable.origin horigin).exists_place Memory.fileSystem_places
  obtain ⟨top, -, rfl⟩ := Loader.eq_of_origin horigin
  have hsettled : Settled dir m ⟨⟨top, .confined, none⟩, [], validator, none⟩ root :=
    ⟨rfl, hroot, .inl rfl⟩
  obtain ⟨-, htop, hremote, hfaithful⟩ := resolve_gives bound _ root hsettled m tree u .whole h
  refine ⟨htop, hremote, hfaithful.imp ?_⟩
  rintro part ⟨place, file, hreflects⟩
  refine ⟨place, file, hreflects, fun hsingle => ?_⟩
  rw [← Memory.overlayContent?_eq hsingle]
  exact hreflects.read

/-- An overlay that is based on a repository and on a directory, and holds a file. -/
def Sample.composed : Memory where
  files := [(place ⟨"/a/Kustomization"⟩, "bases: [git@h:o/r]\nresources: [b, x]".toUTF8),
    (place ⟨"/a/b/Kustomization"⟩, "namespace: n".toUTF8), (place ⟨"/a/x"⟩, "data".toUTF8),
    (place ⟨"/clone/Kustomization"⟩, "namespace: c".toUTF8)]
  dirs := [place ⟨"/a"⟩, place ⟨"/a/b"⟩, place ⟨"/clone"⟩]

/-- The first loader of a chain, at `/a`. -/
def Sample.opener : Loader := ⟨⟨⟨⟨"/a"⟩⟩, .confined, none⟩, [], .permissive, none⟩

theorem Sample.composed_reflects :
    ∃ tree u, resolve (env (.fixed ⟨"/clone"⟩)) 2 opener composed = some (.ok tree, u) ∧
      tree.count = 3 ∧
      tree.All fun part => ∃ root file, Reflects ⟨"/clone"⟩ composed root file part := by
  have horigin : Loader.origin (env (.fixed ⟨"/clone"⟩)) .permissive .confined ⟨"/a"⟩ composed =
      (.ok opener, composed) := rfl
  have hok : (resolve (env (.fixed ⟨"/clone"⟩)) 2 opener composed).any (fun ended =>
      ended.1.toOption.any fun tree => tree.count = 3) = true := by decide +kernel
  obtain ⟨⟨result, u⟩, hrun, hresult⟩ := (Option.any_eq_true _ _).1 hok
  cases result with
  | error error => cases hresult
  | ok tree =>
    obtain ⟨-, -, hall⟩ := resolve_reflects horigin hrun
    refine ⟨tree, u, hrun, of_decide_eq_true hresult, hall.imp ?_⟩
    rintro part ⟨root, file, hreflects, -⟩
    exact ⟨root, file, hreflects⟩

/-- A clone directory that is an overlay file as well, in the root of another overlay. -/
def Sample.doubled : Memory where
  files := [
    (place ⟨"/b/kustomization.yaml/kustomization.yaml"⟩, "namespace: clone".toUTF8),
    (place ⟨"/b/kustomization.yaml"⟩, "namespace: first".toUTF8),
    (place ⟨"/b/kustomization.yml"⟩, "namespace: second".toUTF8),
    (place ⟨"/a/kustomization.yaml"⟩, "bases: [github.com/org/repo, ../b]".toUTF8)]
  dirs := [place ⟨"/b/kustomization.yaml"⟩, place ⟨"/b"⟩, place ⟨"/a"⟩]

theorem Sample.doubled_built : doubled.Built := by
  have h1 := Memory.Built.addFile .empty ⟨"/a/kustomization.yaml"⟩
    "bases: [github.com/org/repo, ../b]".toUTF8 rfl
  have h2 := h1.addFile ⟨"/b/kustomization.yml"⟩ "namespace: second".toUTF8 rfl
  have h3 := h2.addFile ⟨"/b/kustomization.yaml"⟩ "namespace: first".toUTF8 rfl
  exact h3.addFile ⟨"/b/kustomization.yaml/kustomization.yaml"⟩ "namespace: clone".toUTF8 rfl

/-- Once the clone is removed, the next overlay file is read in the place of the first one. -/
theorem Sample.doubled_reads_second :
    doubled.Built ∧ ∃ tree u, resolve (env (.fixed ⟨"/b/kustomization.yaml"⟩)) 2 opener doubled =
        some (.ok tree, u) ∧
      (∃ sub ∈ tree.bases, sub.overlay.root = ⟨"/b"⟩ ∧
        sub.overlay.namespaceName = some "second") ∧
      ∃ content file, (fileNames.findSome? fun name : String =>
          doubled.content? (Location.walk (place ⟨"/b"⟩) ⟨name⟩)) = some content ∧
        File.parse content = .ok file ∧ file.namespaceName = some "first" := by
  have hok : (resolve (env (.fixed ⟨"/b/kustomization.yaml"⟩)) 2 opener doubled).any (fun ended =>
      ended.1.toOption.any fun tree => tree.bases.any fun sub =>
        sub.overlay.root = ⟨"/b"⟩ ∧ sub.overlay.namespaceName = some "second") = true := by
    decide +kernel
  obtain ⟨⟨result, u⟩, hrun, hresult⟩ := (Option.any_eq_true _ _).1 hok
  cases result with
  | error error => cases hresult
  | ok tree =>
    have hany : tree.bases.any (fun sub =>
        sub.overlay.root = ⟨"/b"⟩ ∧ sub.overlay.namespaceName = some "second") = true := hresult
    have hparse : File.parse "namespace: first".toUTF8 = .ok ⟨[], [], some "first", []⟩ := by
      decide +kernel
    exact ⟨doubled_built, tree, u, hrun, by simpa using hany, "namespace: first".toUTF8, _,
      by decide +kernel, hparse, rfl⟩

end OverlayChain.Overlay
