import OverlayChain.Proofs.Loader.Cycle
import OverlayChain.Proofs.Overlay.Rules
import OverlayChain.Proofs.Path.Direction

/-!
# Overlays can be moved

Overlays that lie below a place, and whose entries are all relative and lead nowhere else, are
resolved alike wherever the place is. Nothing is asked for outside of the place, so two stores that
hold the same below two places give the same tree, up to the places of its roots.

## Main definitions

- `Memory.Alike`: two stores hold the same below two places.
- `Memory.SelfContained`: no entry of an overlay below a place leads anywhere else.
- `Loader.placed`: a loader with its chain, all of them below a place.
- `Overlay.Tree.mapRoots`: a tree with other roots.

## Main statements

- `Memory.child_placed_iff`: the children of such a loader.
- `Memory.readFirst_of_alike`: such a loader reads the same overlay file in both stores.
- `Memory.simulates_placed`: it is resolved alike in both stores.
- `Memory.resolve_moved_iff`: moved overlays are resolved to the moved tree.
-/

namespace OverlayChain

/-- The path of a place below `top`, as it lies below `other`. -/
def Path.moved (top other : Location) (path : Path) : Path :=
  (other ++ (Memory.place path).drop top.length : Location).path

@[simp] theorem Path.moved_path (top other x : Location) :
    Path.moved top other (top ++ x : Location).path = (other ++ x : Location).path := by
  rw [moved, Memory.place_path, List.drop_left]

namespace Overlay.Tree

mutual

/-- The tree with the roots of its overlays replaced. -/
def mapRoots (f : Path → Path) : Tree → Tree
  | node overlay bases => node { overlay with root := f overlay.root } (mapAllRoots f bases)

/-- The trees with the roots of their overlays replaced. -/
def mapAllRoots (f : Path → Path) : List Tree → List Tree
  | [] => []
  | tree :: trees => mapRoots f tree :: mapAllRoots f trees

end

theorem mapAllRoots_eq {f : Path → Path} {trees others : List Tree}
    (h : List.Forall₂ (fun tree other => other = mapRoots f tree) trees others) :
    others = mapAllRoots f trees := by
  induction h with
  | nil => rfl
  | cons hhead _ ih => rw [mapAllRoots, hhead, ih]

end Overlay.Tree

/-- What is resolved from a first loader at a path. -/
def Overlay.ResolvesTo {σ : Type} (env : Env σ) (validator : Validator) (policy : ReadPolicy)
    (bound : Nat) (path : Path) (s : σ) (tree : Tree) : Prop :=
  ∃ loader t u, Loader.origin env validator policy path s = (.ok loader, t) ∧
    resolve env bound loader t = some (.ok tree, u)

/-- There is only one such tree. -/
theorem Overlay.ResolvesTo.unique {σ : Type} {env : Env σ} {validator : Validator}
    {policy : ReadPolicy} {bound : Nat} {path : Path} {s : σ} {tree tree' : Tree}
    (h : ResolvesTo env validator policy bound path s tree)
    (h' : ResolvesTo env validator policy bound path s tree') : tree = tree' := by
  obtain ⟨loader, t, u, horigin, hrun⟩ := h
  obtain ⟨loader', t', u', horigin', hrun'⟩ := h'
  rw [horigin] at horigin'
  cases horigin'
  rw [hrun] at hrun'
  cases hrun'
  rfl

namespace Loader

variable {top x names : Location} {above : List Location} {policy : ReadPolicy}
  {validator : Validator}

/-- A loader for a local base at `x` below a place, with those above it at other places below. -/
def placed (top : Location) (policy : ReadPolicy) (validator : Validator) (x : Location)
    (above : List Location) : Loader where
  node := ⟨⟨(top ++ x).path⟩, policy, none⟩
  ancestors := above.map fun y => ⟨⟨(top ++ y).path⟩, policy, none⟩
  validator
  lease := none

theorem lineage_placed : (placed top policy validator x above).lineage =
    (x :: above).map fun y => ⟨⟨(top ++ y).path⟩, policy, none⟩ := rfl

theorem nearestClone?_placed : (placed top policy validator x above).nearestClone? = none := by
  rw [nearestClone?, lineage_placed, List.findSome?_eq_none_iff]
  intro node hnode
  obtain ⟨y, -, rfl⟩ := List.mem_map.1 hnode
  rfl

/-- Which places below the top are refused because of the chain does not depend on the top. -/
theorem checkDirectory_placed_iff :
    (placed top policy validator x above).checkDirectory ⟨(top ++ names).path⟩ = .ok () ↔
      ∀ y ∈ x :: above, ¬ names <+: y := by
  rw [checkDirectory_eq_ok_iff, lineage_placed, List.forall_mem_map]
  refine forall₂_congr fun y _ => ?_
  rw [← Bool.not_eq_true, Directory.isWithin_path_iff, List.prefix_append_right_inj]

end Loader

namespace Memory

variable {cloner : Cloner Memory} {P Q x names : Location} {m m' t : Memory}
  {above : List Location} {policy : ReadPolicy} {validator : Validator} {child : Loader}
  {base : String}

/-- Two stores hold the same below two places. -/
structure Alike (P Q : Location) (m m' : Memory) : Prop where
  isDir : ∀ x : Location, m.isDir (P ++ x) = m'.isDir (Q ++ x)
  content? : ∀ x : Location, m.content? (P ++ x) = m'.content? (Q ++ x)

theorem Alike.symm (h : Alike P Q m m') : Alike Q P m' m :=
  ⟨fun x => (h.isDir x).symm, fun x => (h.content? x).symm⟩

/-- The entries of the overlays below a place are no references, and taken from their overlays they
do not rise above the place. -/
def SelfContained (m : Memory) (top : Location) : Prop :=
  ∀ (dir : Location) (name : Name) (content : ByteArray), name.text ∈ Overlay.fileNames →
    m.content? (top ++ dir ++ [name]) = some content →
    ∀ entry ∈ entriesOf content, RemoteRef.parse? entry = none ∧ (Path.mk entry).StaysBelow dir

/-- It is enough to look at the overlay files that a store lists. -/
theorem selfContained_of_files {top : Location}
    (h : ∀ file ∈ m.files, top <+: file.1.dropLast → isOverlayFile file.1 = true →
      ∀ entry ∈ entriesOf file.2, RemoteRef.parse? entry = none ∧
        (Path.mk entry).StaysBelow (file.1.dropLast.drop top.length)) : m.SelfContained top := by
  intro dir name content hname hcontent entry hentry
  have hmem : (top ++ dir ++ [name], content) ∈ m.files := mem_of_lookup hcontent
  have hoverlay : isOverlayFile (top ++ dir ++ [name]) = true := by
    rw [isOverlayFile, List.getLast?_concat]
    simpa using hname
  have hfile := h _ hmem
  rw [List.dropLast_concat, List.drop_left] at hfile
  exact hfile (List.prefix_append top dir) hoverlay entry hentry

theorem SelfContained.of_alike (h : m.SelfContained P) (halike : Alike P Q m m') :
    m'.SelfContained Q := by
  intro dir name content hname hcontent
  rw [List.append_assoc, ← halike.content?, ← List.append_assoc] at hcontent
  exact h dir name content hname hcontent

/-- The children of a loader below a place, for local bases that stay below it. -/
theorem child_placed_iff (hbase : RemoteRef.parse? base = none)
    (hstays : (Path.mk base).components.foldl Lexical.step (.relative 0 x) = .relative 0 names) :
    (Loader.placed P policy validator x above).child (env cloner) base m = (.ok child, t) ↔
      base ≠ "" ∧ m.isDir (P ++ names) = true ∧ (∀ y ∈ x :: above, ¬ names <+: y) ∧
        child = Loader.placed P policy validator names (x :: above) ∧ t = m := by
  have hrelative : (Path.mk base).isAbsolute = false := Path.StaysBelow.isAbsolute ⟨names, hstays⟩
  have hwalk : Location.walk (P ++ x) ⟨base⟩ = P ++ names := Location.walk_of_foldl_step hstays P
  rw [Loader.child_eq_ok_iff]
  refine and_congr_right fun _ => ?_
  constructor
  · rintro (⟨-, h⟩ | ⟨ref, href, -⟩)
    · obtain ⟨-, dir, u, hadmitted, -, hcycle, rfl, rfl⟩ := Loader.localChild_eq_ok_iff.1 h
      obtain ⟨hdir, rfl, rfl⟩ := admitRoot_join_iff.1 hadmitted
      rw [hwalk] at hdir hcycle ⊢
      exact ⟨hdir, Loader.checkDirectory_placed_iff.1 hcycle, rfl, rfl⟩
    · rw [hbase] at href
      cases href
  · rintro ⟨hdir, hcycle, rfl, rfl⟩
    refine .inl ⟨hbase, Loader.localChild_eq_ok_iff.2 ⟨hrelative, ⟨(P ++ names).path⟩, t, ?_, ?_,
      Loader.checkDirectory_placed_iff.2 hcycle, rfl, rfl⟩⟩
    · refine admitRoot_join_iff.2 ⟨?_, ?_, rfl⟩
      · rwa [hwalk]
      · rw [hwalk]
    · rw [Loader.nearestClone?_placed]
      rfl

/-- How a file is read in both stores: with the same content, not at all because it is not there, or
refused for another reason. -/
inductive ReadAlike : Except Error ByteArray → Except Error ByteArray → Prop
  | content (content : ByteArray) : ReadAlike (.ok content) (.ok content)
  | absent (path path' : Path) : ReadAlike (.error (.io (.absent path))) (.error (.io (.absent path')))
  | refused {error error' : Error} (h : ∀ cause, error ≠ .io cause)
      (h' : ∀ cause, error' ≠ .io cause) : ReadAlike (.error error) (.error error')

theorem read_alike (halike : Alike P Q m m') {path path' : Path} (hplace : place path = P ++ names)
    (hplace' : place path' = Q ++ names) : ReadAlike (m.read path) (m'.read path') := by
  rw [read, read, hplace, hplace', ← halike.content?]
  cases m.content? (P ++ names) with
  | none => exact .absent _ _
  | some content => exact .content content

/-- What a loader may read does not depend on the place below which it lies. -/
theorem Permits.of_alike (halike : Alike P Q m m') (h : m.Permits (P ++ x) (P ++ names)) :
    m'.Permits (Q ++ x) (Q ++ names) := by
  obtain ⟨_, name, hsplit, ⟨rest, rfl⟩, hno, hdir⟩ := h
  rw [List.append_assoc, List.append_assoc, List.append_cancel_left_eq] at hsplit
  rw [halike.isDir] at hno
  rw [List.append_assoc, halike.isDir] at hdir
  refine ⟨Q ++ (x ++ rest), name, ?_, ?_, hno, hdir⟩
  · simp [hsplit]
  · rw [← List.append_assoc]
    exact List.prefix_append _ rest

/-- A loader below a place reads alike from both stores a text that stays below that place. -/
theorem load_alike (halike : Alike P Q m m') {path : Path} (hpath : path.IsText)
    (hwalk : ∀ top : Location, Location.walk (top ++ x) path = top ++ names) :
    ReadAlike ((Loader.placed P policy validator x above).load (env cloner) path m).1
      ((Loader.placed Q policy validator x above).load (env cloner) path m').1 := by
  have hplace : ∀ top : Location,
      place ((Loader.placed top policy validator x above).requested path) = top ++ names := by
    intro top
    rw [← hwalk top]
    exact Loader.walk_requested rfl path
  cases policy with
  | unrestricted =>
    rw [load_unrestricted rfl, load_unrestricted rfl]
    exact read_alike halike (hplace P) (hplace Q)
  | confined =>
    by_cases hpermits : m.Permits (P ++ x) (P ++ names)
    · have hpermits' := hpermits.of_alike halike
      rw [← hwalk] at hpermits hpermits'
      rw [load_of_permits rfl rfl hpath hpermits, load_of_permits rfl rfl hpath hpermits']
      exact read_alike halike (hplace P) (hplace Q)
    · have hpermits' : ¬ m'.Permits (Q ++ x) (Q ++ names) :=
        fun h => hpermits (h.of_alike halike.symm)
      rw [← hwalk] at hpermits hpermits'
      obtain ⟨error, hload, herror⟩ : ∃ error,
          (Loader.placed P .confined validator x above).load (env cloner) path m =
            (.error error, m) ∧ ∀ cause, error ≠ .io cause :=
        load_of_not_permits rfl rfl hpermits
      obtain ⟨error', hload', herror'⟩ : ∃ error,
          (Loader.placed Q .confined validator x above).load (env cloner) path m' =
            (.error error, m') ∧ ∀ cause, error ≠ .io cause :=
        load_of_not_permits rfl rfl hpermits'
      rw [hload, hload']
      exact .refused herror herror'

theorem load_of_alike (halike : Alike P Q m m') {path : Path} (hpath : path.IsText)
    (hwalk : ∀ top : Location, Location.walk (top ++ x) path = top ++ names) {content : ByteArray}
    (h : (Loader.placed P policy validator x above).load (env cloner) path m = (.ok content, t)) :
    t = m ∧ (Loader.placed Q policy validator x above).load (env cloner) path m' =
      (.ok content, m') := by
  have hsnd : ((Loader.placed P policy validator x above).load (env cloner) path m).2 = m :=
    load_snd path
  have hsnd' : ((Loader.placed Q policy validator x above).load (env cloner) path m').2 = m' :=
    load_snd path
  have hread : ReadAlike ((Loader.placed P policy validator x above).load (env cloner) path m).1
      ((Loader.placed Q policy validator x above).load (env cloner) path m').1 :=
    load_alike halike hpath hwalk
  rw [h] at hsnd hread
  generalize hfound : ((Loader.placed Q policy validator x above).load (env cloner) path m').1 =
    found at hread
  cases hread with
  | content => exact ⟨hsnd, Prod.ext hfound hsnd'⟩

/-- A loader below a place has the same overlay file in both stores. -/
theorem readFirst_of_alike (halike : Alike P Q m m') {names : List String}
    (hnames : ∀ text ∈ names, IsName (Text.encode text)) {file : Overlay.File}
    (h : Overlay.readFirst (env cloner) (Loader.placed P policy validator x above) names m =
      (.ok file, m)) :
    Overlay.readFirst (env cloner) (Loader.placed Q policy validator x above) names m' =
      (.ok file, m') := by
  induction names with
  | nil => cases h
  | cons text names ih =>
    have hrest := ih fun other hother => hnames other (List.mem_cons_of_mem _ hother)
    have hwalk : ∀ top : Location, Location.walk (top ++ x) ⟨text⟩ =
        top ++ (x ++ [⟨text, hnames text List.mem_cons_self⟩]) := by
      intro top
      rw [← List.append_assoc]
      exact Location.walk_name (top ++ x) ⟨text, hnames text List.mem_cons_self⟩
    have hload : ReadAlike
        ((Loader.placed P policy validator x above).load (env cloner) ⟨text⟩ m).1
        ((Loader.placed Q policy validator x above).load (env cloner) ⟨text⟩ m').1 :=
      load_alike halike (Path.isText_mk text) hwalk
    rw [Overlay.readFirst, Action.bind_of_ok (Action.attempt_apply _ m), load_snd] at h
    rw [Overlay.readFirst, Action.bind_of_ok (Action.attempt_apply _ m'), load_snd]
    generalize ((Loader.placed P policy validator x above).load (env cloner) ⟨text⟩ m).1 = found
      at h hload
    generalize ((Loader.placed Q policy validator x above).load (env cloner) ⟨text⟩ m').1 = found'
      at hload ⊢
    cases hload with
    | content content =>
      rw [Action.check_eq_ok_iff] at h ⊢
      exact ⟨h.1, rfl⟩
    | absent path path' => exact hrest h
    | @refused error error' herror herror' =>
      cases error with
      | io cause => exact absurd rfl (herror cause)
      | _ => cases h

/-- A loader below a place refuses the same entries as bases that may be files. -/
theorem child_placed_of_mayBeFile (halike : Alike P Q m m') (hdir : m.isDir P = true)
    (hbase : RemoteRef.parse? base = none)
    (hstays : (Path.mk base).components.foldl Lexical.step (.relative 0 x) = .relative 0 names)
    {error : Error} (h : (Loader.placed P policy validator x above).child (env cloner) base m =
      (.error error, t)) (hfile : Overlay.mayBeFile base error = true) :
    t = m ∧ ∃ error', (Loader.placed Q policy validator x above).child (env cloner) base m' =
      (.error error', m') ∧ Overlay.mayBeFile base error' = true := by
  have hwalk : ∀ top : Location, Location.walk (top ++ x) ⟨base⟩ = top ++ names :=
    Location.walk_of_foldl_step hstays
  obtain ⟨ht, hne, dir, name, hsplit, hno, habove⟩ :=
    split_of_mayBeFile rfl hbase (Path.StaysBelow.isAbsolute ⟨names, hstays⟩) h hfile
  rw [hwalk] at hsplit hno
  rcases List.eq_nil_or_concat names with rfl | ⟨inner, last, rfl⟩
  · -- The place itself is a directory.
    rw [List.append_nil, hdir] at hno
    cases hno
  · rw [List.concat_eq_append, ← List.append_assoc] at hsplit
    obtain ⟨rfl, hname⟩ := List.append_inj' hsplit rfl
    have hsplit' : Location.walk (Q ++ x) ⟨base⟩ = Q ++ inner ++ [last] := by
      rw [hwalk, List.concat_eq_append, List.append_assoc]
    refine ⟨ht, child_of_file rfl hbase hne hsplit' ?_ ?_⟩
    · rw [hwalk, ← halike.isDir]
      exact hno
    · rw [← halike.isDir]
      exact habove

/-- The entries that a loader below a place is asked for stay below it. -/
theorem SelfContained.of_declared (h : m.SelfContained P) {entry : String}
    (hentry : Overlay.Declared (env cloner) (fun s s' => s = m ∧ s' = m')
      (Loader.placed P policy validator x above) entry) :
    RemoteRef.parse? entry = none ∧ (Path.mk entry).StaysBelow x := by
  obtain ⟨_, _, u, file, ⟨rfl, -⟩, hfile, hmem⟩ := hentry
  obtain ⟨name, content, hname, hcontent, hentries⟩ := exists_entriesOf_of_readFile rfl hfile
  rw [← hentries] at hmem
  exact h x name content hname hcontent entry hmem

/-- Loaders at the same place below the two places are resolved alike. -/
theorem simulates_placed (halike : Alike P Q m m') (hdir : m.isDir P = true)
    (hself : m.SelfContained P) (cloner : Cloner Memory) (policy : ReadPolicy)
    (validator : Validator) :
    Overlay.Simulates (env cloner) (fun s s' => s = m ∧ s' = m')
      (fun loader other => ∃ x above, loader = Loader.placed P policy validator x above ∧
        other = Loader.placed Q policy validator x above)
      (fun _ => True)
      fun tree tree' => (tree.All fun part => ∃ x : Location, part.overlay.root = (P ++ x).path) ∧
        tree' = tree.mapRoots (Path.moved P Q) where
  file := by
    rintro _ _ s s' t file ⟨x, above, rfl, rfl⟩ ⟨rfl, rfl⟩ h
    have ht : t = s := by
      have hsnd := Overlay.readFile_keeps (env_looks cloner (· = s))
        (Loader.placed P policy validator x above) s rfl
      rwa [h] at hsnd
    rw [ht] at h ⊢
    exact ⟨s', readFirst_of_alike halike isName_of_mem_fileNames h, rfl, rfl⟩
  child := by
    rintro _ _ child s s' t base ⟨x, above, rfl, rfl⟩ ⟨rfl, rfl⟩ hentry h
    obtain ⟨hbase, names, hstays⟩ := hself.of_declared hentry
    obtain ⟨hne, hbelow, hcycle, rfl, rfl⟩ := (child_placed_iff hbase hstays).1 h
    rw [halike.isDir] at hbelow
    exact ⟨_, s', (child_placed_iff hbase hstays).2 ⟨hne, hbelow, hcycle, rfl, rfl⟩,
      ⟨names, x :: above, rfl, rfl⟩, rfl, rfl⟩
  resource := by
    rintro _ _ s s' t u entry error content ⟨x, above, rfl, rfl⟩ ⟨rfl, rfl⟩ hentry hchild hfile hload
    obtain ⟨hbase, names, hstays⟩ := hself.of_declared hentry
    obtain ⟨rfl, error', hchild', hfile'⟩ :=
      child_placed_of_mayBeFile halike hdir hbase hstays hchild hfile
    obtain ⟨rfl, hload'⟩ :=
      load_of_alike halike (Path.isText_mk entry) (Location.walk_of_foldl_step hstays) hload
    exact ⟨error', s', s', hchild', hfile', hload', rfl, rfl⟩
  cleanup := by
    rintro _ _ s s' t ⟨x, above, rfl, rfl⟩ ⟨rfl, rfl⟩ h
    cases h
    exact ⟨s', rfl, rfl, rfl⟩
  node := by
    rintro _ _ file files bases bases' ⟨x, above, rfl, rfl⟩ h - hbases
    rw [List.forall₂_and_left] at hbases
    refine ⟨h, .node ⟨x, rfl⟩ hbases.1, ?_⟩
    rw [Overlay.treeOf, Overlay.treeOf, Overlay.Tree.mapRoots,
      ← Overlay.Tree.mapAllRoots_eq hbases.2]
    simp only [Loader.root, Loader.placed, Path.moved_path]
  below := fun _ _ _ => trivial

/-- The first loader at a path that is taken from a place and stays below it. -/
theorem origin_placed_iff {path : Path} {loader : Loader}
    (hstays : path.components.foldl Lexical.step (.relative 0 []) = .relative 0 names) :
    Loader.origin (env cloner) validator policy (P.path.join path) m = (.ok loader, t) ↔
      m.isDir (P ++ names) = true ∧ loader = Loader.placed P policy validator names [] ∧ t = m := by
  have hplace : place (P.path.join path) = P ++ names := by
    have hwalk := Location.walk_of_foldl_step hstays P
    rw [List.append_nil] at hwalk
    rw [place, Location.walk_join, Location.walk_path, hwalk]
  have hne : (P.path.join path).bytes ≠ [] := by
    intro hempty
    have habs : (P.path.join path).isAbsolute = true := by
      rw [Path.isAbsolute_join, Location.isAbsolute_path, Bool.true_or]
    rw [Path.isAbsolute, hempty] at habs
    cases habs
  have hadmitted : ∀ root, (env cloner).fs.admitRoot (P.path.join path) m = (.ok root, t) ↔
      m.isDir (P ++ names) = true ∧ root = ⟨(P ++ names).path⟩ ∧ t = m := by
    intro root
    change fileSystem.admitRoot (P.path.join path) m = _ ↔ _
    rw [FileSystem.admitRoot_eq_ok_iff, and_iff_right hne, fileSystem_locate, Action.ended_eq_iff,
      locate_directory_iff, hplace, and_assoc, eq_comm (a := m)]
  rw [Loader.origin_eq_ok_iff]
  constructor
  · rintro ⟨root, hroot, rfl⟩
    obtain ⟨hdir, rfl, rfl⟩ := (hadmitted root).1 hroot
    exact ⟨hdir, rfl, rfl⟩
  · rintro ⟨hdir, rfl, rfl⟩
    exact ⟨_, (hadmitted _).2 ⟨hdir, rfl, rfl⟩, rfl⟩

/-- What is resolved below one place is resolved below the other one, to the moved tree. -/
theorem resolvesTo_moved (halike : Alike P Q m m') (hdir : m.isDir P = true)
    (hself : m.SelfContained P) {path : Path} (hpath : path.StaysBelow []) {bound : Nat}
    {tree : Overlay.Tree}
    (h : Overlay.ResolvesTo (env cloner) validator policy bound (P.path.join path) m tree) :
    (tree.All fun part => ∃ x : Location, part.overlay.root = (P ++ x).path) ∧
      Overlay.ResolvesTo (env cloner) validator policy bound (Q.path.join path) m'
        (tree.mapRoots (Path.moved P Q)) := by
  obtain ⟨names, hstays⟩ := hpath
  obtain ⟨loader, s, u, horigin, hrun⟩ := h
  obtain ⟨hroot, rfl, rfl⟩ := (origin_placed_iff hstays).1 horigin
  rw [halike.isDir] at hroot
  obtain ⟨_, u', hrun', ⟨hroots, rfl⟩, -⟩ :=
    (simulates_placed halike hdir hself cloner policy validator).resolve bound
      ⟨names, [], rfl, rfl⟩ ⟨rfl, rfl⟩ hrun trivial
  exact ⟨hroots, _, m', u', (origin_placed_iff hstays).2 ⟨hroot, rfl, rfl⟩, hrun'⟩

/-- Let two stores hold the same below two directories, and let the overlays below them be
self-contained. A path that stays below is resolved from the second directory exactly if it is from
the first one, under every policy. All roots of the first tree lie below the first directory, and
the second tree has them below the second one. -/
theorem resolve_moved_iff (halike : Alike P Q m m') (hdir : m.isDir P = true)
    (hself : m.SelfContained P) (cloner : Cloner Memory) (validator : Validator)
    (policy : ReadPolicy) (bound : Nat) (path : Path) (hpath : path.StaysBelow [])
    (moved : Overlay.Tree) :
    Overlay.ResolvesTo (env cloner) validator policy bound (Q.path.join path) m' moved ↔
      ∃ tree, Overlay.ResolvesTo (env cloner) validator policy bound (P.path.join path) m tree ∧
        (tree.All fun part => ∃ x : Location, part.overlay.root = (P ++ x).path) ∧
        moved = tree.mapRoots (Path.moved P Q) := by
  constructor
  · intro h
    have hdir' : m'.isDir Q = true := by
      have hsame := halike.isDir []
      rwa [List.append_nil, List.append_nil, hdir, eq_comm] at hsame
    -- What is moved back is moved forth again to the tree from which it came.
    obtain ⟨-, hback⟩ := resolvesTo_moved halike.symm hdir' (hself.of_alike halike) hpath h
    obtain ⟨hroots, hforth⟩ := resolvesTo_moved halike hdir hself hpath hback
    exact ⟨_, hback, hroots, h.unique hforth⟩
  · rintro ⟨tree, h, -, rfl⟩
    exact (resolvesTo_moved halike hdir hself hpath h).2

/-- A store with two overlays below a place, of which one is the base of the other. -/
def Sample.parcel (top : Location) : Memory where
  files := [(top ++ place ⟨"/o/Kustomization"⟩, "resources: [../b, x]".toUTF8),
    (top ++ place ⟨"/b/Kustomization"⟩, "namespace: n".toUTF8),
    (top ++ place ⟨"/o/x"⟩, "data".toUTF8)]
  dirs := [top, top ++ place ⟨"/o"⟩, top ++ place ⟨"/b"⟩]

theorem Sample.parcel_alike (P Q : Location) : Alike P Q (parcel P) (parcel Q) := by
  constructor
  · intro x
    by_cases hx : x = []
    · simp [hx, parcel, isDir]
    · have hempty : ∀ top : Location, (top ++ x).isEmpty = false := fun top =>
        List.isEmpty_eq_false_iff.2 (List.append_ne_nil_of_right_ne_nil top hx)
      simp [hempty, parcel, isDir]
  · intro x
    have hbeq : ∀ top y : Location, (top ++ x == top ++ y) = (x == y) := by
      intro top y
      rw [Bool.eq_iff_iff]
      simp
    simp only [parcel, content?, List.lookup_cons, List.lookup_nil, hbeq]

/-- What is resolved below one place is resolved below another one. -/
theorem Sample.parcel_moves :
    ∃ moved tree : Overlay.Tree,
      Overlay.ResolvesTo (env (.fixed ⟨"/clone"⟩)) .dns1123 .confined 2
        ((place ⟨"/x/y"⟩).path.join ⟨"b/../o"⟩) (Sample.parcel (place ⟨"/x/y"⟩)) moved ∧
      Overlay.ResolvesTo (env (.fixed ⟨"/clone"⟩)) .dns1123 .confined 2
        ((place ⟨"/a"⟩).path.join ⟨"b/../o"⟩) (Sample.parcel (place ⟨"/a"⟩)) tree ∧
      moved = tree.mapRoots (Path.moved (place ⟨"/a"⟩) (place ⟨"/x/y"⟩)) ∧
      moved.overlay.root = ⟨"/x/y/o"⟩ ∧ moved.count = 2 := by
  have hself : (Sample.parcel (place ⟨"/a"⟩)).SelfContained (place ⟨"/a"⟩) :=
    selfContained_of_files (by decide +kernel)
  have hok : (Overlay.resolve (env (.fixed ⟨"/clone"⟩)) 2
      (Loader.placed (place ⟨"/x/y"⟩) .confined .dns1123 (place ⟨"/o"⟩) [])
      (parcel (place ⟨"/x/y"⟩))).any (fun ended => ended.1.toOption.any fun tree =>
        decide (tree.overlay.root = ⟨"/x/y/o"⟩ ∧ tree.count = 2)) = true := by
    decide +kernel
  obtain ⟨⟨result, u⟩, hrun, hresult⟩ := (Option.any_eq_true _ _).1 hok
  cases result with
  | error error => cases hresult
  | ok moved =>
    have hresolves : Overlay.ResolvesTo (env (.fixed ⟨"/clone"⟩)) .dns1123 .confined 2
        ((place ⟨"/x/y"⟩).path.join ⟨"b/../o"⟩) (parcel (place ⟨"/x/y"⟩)) moved :=
      ⟨_, _, u, rfl, hrun⟩
    obtain ⟨tree, htree, -, heq⟩ :=
      (resolve_moved_iff (Sample.parcel_alike (place ⟨"/a"⟩) (place ⟨"/x/y"⟩)) (by decide) hself
        (.fixed ⟨"/clone"⟩) .dns1123 .confined 2 ⟨"b/../o"⟩ (by decide) moved).1 hresolves
    exact ⟨moved, tree, hresolves, htree, heq, of_decide_eq_true hresult⟩

end Memory

end OverlayChain
