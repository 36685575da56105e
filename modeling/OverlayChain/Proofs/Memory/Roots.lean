import OverlayChain.Proofs.Loader.Length
import OverlayChain.Proofs.Memory.History
import OverlayChain.Proofs.Overlay.Reading
import OverlayChain.Proofs.Path.Direction
import OverlayChain.Proofs.Remote.Identity

/-!
# Above and below a root

Over files in memory, a loader whose root is a directory refuses every base at or above it, and has
a child for every directory below it, if no clone is on its chain. A confined loader reads exactly
the files below its root.

## Main statements

- `RemoteRef.parse?_of_dot`: a text that begins with a dot is no reference.
- `Memory.child_of_climbs`, `Memory.child_of_descends`: bases above and below a root.
- `Memory.load_below_iff`: what a confined loader reads.
- `Memory.children_by_direction`: bases above and below the root, for all loaders of a chain.
-/

namespace OverlayChain

open Remote in
/-- No opening begins with a dot, so a text that does has no host part. -/
theorem RemoteRef.parse?_of_dot {text : String} {cs : List Char} (h : text.toList = '.' :: cs) :
    parse? text = none := by
  have hopeners : ∀ opening ∈ openings, ¬ ['.'] <+: Text.lower opening ∧ opening ≠ [] := by decide
  have hopens : Opens openings ('.' :: cs) [] ('.' :: cs) := by
    apply opens_of_not_takes
    intro opening hopening htakes
    obtain ⟨hdot, hne⟩ := hopeners opening hopening
    have hlower : Text.lower opening <+: '.' :: Text.lower cs := htakes.2
    obtain ⟨c, more, hcons⟩ := List.exists_cons_of_ne_nil (l := Text.lower opening)
      (by simpa [Text.lower] using hne)
    rw [hcons] at hlower hdot
    obtain ⟨rfl, -⟩ := List.cons_prefix_cons.1 hlower
    exact hdot ⟨more, rfl⟩
  cases hparse : parse? text with
  | none => rfl
  | some ref =>
    obtain ⟨-, host, rest, hsplit, hhost, -⟩ := parse?_eq_some_iff.1 hparse
    rw [h, splitHost_of_opens_nil hopens] at hsplit
    cases hsplit
    exact absurd rfl hhost

/-- A relative text that climbs and is not empty begins with a dot. -/
theorem Path.Climbs.exists_dot {text : String} (h : (Path.mk text).Climbs)
    (hrelative : (Path.mk text).isAbsolute = false) (hne : text ≠ "") :
    ∃ cs, text.toList = '.' :: cs := by
  obtain ⟨c, cs, htext⟩ := List.exists_cons_of_ne_nil (l := text.toList) (by simpa using hne)
  have hc : c ≠ '/' := by
    rintro rfl
    have habs := Path.isAbsolute_text_iff.2 (by rw [htext]; rfl)
    rw [habs] at hrelative
    cases hrelative
  obtain ⟨part, parts, hparts⟩ := List.exists_cons_of_ne_nil (List.splitOn_ne_nil '/' cs)
  have hfirst : Text.bytes (c :: part) ∈ (Path.mk text).parts := by
    rw [Path.parts_text, htext]
    refine List.mem_map.2 ⟨c :: part, ?_, rfl⟩
    simp [List.splitOn_cons_eq_if_modifyHead, hc, hparts]
  -- A dot is the first byte of no other character.
  have hdots : (Text.bytes (c :: part))[0]? = some '.'.toUInt8 := by
    have hmem := h _ hfirst
    simp only [List.mem_cons, List.not_mem_nil, or_false] at hmem
    rcases hmem with hmem | hmem | hmem
    · exact absurd hmem (by simp [Text.bytes_cons, String.utf8EncodeChar_ne_nil])
    · rw [hmem]
      rfl
    · rw [hmem]
      rfl
  have hdot := (Text.getElem?_bytes_eq_some_iff (by decide)).1 hdots
  cases hdot
  exact ⟨cs, htext⟩

/-- A directory within another one lies within all that the other one lies within. -/
theorem Directory.isWithin_trans {a b : Directory} {c : Path} (hab : a.isWithin b.path = true)
    (hbc : b.isWithin c = true) : a.isWithin c = true := by
  rw [isWithin, Path.isWithin, List.isPrefixOf_iff_prefix] at hab hbc ⊢
  exact hbc.trans hab

namespace Loader

variable {loader : Loader} {candidate : Directory}

/-- A directory that contains the root of a loader is refused, and that root is named. -/
theorem checkDirectory_of_isWithin (h : loader.root.isWithin candidate.path = true) :
    loader.checkDirectory candidate = .error (.directoryCycle candidate.path loader.root.path) := by
  have hnode : loader.node.root.isWithin candidate.path = true := h
  rw [checkDirectory, lineage, List.find?_cons, hnode]
  rfl

/-- A directory below the root of a loader for a local base contains no root of the chain. -/
theorem Reachable.checkDirectory_below {σ : Type} {env : Env σ} (h : loader.Reachable env)
    (hlocal : loader.node.source = none) {root names : Location} (hroot : loader.root = ⟨root.path⟩)
    (hnames : names ≠ []) : loader.checkDirectory ⟨(root ++ names).path⟩ = .ok () := by
  rw [checkDirectory_eq_ok_iff]
  intro node hnode
  rcases List.mem_cons.1 hnode with rfl | habove
  · have hbelow : ¬ root ++ names <+: root := by
      intro hprefix
      have hle := hprefix.length_le
      rw [List.length_append] at hle
      have hpos := List.length_pos_iff.2 hnames
      omega
    have hself : loader.node.root = ⟨root.path⟩ := hroot
    rw [hself, ← Bool.not_eq_true, Directory.isWithin_path_iff]
    exact hbelow
  · -- A root above that lay in the directory would lie in the root of the loader too.
    have hapart := (List.pairwise_cons.1 h.pairwise_rootApart).1 node habove
    have hclear : node.root.isWithin loader.root.path = false := hapart hlocal
    by_contra hwithin
    have hdir : Directory.isWithin ⟨(root ++ names).path⟩ loader.root.path = true := by
      rw [hroot]
      exact (Directory.isWithin_path_iff _ root).2 (List.prefix_append root names)
    rw [Directory.isWithin_trans (by simpa using hwithin) hdir] at hclear
    cases hclear

end Loader

namespace Memory

variable {cloner : Cloner Memory} {m m' : Memory} {loader : Loader} {root : Location}
  {base : String}

/-- A base at or above the root is refused, by the clone if it lies outside of that, and else as one
that contains the root. -/
theorem child_of_climbs (hbuilt : m.Built) (hroot : loader.root = ⟨root.path⟩)
    (hdir : m.isDir root = true) (hne : base ≠ "") (hrelative : (Path.mk base).isAbsolute = false)
    (hclimbs : (Path.mk base).Climbs) :
    loader.child (env cloner) base m =
      match Loader.checkWithin (loader.nearestClone?.map Clone.dir) ⟨(root.walk ⟨base⟩).path⟩ with
      | .error error => (.error error, m)
      | .ok _ =>
        (.error (.directoryCycle (root.walk ⟨base⟩).path loader.root.path), m) := by
  have habove : root.walk ⟨base⟩ <+: root := Location.walk_of_climbs hclimbs hrelative root
  have hcycle : loader.checkDirectory ⟨(root.walk ⟨base⟩).path⟩ =
      .error (.directoryCycle (root.walk ⟨base⟩).path loader.root.path) := by
    apply Loader.checkDirectory_of_isWithin
    rw [hroot]
    exact (Directory.isWithin_path_iff root _).2 habove
  obtain ⟨cs, hdot⟩ := hclimbs.exists_dot hrelative hne
  have hchild : loader.localChild (env cloner) base m = _ :=
    localChild_of_isDir hroot hrelative (hbuilt.isDir_prefix hdir habove)
  rw [hcycle] at hchild
  rw [Loader.child, if_neg (by simpa using hne), RemoteRef.parse?_of_dot hdot]
  exact hchild

/-- Without a clone on the chain, every directory below the root is the root of a child. -/
theorem child_of_descends (h : loader.Reachable (env cloner)) (hroot : loader.root = ⟨root.path⟩)
    (hlocal : ∀ node ∈ loader.lineage, node.source = none)
    (hbase : RemoteRef.parse? base = none) (hrelative : (Path.mk base).isAbsolute = false)
    (hdescends : (Path.mk base).Descends) (hdir : m.isDir (root.walk ⟨base⟩) = true) :
    loader.child (env cloner) base m =
      (.ok (loader.extend ⟨⟨(root.walk ⟨base⟩).path⟩, loader.node.policy, none⟩ none), m) := by
  obtain ⟨names, hnames, hwalk⟩ := Location.exists_walk_of_descends hdescends hrelative root
  have hclone : loader.nearestClone? = none := List.findSome?_eq_none_iff.2 hlocal
  have hcycle : loader.checkDirectory ⟨(root.walk ⟨base⟩).path⟩ = .ok () := by
    rw [hwalk]
    exact h.checkDirectory_below (hlocal _ List.mem_cons_self) hroot hnames
  have hne : base ≠ "" := by
    rintro rfl
    obtain ⟨name, hname⟩ := hdescends.named
    have hnone : (Path.mk "").components = [] := by decide
    rw [hnone] at hname
    cases hname
  rw [Loader.child, if_neg (by simpa using hne), hbase]
  dsimp only
  rw [localChild_of_isDir hroot hrelative hdir, hclone, hcycle]
  rfl

/-- Over a store that was built, a confined loader reads exactly the files that lie strictly below
its root, by any path that leads to them from there. -/
theorem load_below_iff (hbuilt : m.Built) (h : loader.Reachable (env cloner))
    (hpolicy : loader.node.policy = .confined) (text : String) (content : ByteArray) :
    loader.load (env cloner) ⟨text⟩ m = (.ok content, m) ↔
      (Directory.isWithin ⟨loader.root.join ⟨text⟩⟩ loader.root.path = true ∧
        loader.root.join ⟨text⟩ ≠ loader.root.path) ∧
      m.content? (place (loader.root.join ⟨text⟩)) = some content ∧
      m.isDir (place (loader.root.join ⟨text⟩)) = false := by
  obtain ⟨root, hroot⟩ := h.exists_place fileSystem_places
  have hjoin : loader.root.join ⟨text⟩ = (root.walk ⟨text⟩).path := by
    rw [hroot, Directory.join_path]
  rw [load_confined_eq_ok_iff hpolicy hroot (Path.isText_mk text), hjoin, hroot, place_path,
    Directory.isWithin_path_iff, and_iff_right rfl]
  constructor
  · rintro ⟨dir, name, hsplit, hwithin, hno, -, hcontent⟩
    refine ⟨⟨?_, ?_⟩, hcontent, hno⟩
    · rw [hsplit]
      exact hwithin.trans (List.prefix_append dir [name])
    · intro heq
      have hle := hwithin.length_le
      rw [← Location.path_injective heq, hsplit, List.length_append, List.length_singleton] at hle
      omega
  · rintro ⟨⟨hwithin, hne⟩, hcontent, hno⟩
    have hproper : root.walk ⟨text⟩ ≠ root := fun heq => hne (congrArg Location.path heq)
    rcases List.eq_nil_or_concat (root.walk ⟨text⟩) with hnil | ⟨dir, name, hsplit⟩
    · rw [hnil] at hno
      cases hno
    · rw [List.concat_eq_append] at hsplit
      -- A directory lies above each file, and above the file is still in the root.
      have hdir : m.isDir dir = true := by
        have habove := hbuilt.isDir_dropLast hcontent
        rwa [hsplit, List.dropLast_concat] at habove
      have hin : root <+: dir := by
        rw [hsplit, List.prefix_concat_iff] at hwithin
        exact hwithin.resolve_left fun heq => hproper (hsplit.trans heq.symm)
      exact ⟨dir, name, hsplit, hin, hno, hdir, hcontent⟩

/-- A store with a file below a directory, and a directory below that. -/
def Sample.shelf : Memory :=
  empty.after [.addFile ⟨"/a/b/x"⟩ "data".toUTF8, .addDirectory ⟨"/a/b/d"⟩]

theorem Sample.shelf_built : Sample.shelf.Built := Built.empty.after _

/-- The first loader of a chain over the store. -/
def Sample.reader : Loader := ⟨⟨⟨⟨"/a"⟩⟩, .confined, none⟩, [], .permissive, none⟩

theorem Sample.reader_reachable : Sample.reader.Reachable (env (.fixed ⟨"/clone"⟩)) :=
  .origin (show Loader.origin (env (.fixed ⟨"/clone"⟩)) .permissive .confined ⟨"/a"⟩ shelf =
    (.ok reader, shelf) from rfl)

/-- A path that leaves the root and comes back is read. -/
theorem Sample.shelf_reads :
    Sample.reader.load (env (.fixed ⟨"/clone"⟩)) ⟨"..//a/./b/x"⟩ Sample.shelf =
      (.ok "data".toUTF8, Sample.shelf) :=
  (load_below_iff Sample.shelf_built Sample.reader_reachable rfl _ _).2
    ⟨⟨by decide, by decide⟩, rfl, by decide⟩

/-- Over a store that was built, let the root of a loader be a directory. A base at or above the
root is refused, because of the root, or because of the nearest clone if it lies outside of that. If
no clone is on the chain, each directory below the root is the root of a child. -/
theorem children_by_direction (hbuilt : m.Built) (h : loader.Reachable (env cloner))
    (hdir : m.isDir (place loader.root.path) = true) :
    (∀ base : String, base ≠ "" → (Path.mk base).isAbsolute = false → (Path.mk base).Climbs →
      ((∀ clone ∈ loader.nearestClone?,
          Directory.isWithin ⟨loader.root.join ⟨base⟩⟩ clone.dir.path = true) →
        loader.child (env cloner) base m =
          (.error (.directoryCycle (loader.root.join ⟨base⟩) loader.root.path), m)) ∧
      ∀ clone ∈ loader.nearestClone?,
        Directory.isWithin ⟨loader.root.join ⟨base⟩⟩ clone.dir.path = false →
        loader.child (env cloner) base m =
          (.error (.outsideClone (loader.root.join ⟨base⟩) clone.dir.path), m)) ∧
    ((∀ node ∈ loader.lineage, node.source = none) →
      ∀ base : String, RemoteRef.parse? base = none → (Path.mk base).isAbsolute = false →
        (Path.mk base).Descends → m.isDir (place (loader.root.join ⟨base⟩)) = true →
        ∃ child, loader.child (env cloner) base m = (.ok child, m) ∧
          child.root.path = loader.root.join ⟨base⟩) := by
  obtain ⟨root, hroot⟩ := h.exists_place fileSystem_places
  have hjoin : ∀ path, loader.root.join path = (root.walk path).path := by
    intro path
    rw [hroot, Directory.join_path]
  have htop : m.isDir root = true := by
    rwa [hroot, place_path] at hdir
  constructor
  · intro base hne hrelative hclimbs
    have hchild : loader.child (env cloner) base m = _ :=
      child_of_climbs hbuilt hroot htop hne hrelative hclimbs
    rw [hchild, hjoin]
    constructor
    · intro hwithin
      have hclone : Loader.checkWithin (loader.nearestClone?.map Clone.dir)
          ⟨(root.walk ⟨base⟩).path⟩ = .ok () := by
        cases hnearest : loader.nearestClone? with
        | none => rfl
        | some clone => exact Loader.checkWithin_some_iff.2 (hwithin clone hnearest)
      rw [hclone]
    · intro clone hnearest houtside
      have hclone : Loader.checkWithin (loader.nearestClone?.map Clone.dir)
          ⟨(root.walk ⟨base⟩).path⟩ =
          .error (.outsideClone (root.walk ⟨base⟩).path clone.dir.path) := by
        rw [Option.mem_def.1 hnearest, Option.map_some, Loader.checkWithin, houtside]
        rfl
      rw [hclone]
  · intro hlocal base hbase hrelative hdescends hbelow
    rw [hjoin, place_path] at hbelow
    rw [hjoin]
    exact ⟨_, child_of_descends h hroot hlocal hbase hrelative hdescends hbelow, rfl⟩

/-- The loader for a base of the first one. -/
def Sample.nested : Loader :=
  ⟨⟨⟨⟨"/a/b"⟩⟩, .confined, none⟩, [reader.node], .permissive, none⟩

theorem Sample.nested_reachable : Sample.nested.Reachable (env (.fixed ⟨"/clone"⟩)) :=
  Sample.reader_reachable.child (show reader.child (env (.fixed ⟨"/clone"⟩)) "b" shelf =
    (.ok nested, shelf) from rfl)

/-- The root above is refused, and the directory below is the root of a child. -/
theorem Sample.shelf_children :
    Sample.nested.child (env (.fixed ⟨"/clone"⟩)) ".//.." Sample.shelf =
        (.error (.directoryCycle ⟨"/a"⟩ ⟨"/a/b"⟩), Sample.shelf) ∧
      ∃ child, Sample.nested.child (env (.fixed ⟨"/clone"⟩)) "./d" Sample.shelf =
        (.ok child, Sample.shelf) ∧ child.root.path = ⟨"/a/b/d"⟩ := by
  obtain ⟨hup, hdown⟩ :=
    children_by_direction Sample.shelf_built Sample.nested_reachable (by decide)
  have hlocal : ∀ node ∈ nested.lineage, node.source = none := by decide
  have hrefused := (hup ".//.." (by decide) (by decide) (by decide)).1 nofun
  have hmade := hdown hlocal "./d" (by decide) (by decide) ⟨⟨⟨"d", by decide⟩, by decide⟩, by decide⟩
    (by decide)
  exact ⟨hrefused, hmade⟩

end Memory

end OverlayChain
