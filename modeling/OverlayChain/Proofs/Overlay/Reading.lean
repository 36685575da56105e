import OverlayChain.Memory.Bound
import OverlayChain.Proofs.Loader.Reading
import OverlayChain.Proofs.Memory.Children

/-!
# Reading overlay files over files in memory

An overlay file that is read lies in the root of its loader, under one of the names of overlay
files. What a confined loader answers depends only on its root and on what is directly in it.

## Main definitions

- `Memory.Permits`: a confined loader may read a place.

## Main statements

- `Memory.load_confined`, `Memory.load_unrestricted`: what a loader does to read a path.
- `Memory.load_of_permits`, `Memory.load_of_not_permits`: what a confined loader answers.
- `Memory.content?_of_load`: what is read is the content of the place that is asked for.
- `Memory.content?_of_readFile`: what an overlay file says is what its content says.
- `Memory.readFile_congr`: stores that agree on a root have the same overlay file in it.
-/

namespace OverlayChain.Memory

variable {cloner : Cloner Memory} {m m' : Memory} {loader : Loader} {root : Location}

theorem load_snd (path : Path) : (loader.load (env cloner) path m).2 = m :=
  Loader.load_keeps (env_looks cloner (· = m)) path m rfl

/-- Asked for a text, a confined loader reads a file in a directory of its root, under its own place. -/
theorem load_confined_eq_ok_iff (hpolicy : loader.node.policy = .confined)
    (hroot : loader.root = ⟨root.path⟩) {path : Path} (hpath : path.IsText) {content : ByteArray} :
    loader.load (env cloner) path m = (.ok content, m') ↔
      m' = m ∧ ∃ (dir : Location) (name : Name), root.walk path = dir ++ [name] ∧ root <+: dir ∧
        m.isDir (root.walk path) = false ∧ m.isDir dir = true ∧
        m.content? (root.walk path) = some content := by
  have hmirrors : (env cloner).fs.Mirrors fileSystem id := FileSystem.mirrors_self _
  have hsnd : (loader.load (env cloner) path m).2 = m := load_snd path
  constructor
  · intro h
    rw [h] at hsnd
    exact ⟨hsnd, (Loader.load_text_iff hmirrors hpolicy hroot hpath).1 ⟨m', h⟩⟩
  · rintro ⟨rfl, h⟩
    obtain ⟨t, hload⟩ := (Loader.load_text_iff (s := m') hmirrors hpolicy hroot hpath).2 h
    rw [hload] at hsnd
    rw [hload, ← hsnd]

/-- An unrestricted loader reads the path that is asked for. -/
theorem load_unrestricted (hpolicy : loader.node.policy = .unrestricted) (path : Path) :
    loader.load (env cloner) path m = (m.read (loader.requested path), m) := by
  have hload : loader.load (env cloner) path = loader.node.policy.permit fileSystem loader.root
      (loader.requested path) >>= fileSystem.read := rfl
  rw [hload, hpolicy]
  rfl

/-- Under every policy, what is read for a text is the content of the place that is asked for. -/
theorem content?_of_load (hroot : loader.root = ⟨root.path⟩) {path : Path} (hpath : path.IsText)
    {content : ByteArray} (h : loader.load (env cloner) path m = (.ok content, m')) :
    m.content? (root.walk path) = some content := by
  cases hpolicy : loader.node.policy with
  | unrestricted =>
    rw [load_unrestricted hpolicy] at h
    have hread : m.read (loader.requested path) = .ok content := congrArg Prod.fst h
    rw [← Loader.walk_requested hroot path]
    exact read_eq_ok_iff.1 hread
  | confined =>
    obtain ⟨-, dir, name, -, -, -, -, hcontent⟩ := (load_confined_eq_ok_iff hpolicy hroot hpath).1 h
    exact hcontent

/-- The overlay file of a loader is the content of a file in its root. -/
theorem content?_of_readFirst (hroot : loader.root = ⟨root.path⟩) {names : List String}
    {file : Overlay.File} (h : Overlay.readFirst (env cloner) loader names m = (.ok file, m')) :
    ∃ name ∈ names, ∃ content, m.content? (root.walk ⟨name⟩) = some content ∧
      Overlay.File.parse content = .ok file := by
  induction names with
  | nil => cases h
  | cons name names ih =>
    rw [Overlay.readFirst, Action.bind_of_ok (Action.attempt_apply _ m)] at h
    rcases hload : loader.load (env cloner) ⟨name⟩ m with ⟨error | content, u⟩
    · have hu : (loader.load (env cloner) ⟨name⟩ m).2 = m := load_snd ⟨name⟩
      rw [hload] at hu h
      dsimp only at hu
      rw [hu] at h
      cases error with
      | io cause =>
        dsimp only at h
        split at h
        · obtain ⟨other, hother, hcontent⟩ := ih h
          exact ⟨other, List.mem_cons_of_mem _ hother, hcontent⟩
        · cases h
      | _ => cases h
    · rw [hload] at h
      exact ⟨name, List.mem_cons_self .., content, content?_of_load hroot (Path.isText_mk name) hload,
        (Action.check_eq_ok_iff.1 h).1⟩

theorem content?_of_readFile (hroot : loader.root = ⟨root.path⟩) {file : Overlay.File}
    (h : Overlay.readFile (env cloner) loader m = (.ok file, m')) :
    ∃ name ∈ Overlay.fileNames, ∃ content, m.content? (root.walk ⟨name⟩) = some content ∧
      Overlay.File.parse content = .ok file :=
  content?_of_readFirst hroot h

theorem isName_of_mem_fileNames : ∀ text ∈ Overlay.fileNames, IsName (Text.encode text) := by
  decide

/-- The entries of an overlay file that is read stand in the content of a file in the root. -/
theorem exists_entriesOf_of_readFile (hroot : loader.root = ⟨root.path⟩) {file : Overlay.File}
    (h : Overlay.readFile (env cloner) loader m = (.ok file, m')) :
    ∃ (name : Name) (content : ByteArray), name.text ∈ Overlay.fileNames ∧
      m.content? (root ++ [name]) = some content ∧
      entriesOf content = file.bases ++ file.resources := by
  obtain ⟨text, htext, content, hcontent, hparse⟩ := content?_of_readFile hroot h
  refine ⟨⟨text, isName_of_mem_fileNames text htext⟩, content, ?_, ?_, ?_⟩
  · rw [Name.text, Text.decode_encode]
    exact htext
  · rw [← Location.walk_name]
    exact hcontent
  · rw [entriesOf, hparse]

/-- What a path leads to depends on its place and on the place above it. -/
theorem locate_congr {path : Path} (htarget : m.isDir (place path) = m'.isDir (place path))
    (habove : m.isDir (place path).dropLast = m'.isDir (place path).dropLast) :
    m.locate path = m'.locate path := by
  rw [locate, locate, htarget]
  cases hsplit : (place path).split? with
  | none => rfl
  | some split =>
    obtain ⟨name, -, hsplit⟩ := Option.map_eq_some_iff.1 hsplit
    rw [← hsplit]
    dsimp only
    rw [habove]

/-- What a text leads to below the root is read as the text itself. -/
theorem read_located {path : Path} (hpath : path.IsText) {dir : Directory} {text : String}
    (h : m.locate (loader.requested path) = .ok ⟨dir, some text⟩)
    (hwithin : dir.isWithin loader.root.path = true) :
    m.read (dir.join ⟨text⟩) = m.read (loader.requested path) := by
  rcases locate_eq_ok_iff.1 h with ⟨-, hfound⟩ | ⟨above, name, hsplit, -, -, hfound⟩
  · cases hfound
  · cases hfound
    have hwalk : (Location.walk [] loader.root.path).walk path = above ++ [name] := by
      rw [← Loader.walk_requested_eq]
      exact hsplit
    have hshown := Location.shown_of_walk hpath hwalk (Directory.walk_prefix_of_isWithin hwithin)
    rw [read, read, place_join, Location.walk_text, hshown, hsplit]

/-- What a confined loader does to read a path. -/
theorem load_confined (hpolicy : loader.node.policy = .confined) (path : Path) :
    loader.load (env cloner) path m =
      match m.locate (loader.requested path) with
      | .error error => (.error error, m)
      | .ok ⟨_, none⟩ => (.error (.notAFile (loader.requested path)), m)
      | .ok ⟨dir, some name⟩ =>
        if dir.isWithin loader.root.path then (m.read (dir.join ⟨name⟩), m)
        else (.error (.outsideRoot (loader.requested path) loader.root.path), m) := by
  have hload : loader.load (env cloner) path = loader.node.policy.permit fileSystem loader.root
      (loader.requested path) >>= fileSystem.read := rfl
  rw [hload, hpolicy, ReadPolicy.permit, Action.bind_apply, Action.bind_apply, fileSystem_locate]
  rcases m.locate (loader.requested path) with error | ⟨dir, file⟩
  · rfl
  · cases file with
    | none => rfl
    | some name =>
      dsimp only
      by_cases hwithin : dir.isWithin loader.root.path = true
      · rw [if_pos hwithin, if_pos hwithin]
        rfl
      · rw [if_neg hwithin, if_neg hwithin]
        rfl

/-- A confined loader with its root at a place may read another one: it is a name in a directory at
or below the root, and no directory. -/
def Permits (m : Memory) (root target : Location) : Prop :=
  ∃ (dir : Location) (name : Name), target = dir ++ [name] ∧ root <+: dir ∧
    m.isDir target = false ∧ m.isDir dir = true

/-- What a confined loader may read, it reads where it is asked for. -/
theorem load_of_permits (hpolicy : loader.node.policy = .confined)
    (hroot : loader.root = ⟨root.path⟩) {path : Path} (hpath : path.IsText)
    (h : m.Permits root (root.walk path)) :
    loader.load (env cloner) path m = (m.read (loader.requested path), m) := by
  obtain ⟨dir, name, hsplit, hwithin, hno, hdir⟩ := h
  have hplace : place (loader.requested path) = root.walk path := Loader.walk_requested hroot path
  have hlocate : m.locate (loader.requested path) = .ok ⟨⟨dir.path⟩, some name.text⟩ := by
    refine locate_eq_ok_iff.2 (.inr ⟨dir, name, ?_, ?_, hdir, rfl⟩)
    · rw [hplace, hsplit]
    · rw [hplace, hno]
  have hin : Directory.isWithin ⟨dir.path⟩ loader.root.path = true := by
    rwa [hroot, Directory.isWithin_path_iff]
  rw [load_confined hpolicy, hlocate]
  dsimp only
  rw [if_pos hin, read_located hpath hlocate hin]

/-- What a confined loader may not read is refused, and not as a file that is not there. -/
theorem load_of_not_permits (hpolicy : loader.node.policy = .confined)
    (hroot : loader.root = ⟨root.path⟩) {path : Path} (h : ¬ m.Permits root (root.walk path)) :
    ∃ error, loader.load (env cloner) path m = (.error error, m) ∧ ∀ cause, error ≠ .io cause := by
  have hplace : place (loader.requested path) = root.walk path := Loader.walk_requested hroot path
  rw [load_confined hpolicy]
  rcases hlocate : m.locate (loader.requested path) with error | ⟨found, file⟩
  · obtain ⟨message, rfl⟩ := locate_fails (loader.requested path) m error m
      (by rw [fileSystem_locate, hlocate])
    exact ⟨_, rfl, by simp⟩
  · rcases locate_eq_ok_iff.1 hlocate with ⟨-, heq⟩ | ⟨dir, name, hsplit, hno, hdir, heq⟩
    · cases heq
      exact ⟨_, rfl, by simp⟩
    · cases heq
      rw [hplace] at hsplit hno
      dsimp only
      have houtside : ¬ Directory.isWithin ⟨dir.path⟩ loader.root.path = true := by
        rw [hroot, Directory.isWithin_path_iff]
        exact fun hwithin => h ⟨dir, name, hsplit, hwithin, hno, hdir⟩
      rw [if_neg houtside]
      exact ⟨_, rfl, by simp⟩

/-- What a confined loader answers depends on the place that it is asked for and on the place
above it. -/
theorem load_congr (hpolicy : loader.node.policy = .confined) (hroot : loader.root = ⟨root.path⟩)
    {path : Path} (hpath : path.IsText)
    (htarget : m.isDir (root.walk path) = m'.isDir (root.walk path))
    (habove : m.isDir (root.walk path).dropLast = m'.isDir (root.walk path).dropLast)
    (hcontent : m.content? (root.walk path) = m'.content? (root.walk path)) :
    (loader.load (env cloner) path m).1 = (loader.load (env cloner) path m').1 := by
  have hplace : place (loader.requested path) = root.walk path := Loader.walk_requested hroot path
  have hlocate : m.locate (loader.requested path) = m'.locate (loader.requested path) :=
    locate_congr (by rw [hplace, htarget]) (by rw [hplace, habove])
  rw [load_confined hpolicy, load_confined hpolicy, ← hlocate]
  rcases hfound : m.locate (loader.requested path) with error | ⟨dir, file⟩
  · rfl
  · cases file with
    | none => rfl
    | some text =>
      dsimp only
      split
      · next hwithin =>
        -- The name is read in the directory above the place, so at the place itself.
        rw [read_located hpath hfound hwithin, read_located hpath (hlocate ▸ hfound) hwithin, read,
          read, hplace, hcontent]
      · rfl

/-- Stores that agree on a root and on what is directly in it have the same overlay file there. -/
theorem readFirst_congr (hpolicy : loader.node.policy = .confined)
    (hroot : loader.root = ⟨root.path⟩) (hdir : m.isDir root = m'.isDir root)
    (hin : ∀ name : Name, m.isDir (root ++ [name]) = m'.isDir (root ++ [name]) ∧
      m.content? (root ++ [name]) = m'.content? (root ++ [name]))
    {names : List String} (hnames : ∀ text ∈ names, IsName (Text.encode text)) :
    (Overlay.readFirst (env cloner) loader names m).1 =
      (Overlay.readFirst (env cloner) loader names m').1 := by
  induction names with
  | nil => rfl
  | cons text names ih =>
    have hplace : root.walk ⟨text⟩ = root ++ [⟨text, hnames text (List.mem_cons_self ..)⟩] :=
      Location.walk_name root ⟨text, hnames text (List.mem_cons_self ..)⟩
    have hload : (loader.load (env cloner) ⟨text⟩ m).1 = (loader.load (env cloner) ⟨text⟩ m').1 := by
      refine load_congr hpolicy hroot (Path.isText_mk text) ?_ ?_ ?_
      · rw [hplace]
        exact (hin _).1
      · rw [hplace, List.dropLast_concat]
        exact hdir
      · rw [hplace]
        exact (hin _).2
    have hrest := ih fun other hother => hnames other (List.mem_cons_of_mem _ hother)
    rw [Overlay.readFirst, Action.bind_of_ok (Action.attempt_apply _ m),
      Action.bind_of_ok (Action.attempt_apply _ m')]
    rw [load_snd, load_snd, hload]
    -- Only a file that is not found leads on to the next name, in both stores alike.
    rcases (loader.load (env cloner) ⟨text⟩ m').1 with error | content
    · cases error with
      | io cause =>
        dsimp only
        split
        · exact hrest
        · rfl
      | _ => rfl
    · rfl

theorem readFile_congr (hpolicy : loader.node.policy = .confined)
    (hroot : loader.root = ⟨root.path⟩) (hdir : m.isDir root = m'.isDir root)
    (hin : ∀ name : Name, m.isDir (root ++ [name]) = m'.isDir (root ++ [name]) ∧
      m.content? (root ++ [name]) = m'.content? (root ++ [name])) :
    (Overlay.readFile (env cloner) loader m).1 = (Overlay.readFile (env cloner) loader m').1 :=
  readFirst_congr hpolicy hroot hdir hin isName_of_mem_fileNames

end OverlayChain.Memory
