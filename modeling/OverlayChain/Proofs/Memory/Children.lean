import OverlayChain.Proofs.Loader.Frame

/-!
# Children over files in memory

If nothing is fetched, whether a loader has a child for a base depends only on which places are
directories, and making the child changes nothing.

## Main definitions

- `Memory.Spawns`: what it takes for a loader to have a child for a base.

## Main statements

- `Memory.child_eq_ok_iff`: a child is made exactly if this holds.
- `Memory.child_of_file`: an entry that names a file is no base, and may be a file.
- `Memory.of_mayBeFile`: an entry that may be a file is no reference.
-/

namespace OverlayChain.Memory

variable {dirOf : RemoteRef → Option Path} {m m' : Memory} {parent child : Loader} {base : String}
  {root : Location}

theorem bytes_join_ne_nil {path : Path} : (Directory.join ⟨root.path⟩ path).bytes ≠ [] := by
  rw [Directory.join_path]
  exact List.cons_ne_nil _ _

/-- A path taken relative to a place is admitted as a root exactly if it leads to a directory. -/
theorem admitRoot_join_iff {path : Path} {dir : Directory} :
    fileSystem.admitRoot (Directory.join ⟨root.path⟩ path) m = (.ok dir, m') ↔
      m.isDir (root.walk path) = true ∧ dir = ⟨(root.walk path).path⟩ ∧ m = m' := by
  rw [FileSystem.admitRoot_eq_ok_iff, and_iff_right bytes_join_ne_nil, fileSystem_locate,
    Action.ended_eq_iff, locate_directory_iff, place_join, and_assoc]

/-- A path taken relative to a place is admitted as a root as it is located. -/
theorem admitRoot_join (root : Location) (path : Path) (m : Memory) :
    fileSystem.admitRoot (Directory.join ⟨root.path⟩ path) m =
      match m.locate (Directory.join ⟨root.path⟩ path) with
      | .error error => (.error error, m)
      | .ok ⟨dir, none⟩ => (.ok dir, m)
      | .ok ⟨_, some file⟩ =>
        (.error (.notADirectory (Directory.join ⟨root.path⟩ path).text file), m) := by
  rw [FileSystem.admitRoot, if_neg (by simpa using bytes_join_ne_nil),
    FileSystem.locateDirectory, Action.bind_apply, fileSystem_locate]
  rcases m.locate (Directory.join ⟨root.path⟩ path) with error | ⟨dir, file⟩
  · rfl
  · cases file with
    | none => rfl
    | some file => rfl

/-- Nothing is logged, so the store stays as it is. -/
@[simp] theorem noted_env (cloner : Cloner Memory) (level : Log.Level) (message : String)
    (m : Memory) : Loader.noted (env cloner) level message m = m := rfl

/-- Looking at a store does not change it. -/
theorem env_looks (cloner : Cloner Memory) (I : Memory → Prop) : (env cloner).Looks I :=
  ⟨fun _ _ hs => hs, fun _ _ hs => hs, fun _ _ hs => hs⟩

/-- Pointing a reference at a directory does not change the store. -/
theorem fixed_snd (dir : Path) (ref : RemoteRef) (m : Memory) :
    ((Cloner.fixed dir).take fileSystem ref m).2 = m := by
  rw [Cloner.fixed_eq_pointing]
  exact Cloner.pointing_keeps (env_looks (.fixed dir) (· = m)).locate ref m rfl

/-- What it takes for a loader to have a child for a base, and what the child looks like. -/
inductive Spawns (dirOf : RemoteRef → Option Path) (m : Memory) (parent : Loader) (root : Location)
    (base : String) : Loader → Prop
  /-- A directory that lies in the nearest clone, and neither is nor contains a root above. -/
  | within (hbase : RemoteRef.parse? base = none) (hrelative : (Path.mk base).isAbsolute = false)
      (hdir : m.isDir (root.walk ⟨base⟩) = true)
      (hclone : Loader.checkWithin (parent.nearestClone?.map Clone.dir)
        ⟨(root.walk ⟨base⟩).path⟩ = .ok ())
      (hcycle : parent.checkDirectory ⟨(root.walk ⟨base⟩).path⟩ = .ok ()) :
      Spawns dirOf m parent root base
        (parent.extend ⟨⟨(root.walk ⟨base⟩).path⟩, parent.node.policy, none⟩ none)
  /-- A directory of the clone at which the reference is pointed. -/
  | remote (ref : RemoteRef) (dir : Path) (hbase : RemoteRef.parse? base = some ref)
      (hcycle : parent.checkRepository ref = .ok ()) (hknown : dirOf ref = some dir)
      (htop : m.isDir (place dir) = true)
      (hdir : m.isDir (Location.walk (place dir) ⟨ref.path⟩) = true)
      (hwithin : place dir <+: Location.walk (place dir) ⟨ref.path⟩) :
      Spawns dirOf m parent root base
        (parent.extend ⟨⟨(Location.walk (place dir) ⟨ref.path⟩).path⟩, .confined,
          some ⟨ref, ⟨(place dir).path⟩⟩⟩ (some ⟨(place dir).path⟩))

/-- A child is made exactly if its parent spawns it, and making it changes nothing. -/
theorem child_eq_ok_iff (hroot : parent.root = ⟨root.path⟩) :
    parent.child (env (.pointing dirOf)) base m = (.ok child, m') ↔
      base ≠ "" ∧ m = m' ∧ Spawns dirOf m parent root base child := by
  rw [Loader.child_eq_ok_iff]
  refine and_congr_right fun _ => ?_
  simp only [Loader.localChild_eq_ok_iff, Loader.remoteChild_eq_ok_iff, noted_env]
  constructor
  · rintro (⟨hbase, hrelative, dir, u, hadmit, hclone, hcycle, rfl, rfl⟩ |
      ⟨ref, hbase, hcycle, left, top, dir, u, v, hcloned, hadmit, hwithin, rfl, rfl⟩)
    · rw [hroot] at hadmit
      obtain ⟨hdir, rfl, rfl⟩ := admitRoot_join_iff.1 hadmit
      exact ⟨rfl, .within hbase hrelative hdir hclone hcycle⟩
    · obtain ⟨path, found, hknown, hleft, hlocate⟩ := Cloner.pointing_eq_ok_iff.1 hcloned
      cases hleft
      obtain ⟨hlocated, rfl⟩ := Action.ended_eq_iff.1 hlocate
      obtain ⟨htop, rfl⟩ := locate_directory_iff.1 hlocated
      obtain ⟨hdir, rfl, rfl⟩ := admitRoot_join_iff.1 hadmit
      rw [Directory.isWithin_path_iff] at hwithin
      exact ⟨rfl, .remote ref path hbase hcycle hknown htop hdir hwithin⟩
  · rintro ⟨rfl, hspawns⟩
    cases hspawns with
    | within hbase hrelative hdir hclone hcycle =>
      refine .inl ⟨hbase, hrelative, _, m, ?_, hclone, hcycle, rfl, rfl⟩
      rw [hroot]
      exact admitRoot_join_iff.2 ⟨hdir, rfl, rfl⟩
    | remote ref path hbase hcycle hknown htop hdir hwithin =>
      refine .inr ⟨ref, hbase, hcycle, ref, _, _, m, m, ?_, admitRoot_join_iff.2 ⟨hdir, rfl, rfl⟩,
        (Directory.isWithin_path_iff _ _).2 hwithin, rfl, rfl⟩
      refine Cloner.pointing_eq_ok_iff.2 ⟨path, _, hknown, rfl, ?_⟩
      exact Action.ended_eq_iff.2 ⟨locate_directory_iff.2 ⟨htop, rfl⟩, rfl⟩

theorem localChild_snd (cloner : Cloner Memory) :
    (parent.localChild (env cloner) base m).2 = m :=
  Loader.localChild_keeps (env_looks cloner (· = m)) base m rfl

/-- A relative base is refused as its directory is. -/
theorem localChild_of_refused {cloner : Cloner Memory} (hroot : parent.root = ⟨root.path⟩)
    (hrelative : (Path.mk base).isAbsolute = false) {error : Error}
    (h : fileSystem.admitRoot (Directory.join ⟨root.path⟩ ⟨base⟩) m = (.error error, m)) :
    parent.localChild (env cloner) base m = (.error error, m) := by
  rw [Loader.localChild, Action.bind_of_ok (Loader.report_apply _ _ m), noted_env,
    if_neg (by simp [hrelative]), hroot]
  exact Action.bind_of_error h _

/-- What a loader does about a base that is a directory: it holds it against its clone, and then
against its chain. -/
theorem localChild_of_isDir {cloner : Cloner Memory} (hroot : parent.root = ⟨root.path⟩)
    (hrelative : (Path.mk base).isAbsolute = false) (hdir : m.isDir (root.walk ⟨base⟩) = true) :
    parent.localChild (env cloner) base m =
      match Loader.checkWithin (parent.nearestClone?.map Clone.dir) ⟨(root.walk ⟨base⟩).path⟩ with
      | .error error => (.error error, m)
      | .ok _ =>
        match parent.checkDirectory ⟨(root.walk ⟨base⟩).path⟩ with
        | .error error => (.error error, m)
        | .ok _ => (.ok (parent.extend
            ⟨⟨(root.walk ⟨base⟩).path⟩, parent.node.policy, none⟩ none), m) := by
  have hadmit : (env cloner).fs.admitRoot (parent.root.join ⟨base⟩) m =
      (.ok ⟨(root.walk ⟨base⟩).path⟩, m) := by
    rw [hroot]
    exact admitRoot_join_iff.2 ⟨hdir, rfl, rfl⟩
  rw [Loader.localChild, Action.bind_of_ok (Loader.report_apply _ _ m), noted_env,
    if_neg (by simp [hrelative])]
  dsimp only
  rw [Action.bind_of_ok hadmit, Action.bind_apply, Action.check_apply]
  cases Loader.checkWithin (parent.nearestClone?.map Clone.dir) ⟨(root.walk ⟨base⟩).path⟩ with
  | error error => rfl
  | ok _ =>
    dsimp only
    rw [Action.bind_apply, Action.check_apply]
    cases parent.checkDirectory ⟨(root.walk ⟨base⟩).path⟩ with
    | error error => rfl
    | ok _ => rfl

/-- An entry that names a file in a directory is no base, and may be a file. -/
theorem child_of_file {cloner : Cloner Memory} (hroot : parent.root = ⟨root.path⟩)
    (hbase : RemoteRef.parse? base = none) (hne : base ≠ "") {dir : Location} {name : Name}
    (hsplit : root.walk ⟨base⟩ = dir ++ [name]) (hno : m.isDir (root.walk ⟨base⟩) = false)
    (hdir : m.isDir dir = true) :
    ∃ error, parent.child (env cloner) base m = (.error error, m) ∧
      Overlay.mayBeFile base error = true := by
  rw [Loader.child, if_neg (by simpa using hne), hbase]
  dsimp only
  by_cases habs : (Path.mk base).isAbsolute = true
  · -- An absolute entry is refused before the store is asked, and may be a file all the same.
    rw [Loader.localChild, Action.bind_of_ok (Loader.report_apply _ _ m), noted_env, if_pos habs,
      Action.bind_of_error (Action.throw_apply _ _)]
    exact ⟨_, rfl, rfl⟩
  · have hlocate : m.locate (Directory.join ⟨root.path⟩ ⟨base⟩) =
        .ok ⟨⟨dir.path⟩, some name.text⟩ := by
      refine locate_eq_ok_iff.2 (.inr ⟨dir, name, ?_, ?_, hdir, rfl⟩)
      · rw [place_join, hsplit]
      · rw [place_join, hno]
    have hadmit : fileSystem.admitRoot (Directory.join ⟨root.path⟩ ⟨base⟩) m =
        (.error (.notADirectory (Directory.join ⟨root.path⟩ ⟨base⟩).text name.text), m) := by
      rw [admitRoot_join, hlocate]
    refine ⟨_, localChild_of_refused hroot (by simpa using habs) hadmit, ?_⟩
    rw [Overlay.mayBeFile, hbase]
    rfl

theorem locate_fails (path : Path) :
    (fileSystem.locate path).Fails fun error => ∃ message, error = .unresolved message := by
  intro m error m' h
  rw [fileSystem_locate, Action.ended_eq_iff, locate] at h
  obtain ⟨h, -⟩ := h
  dsimp only at h
  split at h
  · cases h
  · split at h
    · cases h
      exact ⟨_, rfl⟩
    · split at h
      · cases h
      · cases h
        exact ⟨_, rfl⟩

/-- A local entry that failed to be a base and may be a file names an entry of a directory that is
no directory. -/
theorem split_of_mayBeFile {cloner : Cloner Memory} (hroot : parent.root = ⟨root.path⟩)
    (hbase : RemoteRef.parse? base = none) (hrelative : (Path.mk base).isAbsolute = false)
    {error : Error} (h : parent.child (env cloner) base m = (.error error, m'))
    (hfile : Overlay.mayBeFile base error = true) :
    m' = m ∧ base ≠ "" ∧ ∃ (dir : Location) (name : Name), root.walk ⟨base⟩ = dir ++ [name] ∧
      m.isDir (root.walk ⟨base⟩) = false ∧ m.isDir dir = true := by
  rw [Loader.child] at h
  by_cases hne : base = ""
  · rw [if_pos (by simpa using hne)] at h
    cases h
    cases hfile
  · rw [if_neg (by simpa using hne), hbase] at h
    dsimp only at h
    have hsnd : (parent.localChild (env cloner) base m).2 = m := localChild_snd cloner
    rw [h] at hsnd
    refine ⟨hsnd, hne, ?_⟩
    rcases hlocate : m.locate (Directory.join ⟨root.path⟩ ⟨base⟩) with cause | ⟨found, file⟩
    · -- Where nothing was found, the failure does not say that there is a file.
      exfalso
      obtain ⟨message, rfl⟩ := locate_fails (Directory.join ⟨root.path⟩ ⟨base⟩) m cause m
        (by rw [fileSystem_locate, hlocate])
      have hadmit : fileSystem.admitRoot (Directory.join ⟨root.path⟩ ⟨base⟩) m =
          (.error (.unresolved message), m) := by
        rw [admitRoot_join, hlocate]
      rw [localChild_of_refused hroot hrelative hadmit] at h
      cases h
      cases hfile
    · rcases locate_eq_ok_iff.1 hlocate with ⟨hdir, -⟩ | ⟨dir, name, hsplit, hno, habove, -⟩
      · -- A directory is refused only because of where it lies.
        exfalso
        rw [place_join] at hdir
        rw [localChild_of_isDir hroot hrelative hdir] at h
        split at h
        · next cause hwithin =>
          cases h
          obtain ⟨top, rfl⟩ := Loader.eq_of_checkWithin_error hwithin
          cases hfile
        · split at h
          · next cause hcycle =>
            cases h
            obtain ⟨visited, rfl⟩ := Loader.eq_of_checkDirectory_error hcycle
            cases hfile
          · cases h
      · rw [place_join] at hsplit hno
        exact ⟨dir, name, hsplit, hno, habove⟩

/-- Why a child for a reference is refused: nothing is known to be there, or it is no directory of
the clone. -/
theorem remoteChild_refused {P : Error → Prop} (hunresolved : ∀ message, P (.unresolved message))
    (hfile : ∀ path file, P (.notADirectory path file)) (hempty : ∀ what, P (.emptyPath what))
    (hcloned : ∀ raw, P (.notCloned raw)) (houtside : ∀ root top, P (.outsideClone root top))
    (hunknown : ∀ url ref message hint, P (.cloneFailed url ref message hint)) (ref : RemoteRef) :
    (parent.remoteChild (env (.pointing dirOf)) ref).Fails P := by
  have hlocate : ∀ path, (fileSystem.locate path).Fails P := by
    intro path m error m' h
    obtain ⟨message, rfl⟩ := locate_fails path m error m' h
    exact hunresolved message
  exact Loader.remoteChild_fails (Cloner.pointing_fails hlocate hfile hunknown ref)
    (Loader.rootInClone_fails hlocate hfile hempty hcloned houtside)

/-- Only a local base is refused as absolute, never a reference. -/
theorem remoteChild_ne_absoluteBase (ref : RemoteRef) :
    (parent.remoteChild (env (.pointing dirOf)) ref).Fails
      fun error => ∀ shown, error ≠ .absoluteBase shown := by
  apply remoteChild_refused
  all_goals simp

/-- An entry that failed to be a base and may be a file is no reference, and nothing changed. -/
theorem of_mayBeFile {error : Error}
    (h : parent.child (env (.pointing dirOf)) base m = (.error error, m'))
    (hfile : Overlay.mayBeFile base error = true) :
    base ≠ "" ∧ RemoteRef.parse? base = none ∧ m' = m := by
  rw [Loader.child] at h
  by_cases hempty : base = ""
  · rw [if_pos (by simpa using hempty)] at h
    cases h
    cases hfile
  · rw [if_neg (by simpa using hempty)] at h
    cases hbase : RemoteRef.parse? base with
    | none =>
      rw [hbase] at h
      have hsnd : (parent.localChild (env (.pointing dirOf)) base m).2 = m := localChild_snd _
      dsimp only at h
      rw [h] at hsnd
      exact ⟨hempty, rfl, hsnd⟩
    | some ref =>
      -- The failure of a reference neither says that it is a file nor that it is absolute.
      exfalso
      rw [hbase] at h
      have hcheck : (Action.check (parent.checkRepository ref) : Action Memory Unit).Fails
          fun error => ∀ shown, error ≠ .absoluteBase shown := by
        refine .check fun cycle hcycle => ?_
        rw [Loader.checkRepository] at hcycle
        split at hcycle
        · cases hcycle
          simp
        · cases hcycle
      have hnot := Action.Fails.bind (Loader.report_fails _ _)
        (fun _ => hcheck.bind fun _ => remoteChild_ne_absoluteBase ref) m error m' h
      unfold Overlay.mayBeFile at hfile
      split at hfile
      · rw [hbase] at hfile
        cases hfile
      · exact hnot _ rfl
      · cases hfile

end OverlayChain.Memory
