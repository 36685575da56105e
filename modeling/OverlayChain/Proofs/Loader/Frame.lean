import OverlayChain.Overlay.Resolve
import OverlayChain.Proofs.Loader.Chain

/-!
# What loaders leave alone

A property of the state that no request loses is not lost by what loaders do with requests. A local
child needs only requests that look.

## Main definitions

- `Env.Looks`, `Env.Keeps`: a property that requests do not lose.

## Main statements

- `Loader.origin_keeps`, `Loader.localChild_keeps`, `Loader.child_keeps`, `Loader.load_keeps`,
  `Loader.cleanup_keeps`, `Overlay.readFile_keeps`: what loaders do does not lose it either.
- `Loader.remoteChild_fails`: why making a child for a reference fails.
-/

namespace OverlayChain

variable {σ : Type} {env : Env σ} {I : σ → Prop} {P : Error → Prop}

/-- The property is not lost by looking at files, nor by taking note of it. -/
structure Env.Looks (env : Env σ) (I : σ → Prop) : Prop where
  locate : ∀ path, (env.fs.locate path).Keeps I
  read : ∀ path, (env.fs.read path).Keeps I
  log : ∀ record s, I s → I (env.log record s)

/-- The property is not lost by any request. -/
structure Env.Keeps (env : Env σ) (I : σ → Prop) : Prop extends env.Looks I where
  remove : ∀ path, (env.fs.remove path).Keeps I
  clone : ∀ ref, (env.cloner.take env.fs ref).Keeps I

namespace FileSystem

variable {fs : FileSystem σ}

theorem locateDirectory_keeps (h : ∀ path, (fs.locate path).Keeps I) (path : Path) :
    (fs.locateDirectory path).Keeps I := by
  refine Action.Keeps.bind (h path) fun found => ?_
  split
  · exact .pure _
  · exact .throw _

theorem admitRoot_keeps (h : ∀ path, (fs.locate path).Keeps I) (path : Path) :
    (fs.admitRoot path).Keeps I := by
  rw [admitRoot]
  split
  · exact .throw _
  · exact locateDirectory_keeps h path

theorem locateDirectory_fails (h : ∀ path, (fs.locate path).Fails P)
    (hfile : ∀ path file, P (.notADirectory path file)) (path : Path) :
    (fs.locateDirectory path).Fails P := by
  refine Action.Fails.bind (h path) fun found => ?_
  split
  · exact .pure _
  · exact .throw (hfile _ _)

theorem admitRoot_fails (h : ∀ path, (fs.locate path).Fails P)
    (hfile : ∀ path file, P (.notADirectory path file)) (hempty : ∀ what, P (.emptyPath what))
    (path : Path) : (fs.admitRoot path).Fails P := by
  rw [admitRoot]
  split
  · exact .throw (hempty _)
  · exact locateDirectory_fails h hfile path

end FileSystem

namespace Cloner

variable {fs : FileSystem σ} {request : FileSystem σ → RemoteRef → Action σ Directory}
  {dirOf : RemoteRef → Option Path}

theorem recording_keeps {ref : RemoteRef} (h : (request fs ref).Keeps I) :
    ((recording request).take fs ref).Keeps I := by
  rw [take_recording]
  exact h.bind fun _ => .pure _

theorem recording_fails {ref : RemoteRef} (h : (request fs ref).Fails P) :
    ((recording request).take fs ref).Fails P := by
  rw [take_recording]
  exact h.bind fun _ => .pure _

/-- To point a reference at a directory is to look at files. -/
theorem pointing_keeps (h : ∀ path, (fs.locate path).Keeps I) (ref : RemoteRef) :
    ((pointing dirOf).take fs ref).Keeps I := by
  refine recording_keeps ?_
  split
  · exact FileSystem.locateDirectory_keeps h _
  · exact .throw _

theorem pointing_fails (h : ∀ path, (fs.locate path).Fails P)
    (hfile : ∀ path file, P (.notADirectory path file))
    (hunknown : ∀ url ref message hint, P (.cloneFailed url ref message hint)) (ref : RemoteRef) :
    ((pointing dirOf).take fs ref).Fails P := by
  refine recording_fails ?_
  split
  · exact FileSystem.locateDirectory_fails h hfile _
  · exact .throw (hunknown _ _ _ _)

end Cloner

theorem ReadPolicy.permit_keeps (henv : env.Looks I) (policy : ReadPolicy) (root : Directory)
    (path : Path) : (policy.permit env.fs root path).Keeps I := by
  cases policy with
  | unrestricted => exact .pure _
  | confined =>
    refine Action.Keeps.bind (henv.locate path) fun found => ?_
    split
    · exact .throw _
    · split
      · exact .pure _
      · exact .throw _

namespace Loader

variable {loader : Loader}

theorem report_keeps (henv : env.Looks I) (level : Log.Level) (message : String) :
    (report env level message).Keeps I :=
  .update fun s hs => henv.log _ s hs

theorem report_fails (level : Log.Level) (message : String) :
    (report env level message).Fails P := by
  intro s e t h
  cases h

theorem localChild_keeps (henv : env.Looks I) (base : String) :
    (loader.localChild env base).Keeps I := by
  rw [localChild]
  refine Action.Keeps.bind (report_keeps henv _ _) fun _ => ?_
  split
  · exact .throw_bind _ _
  · refine Action.Keeps.bind (FileSystem.admitRoot_keeps henv.locate _) fun root => ?_
    refine Action.Keeps.bind (.check _) fun _ => ?_
    refine Action.Keeps.bind (.check _) fun _ => ?_
    exact Action.Keeps.bind (report_keeps henv _ _) fun _ => .pure _

theorem rootInClone_keeps (henv : env.Looks I) (ref : RemoteRef) (clone : Option Directory) :
    (rootInClone env ref clone).Keeps I := by
  refine Action.Keeps.bind (.check _) fun path => ?_
  refine Action.Keeps.bind (FileSystem.admitRoot_keeps henv.locate path) fun root => ?_
  exact Action.Keeps.bind (.check _) fun _ => .pure _

theorem release_keeps (henv : env.Keeps I) (clone : Option Directory) :
    (release env clone).Keeps I := by
  cases clone with
  | none => exact .pure _
  | some dir => exact henv.remove dir.path

theorem cleanup_keeps (henv : env.Keeps I) (loader : Loader) : (loader.cleanup env).Keeps I :=
  release_keeps henv loader.lease

theorem remoteChild_keeps (henv : env.Keeps I) (ref : RemoteRef) :
    (loader.remoteChild env ref).Keeps I := by
  refine Action.Keeps.bind (report_keeps henv.toLooks _ _) fun _ => ?_
  refine Action.Keeps.bind (henv.clone ref) fun left => ?_
  refine Action.Keeps.bind (.attempt (rootInClone_keeps henv.toLooks left.ref left.dir))
    fun rooted => ?_
  cases rooted with
  | ok root => exact Action.Keeps.bind (report_keeps henv.toLooks _ _) fun _ => .pure _
  | error error =>
    refine Action.Keeps.bind (.attempt (release_keeps henv left.dir)) fun removed => ?_
    cases removed with
    | ok _ => exact .throw _
    | error removal => exact Action.Keeps.bind (report_keeps henv.toLooks _ _) fun _ => .throw _

theorem child_keeps (henv : env.Keeps I) (base : String) : (loader.child env base).Keeps I := by
  rw [Loader.child]
  split
  · exact .throw _
  · split
    · refine Action.Keeps.bind (report_keeps henv.toLooks _ _) fun _ => ?_
      exact Action.Keeps.bind (.check _) fun _ => remoteChild_keeps henv _
    · exact localChild_keeps henv.toLooks base

theorem load_keeps (henv : env.Looks I) (path : Path) : (loader.load env path).Keeps I :=
  Action.Keeps.bind (ReadPolicy.permit_keeps henv _ _ _) fun admitted => henv.read admitted

theorem origin_keeps (henv : env.Looks I) (validator : Validator) (policy : ReadPolicy)
    (path : Path) : (origin env validator policy path).Keeps I :=
  Action.Keeps.bind (FileSystem.admitRoot_keeps henv.locate path) fun _ => .pure _

theorem eq_of_checkWithin_error {clone : Option Directory} {root : Directory} {e : Error}
    (h : checkWithin clone root = .error e) : ∃ top, e = .outsideClone root.path top := by
  cases clone with
  | none => cases h
  | some dir =>
    rw [checkWithin] at h
    split at h
    · cases h
    · cases h
      exact ⟨_, rfl⟩

theorem eq_of_checkDirectory_error {candidate : Directory} {e : Error}
    (h : loader.checkDirectory candidate = .error e) :
    ∃ visited, e = .directoryCycle candidate.path visited := by
  rw [checkDirectory] at h
  split at h
  · cases h
    exact ⟨_, rfl⟩
  · cases h

/-- The root of a reference is refused where the file system fails, and where it is not found in
the clone. -/
theorem rootInClone_fails (h : ∀ path, (env.fs.locate path).Fails P)
    (hfile : ∀ path file, P (.notADirectory path file)) (hempty : ∀ what, P (.emptyPath what))
    (hcloned : ∀ raw, P (.notCloned raw)) (houtside : ∀ root top, P (.outsideClone root top))
    (ref : RemoteRef) (clone : Option Directory) : (rootInClone env ref clone).Fails P := by
  refine Action.Fails.bind (.check fun e he => ?_) fun path => ?_
  · cases clone with
    | none =>
      cases he
      exact hcloned _
    | some dir => cases he
  · refine Action.Fails.bind (FileSystem.admitRoot_fails h hfile hempty path) fun root => ?_
    refine Action.Fails.bind (.check fun e he => ?_) fun _ => .pure _
    obtain ⟨top, rfl⟩ := eq_of_checkWithin_error he
    exact houtside _ _

/-- Making a child for a reference fails as the cloner fails, or as its root is refused. What
happens to the clone then does not change the answer. -/
theorem remoteChild_fails {ref : RemoteRef} (hclone : (env.cloner.take env.fs ref).Fails P)
    (hroot : ∀ left clone, (rootInClone env left clone).Fails P) :
    (loader.remoteChild env ref).Fails P := by
  refine Action.Fails.bind (report_fails _ _) fun _ => ?_
  refine Action.Fails.bind hclone fun left => ?_
  intro s e t h
  rw [Action.bind_of_ok (Action.attempt_apply _ s)] at h
  rcases hrooted : rootInClone env left.ref left.dir s with ⟨error | root, u⟩
  · rw [hrooted] at h
    dsimp only at h
    rw [Action.bind_of_ok (Action.attempt_apply _ u)] at h
    have herror := hroot left.ref left.dir s error u hrooted
    rcases hremoved : release env left.dir u with ⟨removal | done, v⟩
    · rw [hremoved] at h
      dsimp only at h
      rw [Action.bind_of_ok (report_apply _ _ v)] at h
      cases h
      exact herror
    · rw [hremoved] at h
      cases h
      exact herror
  · rw [hrooted] at h
    dsimp only at h
    rw [Action.bind_of_ok (report_apply _ _ u)] at h
    cases h

end Loader

namespace Overlay

theorem readFirst_keeps (henv : env.Looks I) (loader : Loader) (names : List String) :
    (readFirst env loader names).Keeps I := by
  induction names with
  | nil => exact .throw _
  | cons name names ih =>
    refine Action.Keeps.bind (.attempt (Loader.load_keeps henv _)) fun outcome => ?_
    split
    · exact .check _
    · split
      · exact ih
      · exact .throw _
    · exact .throw _

theorem readFile_keeps (henv : env.Looks I) (loader : Loader) : (readFile env loader).Keeps I :=
  readFirst_keeps henv loader fileNames

end Overlay

end OverlayChain
