import OverlayChain.Clone.Git
import OverlayChain.Proofs.Clone.Contract
import OverlayChain.Proofs.Text.Search

/-!
# The commands of a clone

A git is recorded by keeping, beside its state, the commands that it was asked to run and how they
ended. Recording changes no answer and no state. A clone runs its commands one after the other in
one fresh directory, up to the first that fails, and how a command failed decides the error.

## Main definitions

- `Git.Call`: a command that was run.
- `Git.Call.FailsWith`: the ways in which a command fails, each with its error.
- `Git.recorded`: the git that keeps its calls.
- `FileSystem.directoryOf`: what a path has to be located as to be a directory.
- `Git.Attempts`: the calls of an attempt to run some commands.
- `Git.Notes`: a git that notes its calls beside the state.
- `Git.calls`: the calls of a clone.

## Main statements

- `Git.failure?_eq_some_iff`: the errors of the commands are those of the ways to fail.
- `Git.runSteps_recorded`: a run of commands is an attempt.
- `Git.obtain_recorded`: what is recorded of a clone.
- `Cloner.git_onlyRecords`, `Cloner.git_locates`: what git promises as a cloner.
-/

namespace OverlayChain

variable {σ : Type}

/-- A command that was run in a directory, and how it ended. -/
structure Git.Call where
  dir : Path
  args : List String
  outcome : Git.Outcome

/-- The same git, with its calls kept beside the state. -/
def Git.recorded (git : Git σ) : Git (σ × List Git.Call) where
  freshDirectory opening s :=
    ((git.freshDirectory opening s.1).1, (git.freshDirectory opening s.1).2, s.2)
  run dir args s := ((git.run dir args s.1).1, (git.run dir args s.1).2,
    s.2 ++ [⟨dir, args, (git.run dir args s.1).1⟩])
  log record s := (git.log record s.1, s.2)

/-- The same file system, beside which something is kept. -/
def FileSystem.beside (fs : FileSystem σ) (ε : Type) : FileSystem (σ × ε) where
  locate path s := ((fs.locate path s.1).1, (fs.locate path s.1).2, s.2)
  read path s := ((fs.read path s.1).1, (fs.read path s.1).2, s.2)
  remove path s := ((fs.remove path s.1).1, (fs.remove path s.1).2, s.2)

/-- The directory that a path was located as; a file is refused. -/
def FileSystem.directoryOf (path : Path) : Except Error Located → Except Error Directory
  | .error error => .error error
  | .ok ⟨dir, none⟩ => .ok dir
  | .ok ⟨_, some file⟩ => .error (.notADirectory path.text file)

/-- Locating a directory is locating its path and looking at the answer. -/
theorem FileSystem.locateDirectory_apply (fs : FileSystem σ) (path : Path) (s : σ) :
    fs.locateDirectory path s =
      (directoryOf path (fs.locate path s).1, (fs.locate path s).2) := by
  rw [locateDirectory, Action.bind_apply]
  rcases fs.locate path s with ⟨error | ⟨dir, file⟩, t⟩
  · rfl
  · cases file <;> rfl

theorem FileSystem.locateDirectory_beside (fs : FileSystem σ) {ε : Type} (path : Path) (s : σ)
    (kept : ε) : (fs.beside ε).locateDirectory path (s, kept) =
      ((fs.locateDirectory path s).1, (fs.locateDirectory path s).2, kept) := by
  rw [locateDirectory_apply, locateDirectory_apply]
  rfl

namespace Git

/-- The command ran and reported success. -/
def Outcome.Succeeds (outcome : Outcome) : Prop := ∃ stderr, outcome = .exited true stderr

/-- A call in the directory that succeeded. -/
def Call.SucceedsIn (call : Call) (dir : Path) : Prop := call.dir = dir ∧ call.outcome.Succeeds

/-- A report that says that access was denied. -/
def Denies (report : String) : Prop :=
  "Authentication failed".toList <:+: report.toList ∨ "Permission denied".toList <:+: report.toList ∨
    "Could not read from remote repository".toList <:+: report.toList

/-- The ways in which a command of a clone fails, each with its error. -/
inductive Call.FailsWith (ref : RemoteRef) (call : Call) : Error → Prop
  /-- Git could not be started. -/
  | notStarted (reason : OsError) (h : call.outcome = .notStarted reason) :
      FailsWith ref call (.cloneFailed ref.cloneUrl (ref.ref.getD "HEAD") reason.message
        (some "Make sure git is installed and on PATH"))
  /-- Git reports that access was denied. -/
  | denied (stderr : ByteArray) (h : call.outcome = .exited false stderr)
      (hdenied : Denies (Text.decodeLossy stderr)) :
      FailsWith ref call (.cloneFailed ref.cloneUrl (ref.ref.getD "HEAD") (Text.decodeLossy stderr)
        (some ("For private repos, ensure an SSH key is loaded in ssh-agent, git credentials " ++
          "are configured, or a personal access token is set up")))
  /-- Git reports anything else. -/
  | refused (stderr : ByteArray) (h : call.outcome = .exited false stderr)
      (hother : ¬ Denies (Text.decodeLossy stderr)) :
      FailsWith ref call (.gitFailed (String.intercalate " " call.args) ref.cloneUrl
        (Text.decodeLossy stderr))

/-- A command has an error unless it succeeded. -/
theorem failure?_eq_none_iff {ref : RemoteRef} {command : String} {outcome : Outcome} :
    failure? ref command outcome = none ↔ outcome.Succeeds := by
  cases outcome with
  | notStarted reason => simp [failure?, Outcome.Succeeds]
  | exited success stderr =>
    cases success with
    | true => simp [failure?, Outcome.Succeeds]
    | false =>
      have hno : ¬ (Outcome.exited false stderr).Succeeds := by
        rintro ⟨_, h⟩
        cases h
      refine iff_of_false ?_ hno
      rw [failure?]
      split <;> simp

theorem denies_iff {report : String} :
    (denials.any fun denial => Text.occurs denial.toList report.toList) = true ↔ Denies report := by
  simp only [denials, Denies, List.any_cons, List.any_nil, Bool.or_false, Bool.or_eq_true,
    Text.occurs_iff]

/-- A command has the error of the way in which it failed. -/
theorem failure?_eq_some_iff {ref : RemoteRef} {call : Call} {error : Error} :
    failure? ref (String.intercalate " " call.args) call.outcome = some error ↔
      call.FailsWith ref error := by
  obtain ⟨dir, args, outcome⟩ := call
  constructor
  · intro h
    cases outcome with
    | notStarted reason =>
      cases h
      exact .notStarted reason rfl
    | exited success stderr =>
      cases success with
      | true => cases h
      | false =>
        rw [failure?] at h
        dsimp only at h
        split at h
        · next hdenied =>
          cases h
          exact .denied stderr rfl (denies_iff.1 hdenied)
        · next hother =>
          cases h
          exact .refused stderr rfl (mt denies_iff.2 hother)
  · intro h
    cases h with
    | notStarted reason h =>
      cases h
      rfl
    | denied stderr h hdenied =>
      cases h
      rw [failure?]
      dsimp only
      rw [if_pos (denies_iff.2 hdenied)]
      rfl
    | refused stderr h hother =>
      cases h
      rw [failure?]
      dsimp only
      rw [if_neg (mt denies_iff.1 hother)]

/-- The calls of an attempt to run some commands in a directory, and how the attempt ends: with the
first command that fails, or when all of them have been run. -/
inductive Attempts (ref : RemoteRef) (dir : Path) :
    List (List String) → Except Error Unit → List Call → Prop
  | done : Attempts ref dir [] (.ok ()) []
  | failed {call : Call} {commands : List (List String)} {error : Error} (hdir : call.dir = dir)
      (h : call.FailsWith ref error) :
      Attempts ref dir (call.args :: commands) (.error error) [call]
  | went {call : Call} {commands : List (List String)} {result : Except Error Unit}
      {calls : List Call} (h : call.SucceedsIn dir) (hrest : Attempts ref dir commands result calls) :
      Attempts ref dir (call.args :: commands) result (call :: calls)

theorem Attempts.args_prefix {ref : RemoteRef} {dir : Path} {commands : List (List String)}
    {result : Except Error Unit} {calls : List Call} (h : Attempts ref dir commands result calls) :
    calls.map Call.args <+: commands := by
  induction h with
  | done => exact List.prefix_rfl
  | failed => exact (List.prefix_cons_inj _).2 (List.nil_prefix)
  | went _ _ ih => exact (List.prefix_cons_inj _).2 ih

/-- The state in which a command is run: the command is noted first. -/
def announced (git : Git σ) (dir : Path) (args : List String) (s : σ) : σ :=
  let command := String.intercalate " " args
  git.log ⟨.debug, .git, s!"git {command} (in {dir})"⟩ s

/-- A step ends as its command does. -/
theorem runStep_apply (git : Git σ) (ref : RemoteRef) (dir : Path) (args : List String) (s : σ) :
    git.runStep ref dir args s =
      match failure? ref (String.intercalate " " args) (git.run dir args (git.announced dir args s)).1
      with
      | none => (.ok (), (git.run dir args (git.announced dir args s)).2)
      | some error => (.error error, (git.run dir args (git.announced dir args s)).2) := by
  rw [runStep]
  dsimp only
  rw [Action.bind_of_ok (Action.update_apply _ s)]
  have hrun : ∀ u : σ, Action.transition
      (fun s => ((.ok (git.run dir args s).1, (git.run dir args s).2) : Except Error Outcome × σ)) u =
      (.ok (git.run dir args u).1, (git.run dir args u).2) := fun _ => rfl
  rw [Action.bind_of_ok (hrun _)]
  change (match failure? ref _ (git.run dir args (git.announced dir args s)).1 with
    | none => pure ()
    | some error => throw error : Action σ Unit) _ = _
  cases failure? ref (String.intercalate " " args)
    (git.run dir args (git.announced dir args s)).1 <;> rfl

/-- A git that answers as another one does, and notes beside the state each command that it runs. -/
structure Notes {ε : Type} (noting : Git (σ × List ε)) (git : Git σ) (note : Call → ε) : Prop where
  run : ∀ dir args s noted, noting.run dir args (s, noted) =
    ((git.run dir args s).1, (git.run dir args s).2,
      noted ++ [note ⟨dir, args, (git.run dir args s).1⟩])
  log : ∀ record s noted, noting.log record (s, noted) = (git.log record s, noted)

/-- A run of commands is an attempt, and noting it changes nothing. -/
theorem Notes.runSteps {ε : Type} {noting : Git (σ × List ε)} {git : Git σ} {note : Call → ε}
    (h : noting.Notes git note) (ref : RemoteRef) (dir : Path) (commands : List (List String))
    (s : σ) (noted : List ε) :
    ∃ calls, noting.runSteps ref dir commands (s, noted) =
        ((git.runSteps ref dir commands s).1, (git.runSteps ref dir commands s).2,
          noted ++ calls.map note) ∧
      Attempts ref dir commands (git.runSteps ref dir commands s).1 calls := by
  induction commands generalizing s noted with
  | nil => exact ⟨[], by rw [List.map_nil, List.append_nil]; rfl, .done⟩
  | cons args commands ih =>
    have hstep := runStep_apply git ref dir args s
    have hstep' := runStep_apply noting ref dir args (s, noted)
    have hsame : noting.announced dir args (s, noted) = (git.announced dir args s, noted) :=
      h.log _ s noted
    rw [hsame, h.run] at hstep'
    rw [Git.runSteps, Git.runSteps, Action.bind_apply, Action.bind_apply, hstep, hstep']
    rcases git.run dir args (git.announced dir args s) with ⟨outcome, t⟩
    dsimp only
    cases hfailure : failure? ref (String.intercalate " " args) outcome with
    | some error =>
      have hfails : (Call.mk dir args outcome).FailsWith ref error := failure?_eq_some_iff.1 hfailure
      exact ⟨[⟨dir, args, outcome⟩], rfl, .failed rfl hfails⟩
    | none =>
      obtain ⟨calls, hcalls, hattempts⟩ := ih t (noted ++ [note ⟨dir, args, outcome⟩])
      have hsucceeds : (Call.mk dir args outcome).SucceedsIn dir :=
        ⟨rfl, failure?_eq_none_iff.1 hfailure⟩
      refine ⟨⟨dir, args, outcome⟩ :: calls, ?_, .went hsucceeds hattempts⟩
      dsimp only
      rw [hcalls, List.append_assoc]
      rfl

theorem recorded_notes (git : Git σ) : git.recorded.Notes git id :=
  ⟨fun _ _ _ _ => rfl, fun _ _ _ => rfl⟩

/-- A run of commands is an attempt, and recording it changes nothing. -/
theorem runSteps_recorded (git : Git σ) (ref : RemoteRef) (dir : Path)
    (commands : List (List String)) (s : σ) (past : List Call) :
    ∃ calls, git.recorded.runSteps ref dir commands (s, past) =
        ((git.runSteps ref dir commands s).1, (git.runSteps ref dir commands s).2, past ++ calls) ∧
      Attempts ref dir commands (git.runSteps ref dir commands s).1 calls := by
  obtain ⟨calls, hrun, hattempts⟩ := git.recorded_notes.runSteps ref dir commands s past
  rw [List.map_id] at hrun
  exact ⟨calls, hrun, hattempts⟩

/-- What a clone does in its fresh directory: it runs the commands, and looks for the directory. -/
def fetched (git : Git σ) (fs : FileSystem σ) (ref : RemoteRef) (dir : Path) : Action σ Directory := do
  git.runSteps ref dir (steps ref)
  fs.locateDirectory dir

/-- How a clone ends after it has fetched. A directory to which nothing could be fetched is removed;
a removal that fails is noted. -/
def settle (git : Git σ) (fs : FileSystem σ) (dir : Path) :
    Except Error Directory × σ → Except Error Directory × σ
  | (.ok confirmed, s) => (.ok confirmed, s)
  | (.error error, s) =>
    match fs.remove dir s with
    | (.ok _, t) => (.error error, t)
    | (.error removal, t) =>
      (.error error,
        git.log ⟨.warn, .git, s!"failed to remove {dir}: {removal.message}"⟩ t)

/-- What the name of the directory of a clone begins with. -/
def opening (ref : RemoteRef) : String := directoryOpening ++ fileNameOf ref.repository ++ "-"

/-- A clone makes a fresh directory, fetches into it, and settles how that ended. -/
theorem obtain_apply (git : Git σ) (fs : FileSystem σ) (ref : RemoteRef) (s : σ) :
    git.obtain fs ref s =
      match git.freshDirectory (opening ref) s with
      | (.error error, t) => (.error error, t)
      | (.ok dir, t) => git.settle fs dir (git.fetched fs ref dir
          (git.log ⟨.debug, .git, s!"cloning '{ref.cloneUrl}' into {dir}"⟩ t)) := by
  rw [Git.obtain, ← opening, Action.bind_apply]
  rcases git.freshDirectory (opening ref) s with ⟨error | dir, t⟩
  · rfl
  · dsimp only
    rw [Action.bind_of_ok (Action.update_apply _ t), Action.bind_of_ok (Action.attempt_apply _ _)]
    change _ = git.settle fs dir (git.fetched fs ref dir _)
    rw [fetched]
    rcases (git.runSteps ref dir (steps ref) >>= fun _ => fs.locateDirectory dir)
      (git.log ⟨.debug, .git, s!"cloning '{ref.cloneUrl}' into {dir}"⟩ t) with ⟨error | confirmed, u⟩
    · dsimp only [settle]
      rw [Action.bind_of_ok (Action.attempt_apply _ u)]
      rcases fs.remove dir u with ⟨removal | done, v⟩ <;> rfl
    · rfl

/-- A clone that is settled well was so before. -/
theorem settle_eq_ok_iff (git : Git σ) {fs : FileSystem σ} {dir : Path} {confirmed : Directory}
    {outcome : Except Error Directory × σ} {t : σ} :
    git.settle fs dir outcome = (.ok confirmed, t) ↔ outcome = (.ok confirmed, t) := by
  obtain ⟨error | found, s⟩ := outcome
  · rw [settle]
    rcases fs.remove dir s with ⟨removal | done, u⟩
    · exact iff_of_false nofun nofun
    · exact iff_of_false nofun nofun
  · exact Iff.rfl

theorem fetched_recorded (git : Git σ) (fs : FileSystem σ) (ref : RemoteRef) (dir : Path) (s : σ)
    (past : List Call) :
    ∃ calls, git.recorded.fetched (fs.beside _) ref dir (s, past) =
        ((git.fetched fs ref dir s).1, (git.fetched fs ref dir s).2, past ++ calls) ∧
      ∃ result, Attempts ref dir (steps ref) result calls := by
  obtain ⟨calls, hrun, hattempts⟩ := git.runSteps_recorded ref dir (steps ref) s past
  refine ⟨calls, ?_, _, hattempts⟩
  rw [fetched, fetched, Action.bind_apply, Action.bind_apply, hrun]
  rcases git.runSteps ref dir (steps ref) s with ⟨error | _, t⟩
  · rfl
  · exact fs.locateDirectory_beside dir t _

theorem settle_recorded (git : Git σ) (fs : FileSystem σ) (dir : Path)
    (result : Except Error Directory) (s : σ) (past : List Call) :
    git.recorded.settle (fs.beside _) dir (result, s, past) =
      ((git.settle fs dir (result, s)).1, (git.settle fs dir (result, s)).2, past) := by
  cases result with
  | ok confirmed => rfl
  | error error =>
    have hremove : (fs.beside (List Call)).remove dir (s, past) =
        ((fs.remove dir s).1, (fs.remove dir s).2, past) := rfl
    rw [settle, settle, hremove]
    rcases fs.remove dir s with ⟨removal | done, t⟩ <;> rfl

/-- A clone does the same when it is recorded. Its calls are those of one attempt to run the
commands, if it comes to make a fresh directory. -/
theorem obtain_recorded (git : Git σ) (fs : FileSystem σ) (ref : RemoteRef) (s : σ)
    (past : List Call) :
    ∃ calls, git.recorded.obtain (fs.beside _) ref (s, past) =
        ((git.obtain fs ref s).1, (git.obtain fs ref s).2, past ++ calls) ∧
      (calls = [] ∨ ∃ dir result, Attempts ref dir (steps ref) result calls) := by
  rw [obtain_apply, obtain_apply]
  have hfresh : git.recorded.freshDirectory (opening ref) (s, past) =
      ((git.freshDirectory (opening ref) s).1, (git.freshDirectory (opening ref) s).2, past) := rfl
  rw [hfresh]
  rcases git.freshDirectory (opening ref) s with ⟨error | dir, t⟩
  · exact ⟨[], by rw [List.append_nil], .inl rfl⟩
  · obtain ⟨calls, hrun, hattempts⟩ := git.fetched_recorded fs ref dir
      (git.log ⟨.debug, .git, s!"cloning '{ref.cloneUrl}' into {dir}"⟩ t) past
    refine ⟨calls, ?_, .inr ⟨dir, hattempts⟩⟩
    have hlog : git.recorded.log ⟨.debug, .git, s!"cloning '{ref.cloneUrl}' into {dir}"⟩ (t, past) =
        (git.log ⟨.debug, .git, s!"cloning '{ref.cloneUrl}' into {dir}"⟩ t, past) := rfl
    dsimp only
    rw [hlog, hrun]
    exact settle_recorded git fs dir _ _ _

end Git

/-- Git meets the contract of cloners. -/
theorem Cloner.git_onlyRecords (runner : Git σ) (fs : FileSystem σ) :
    (git runner).OnlyRecords fs := recording_onlyRecords fs

/-- A clone that git fetched lies in the directory that was made for it. -/
theorem Cloner.git_locates (runner : Git σ) (fs : FileSystem σ) : (git runner).Locates fs := by
  intro ref s left t h found hfound
  obtain ⟨dir, hobtain, rfl⟩ := take_recording_eq_ok_iff.1 h
  cases hfound
  rw [Git.obtain_apply] at hobtain
  rcases hmade : runner.freshDirectory (Git.opening ref) s with ⟨error | path, u⟩
  · rw [hmade] at hobtain
    cases hobtain
  · rw [hmade] at hobtain
    have hfetched := runner.settle_eq_ok_iff.1 hobtain
    obtain ⟨_, v, -, hlocate⟩ := Action.bind_eq_ok_iff.1 hfetched
    exact ⟨path, v, none, t, FileSystem.locateDirectory_eq_ok_iff.1 hlocate⟩

namespace Git

/-- The calls of a clone. -/
def calls (git : Git σ) (fs : FileSystem σ) (ref : RemoteRef) (s : σ) : List Call :=
  ((Cloner.git git.recorded).take (fs.beside _) ref (s, [])).2.2

/-- A clone runs the commands that fetch its reference, or the first ones of them. -/
theorem args_calls_prefix (git : Git σ) (fs : FileSystem σ) (ref : RemoteRef) (s : σ) :
    (git.calls fs ref s).map Call.args <+: steps ref := by
  obtain ⟨calls, hobtain, hcalls⟩ := git.obtain_recorded fs ref s []
  have hrun : git.calls fs ref s = (git.recorded.obtain (fs.beside _) ref (s, [])).2.2 := by
    rw [Git.calls, Cloner.git, Cloner.recording_snd]
  rw [hrun, hobtain, List.nil_append]
  rcases hcalls with rfl | ⟨dir, result, hattempts⟩
  · exact List.nil_prefix
  · exact hattempts.args_prefix

end Git

end OverlayChain
