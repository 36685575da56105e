import OverlayChain.Memory.Bound
import OverlayChain.Proofs.Memory.Children
import OverlayChain.Proofs.Memory.Copies
import OverlayChain.Session.Basic

/-!
# Sessions over a disk and over its copy in memory

A session over files in memory stands in for one over a disk that holds the same and has no links.
As long as all loaders are confined and nothing is fetched, both give the same answers and the same
failures. Only why the system refused to read a file may be told differently.

## Main definitions

- `Action.EndsAlike`: two results that are the same up to why the system refused.
- `Action.Parallel`: two actions that end alike.
- `Env.Shows`: an environment whose files are seen by a view.
- `Twins`: an environment over a disk, and one over its copy in memory.
- `Session.Request.IsLocal`: a request for confined loaders, without a clone.
- `Session.Alike`: two requests that end with the same reply or for the same reason.
- `Session.replies`: how the requests of a list end.

## Main statements

- `Twins.child`, `Twins.load`: what loaders do over both.
- `Session.Paired.serve`: one request is answered alike.
- `Session.replies_alike`: a list of requests is answered alike.
-/

namespace OverlayChain

variable {σ τ α β : Type}

namespace Action

/-- Two results are the same answer, which has the property, or the same failure. If the system
refused, it may have done so for different causes. -/
inductive EndsAlike (P : α → Prop) : Except Error α → Except Error α → Prop
  | ok {a : α} (h : P a) : EndsAlike P (.ok a) (.ok a)
  | error (e : Error) : EndsAlike P (.error e) (.error e)
  | io (cause cause' : IoError) : EndsAlike P (.error (.io cause)) (.error (.io cause'))

/-- From states of two kinds both actions end alike, and lead to states of these kinds again. -/
def Parallel (I : σ → Prop) (J : τ → Prop) (P : α → Prop) (x : Action σ α) (y : Action τ α) : Prop :=
  ∀ s t, I s → J t → EndsAlike P (x s).1 (y t).1 ∧ I (x s).2 ∧ J (y t).2

variable {I : σ → Prop} {J : τ → Prop} {P : α → Prop} {Q : β → Prop}

theorem Parallel.pure {a : α} (h : P a) : Parallel I J P (pure a) (pure a) :=
  fun _ _ hs ht => ⟨.ok h, hs, ht⟩

theorem Parallel.throw (e : Error) :
    Parallel I J P (MonadExcept.throw e : Action σ α) (MonadExcept.throw e) :=
  fun _ _ hs ht => ⟨.error e, hs, ht⟩

theorem Parallel.check {outcome : Except Error α} (h : ∀ a, outcome = .ok a → P a) :
    Parallel I J P (check outcome) (check outcome) := by
  intro s t hs ht
  refine ⟨?_, hs, ht⟩
  rw [check_apply, check_apply]
  cases outcome with
  | error e => exact .error e
  | ok a => exact .ok (h a rfl)

theorem Parallel.ends {x : Action σ α} {y : Action τ α} (h : Parallel I J P x y) {s s' : σ}
    {t t' : τ} {result result' : Except Error α} (hs : I s) (ht : J t) (hx : x s = (result, s'))
    (hy : y t = (result', t')) : EndsAlike P result result' ∧ I s' ∧ J t' := by
  have hends := h s t hs ht
  rwa [hx, hy] at hends

/-- What comes after parallel actions is only asked for after the same answer. -/
theorem Parallel.bind {x : Action σ α} {y : Action τ α} {f : α → Action σ β} {g : α → Action τ β}
    (h : Parallel I J P x y) (hnext : ∀ a, P a → Parallel I J Q (f a) (g a)) :
    Parallel I J Q (x >>= f) (y >>= g) := by
  intro s t hs ht
  rw [bind_apply, bind_apply]
  rcases hx : x s with ⟨result, s'⟩
  rcases hy : y t with ⟨result', t'⟩
  obtain ⟨hends, hs', ht'⟩ := h.ends hs ht hx hy
  cases hends with
  | ok ha => exact hnext _ ha s' t' hs' ht'
  | error e => exact ⟨.error e, hs', ht'⟩
  | io cause cause' => exact ⟨.io cause cause', hs', ht'⟩

end Action

/-- An environment answers as a plainer file system does on what a view shows, and taking note of a
record does not change what is shown. -/
structure Env.Shows (env : Env σ) (model : FileSystem τ) (view : σ → τ) : Prop where
  mirrors : env.fs.Mirrors model view
  log : ∀ record s, view (env.log record s) = view s

/-- A host shows its disk. -/
theorem Host.env_shows (cloner : Cloner Host) :
    (Host.env Host.fileSystem cloner).Shows Disk.fileSystem Host.disk :=
  ⟨Host.mirrors_disk, fun _ _ => rfl⟩

theorem Memory.env_shows (cloner : Cloner Memory) :
    (Memory.env cloner).Shows Memory.fileSystem id :=
  ⟨FileSystem.mirrors_self _, fun _ _ => rfl⟩

/-- An environment over a disk without links, and one over a store that holds the same. -/
structure Twins (env : Env σ) (twin : Env τ) (view : σ → Disk) (view' : τ → Memory) (disk : Disk)
    (m : Memory) : Prop where
  shows : env.Shows Disk.fileSystem view
  shows' : twin.Shows Memory.fileSystem view'
  plain : disk.Plain
  copies : m.Copies disk

namespace Twins

open OverlayChain.Action (Parallel)

variable {env : Env σ} {twin : Env τ} {view : σ → Disk} {view' : τ → Memory} {disk : Disk}
  {m : Memory} {loader : Loader}

/-- A path is located alike, at a place or under a name in it. -/
theorem locate (h : Twins env twin view view' disk m) (path : Path) :
    Parallel (view · = disk) (view' · = m)
      (fun found => ∃ place : Location, found.dir = ⟨place.path⟩ ∧
        ∀ text ∈ found.file, ∃ name : Name, text = name.text)
      (env.fs.locate path) (twin.fs.locate path) := by
  intro s t hs ht
  obtain ⟨hanswer, hview⟩ := h.shows.mirrors.locate path s
  obtain ⟨hanswer', hview'⟩ := h.shows'.mirrors.locate path t
  rw [hs] at hanswer hview
  rw [ht] at hanswer' hview'
  have hlocate : (Disk.fileSystem.locate path disk).1 = m.locate path :=
    h.copies.locate_eq h.plain path
  refine ⟨?_, hview, hview'⟩
  rw [hanswer, hanswer', hlocate, Memory.fileSystem_locate]
  cases hfound : m.locate path with
  | error error => exact .error error
  | ok found =>
    apply Action.EndsAlike.ok
    rcases Memory.locate_eq_ok_iff.1 hfound with ⟨-, rfl⟩ | ⟨above, name, -, -, -, rfl⟩
    · exact ⟨_, rfl, by simp⟩
    · exact ⟨above, rfl, by simp⟩

/-- The path of a place is read alike, but the system may refuse it for different causes. -/
theorem read (h : Twins env twin view view' disk m) (place : Location) :
    Parallel (view · = disk) (view' · = m) (fun _ => True) (env.fs.read place.path)
      (twin.fs.read place.path) := by
  intro s t hs ht
  obtain ⟨hanswer, hview⟩ := h.shows.mirrors.read place.path s
  obtain ⟨hanswer', hview'⟩ := h.shows'.mirrors.read place.path t
  rw [hs] at hanswer hview
  rw [ht] at hanswer' hview'
  refine ⟨?_, hview, hview'⟩
  have hdisk : (Disk.fileSystem.read place.path disk).1 =
      (disk.read place.path).mapError fun why => .io (.os why) := rfl
  have hmemory : (Memory.fileSystem.read place.path m).1 = m.read place.path := rfl
  rw [hanswer, hanswer', hdisk, hmemory]
  cases hread : disk.read place.path with
  | ok content =>
    rw [(h.copies.read_eq_ok_iff h.plain).1 hread]
    exact .ok trivial
  | error why =>
    cases hread' : m.read place.path with
    | ok content =>
      rw [(h.copies.read_eq_ok_iff h.plain).2 hread'] at hread
      cases hread
    | error error =>
      rw [Memory.read] at hread'
      split at hread'
      · cases hread'
      · cases hread'
        exact .io _ _

theorem report (h : Twins env twin view view' disk m) (level : Log.Level) (message : String) :
    Parallel (view · = disk) (view' · = m) (fun _ => True) (Loader.report env level message)
      (Loader.report twin level message) :=
  fun s t hs ht => ⟨.ok trivial, (h.shows.log _ s).trans hs, (h.shows'.log _ t).trans ht⟩

theorem admitRoot (h : Twins env twin view view' disk m) (path : Path) :
    Parallel (view · = disk) (view' · = m) (fun _ => True) (env.fs.admitRoot path)
      (twin.fs.admitRoot path) := by
  rw [FileSystem.admitRoot, FileSystem.admitRoot]
  split
  · exact .throw _
  · refine (h.locate path).bind fun found _ => ?_
    split
    · exact .pure trivial
    · exact .throw _

theorem origin (h : Twins env twin view view' disk m) (validator : Validator) (policy : ReadPolicy)
    (path : Path) :
    Parallel (view · = disk) (view' · = m) (fun loader => loader.node.policy = policy)
      (Loader.origin env validator policy path) (Loader.origin twin validator policy path) :=
  (h.admitRoot path).bind fun _ _ => .pure rfl

/-- A loader has the same child for a local base, with the same policy. -/
theorem child (h : Twins env twin view view' disk m) (loader : Loader) {base : String}
    (hbase : RemoteRef.parse? base = none) :
    Parallel (view · = disk) (view' · = m)
      (fun child => child.node.policy = loader.node.policy)
      (loader.child env base) (loader.child twin base) := by
  rw [Loader.child, Loader.child, hbase]
  split
  · exact .throw _
  · refine (h.report .trace s!"'{base}' is a local base").bind fun _ _ => ?_
    split
    · -- The rest of the block stands behind the refusal.
      exact fun s t hs ht => ⟨.error _, hs, ht⟩
    · refine (h.admitRoot _).bind fun root _ => ?_
      refine (Parallel.check (P := fun _ => True) fun _ _ => trivial).bind fun _ _ => ?_
      refine (Parallel.check (P := fun _ => True) fun _ _ => trivial).bind fun _ _ => ?_
      exact (h.report _ _).bind fun _ _ => .pure rfl

/-- A confined loader is permitted the same paths of places. -/
theorem permit (h : Twins env twin view view' disk m) (root : Directory) (path : Path) :
    Parallel (view · = disk) (view' · = m) (fun admitted => ∃ place : Location, admitted = place.path)
      (ReadPolicy.confined.permit env.fs root path)
      (ReadPolicy.confined.permit twin.fs root path) := by
  refine (h.locate path).bind fun found hfound => ?_
  obtain ⟨place, hdir, hname⟩ := hfound
  split
  · exact .throw _
  · next text htext =>
    obtain ⟨name, rfl⟩ := hname text htext
    split
    · refine .pure ⟨place ++ [name.shown], ?_⟩
      rw [hdir, Directory.join_path, Location.walk_text]
    · exact .throw _

/-- A confined loader reads the same files. -/
theorem load (h : Twins env twin view view' disk m) (hpolicy : loader.node.policy = .confined)
    (path : Path) :
    Parallel (view · = disk) (view' · = m) (fun _ => True) (loader.load env path)
      (loader.load twin path) := by
  rw [Loader.load, Loader.load, hpolicy]
  refine (h.permit _ _).bind fun admitted hadmitted => ?_
  obtain ⟨place, rfl⟩ := hadmitted
  exact h.read place

end Twins

namespace Session

/-- A request for a confined loader, for its child at a local base or for one of its files. -/
def Request.IsLocal : Request → Prop
  | .openAt _ policy _ _ =>
    ReadPolicy.parse (policy.getD ReadPolicy.standard.name) ≠ .ok .unrestricted
  | .child _ base _ => RemoteRef.parse? base = none
  | .load .. => True
  | _ => False

/-- Two requests end with the same reply or for the same reason. If the system refused them, it may
have done so for different causes. -/
inductive Alike : Except Failure Reply → Except Failure Reply → Prop
  | same (outcome : Except Failure Reply) : Alike outcome outcome
  | io (cause cause' : IoError) : Alike (.error (.error (.io cause))) (.error (.error (.io cause')))

/-- How the requests of a list end, one after the other. -/
def replies (world : World σ) (session : Session σ) : List Request → List (Except Failure Reply)
  | [] => []
  | request :: requests =>
    (session.serve world request).1 :: replies world (session.serve world request).2 requests

/-- Two sessions keep the same confined loaders, one over a disk and one over a store. -/
structure Paired (view : σ → Disk) (view' : τ → Memory) (disk : Disk) (m : Memory)
    (session : Session σ) (other : Session τ) : Prop where
  state : view session.state = disk
  state' : view' other.state = m
  kept : session.kept = other.kept
  confined : ∀ entry ∈ session.kept, entry.2.node.policy = .confined

/-- Two requests end alike, and the sessions are paired after them. -/
def InStep (view : σ → Disk) (view' : τ → Memory) (disk : Disk) (m : Memory)
    (served : Except Failure Reply × Session σ) (other : Except Failure Reply × Session τ) : Prop :=
  Alike served.1 other.1 ∧ Paired view view' disk m served.2 other.2

variable {view : σ → Disk} {view' : τ → Memory} {disk : Disk} {m : Memory} {session : Session σ}
  {other : Session τ}

theorem Paired.perform (h : Paired view view' disk m session other) {P : α → Prop}
    {x : Action σ α} {y : Action τ α}
    (hxy : x.Parallel (view · = disk) (view' · = m) P y) (reply : α → Reply) :
    InStep view view' disk m (session.perform x reply) (other.perform y reply) := by
  rw [Session.perform, Session.perform]
  rcases hx : x session.state with ⟨result, s⟩
  rcases hy : y other.state with ⟨result', t⟩
  obtain ⟨hends, hstate, hstate'⟩ := hxy.ends h.state h.state' hx hy
  refine ⟨?_, hstate, hstate', h.kept, h.confined⟩
  cases hends with
  | ok _ => exact .same _
  | error e => exact .same _
  | io cause cause' => exact .io cause cause'

theorem Paired.make (h : Paired view view' disk m session other) {x : Action σ Loader}
    {y : Action τ Loader}
    (hxy : x.Parallel (view · = disk) (view' · = m) (fun loader => loader.node.policy = .confined) y)
    (name : Option String) :
    InStep view view' disk m (session.make name x) (other.make name y) := by
  rw [Session.make, Session.make]
  rcases hx : x session.state with ⟨result, s⟩
  rcases hy : y other.state with ⟨result', t⟩
  obtain ⟨hends, hstate, hstate'⟩ := hxy.ends h.state h.state' hx hy
  cases hends with
  | ok hconfined =>
    refine ⟨.same _, ?_⟩
    cases name with
    | none => exact ⟨hstate, hstate', h.kept, h.confined⟩
    | some name =>
      refine ⟨hstate, hstate', ?_, ?_⟩
      · simp only [Session.keep, h.kept]
      · refine List.forall_mem_cons.2 ⟨hconfined, fun entry hentry => ?_⟩
        exact h.confined entry (List.mem_filter.1 hentry).1
  | error e => exact ⟨.same _, hstate, hstate', h.kept, h.confined⟩
  | io cause cause' => exact ⟨.io cause cause', hstate, hstate', h.kept, h.confined⟩

/-- A name is kept for the same confined loader, or for none. -/
theorem Paired.withLoader (h : Paired view view' disk m session other) (name : String)
    {f : Loader → Except Failure Reply × Session σ} {g : Loader → Except Failure Reply × Session τ}
    (hfg : ∀ loader, loader.node.policy = .confined → InStep view view' disk m (f loader) (g loader)) :
    InStep view view' disk m (session.withLoader name f) (other.withLoader name g) := by
  rw [Session.withLoader, Session.withLoader, ← h.kept]
  cases hlookup : session.kept.lookup name with
  | none => exact ⟨.same _, h⟩
  | some loader =>
    exact hfg loader (h.confined (name, loader) (mem_of_lookup hlookup))

/-- One request is answered alike. -/
theorem Paired.serve {world : World σ} {twin : World τ}
    (h : Paired view view' disk m session other)
    (htwins : Twins world.env twin.env view view' disk m) {request : Request}
    (hlocal : request.IsLocal) :
    InStep view view' disk m (session.serve world request) (other.serve twin request) := by
  cases request with
  | openAt root policy strict name =>
    refine h.make ?_ name
    refine (Action.Parallel.check fun _ => id).bind fun chosen hchosen => ?_
    have hconfined : chosen = .confined := by
      cases chosen with
      | confined => rfl
      | unrestricted => exact absurd hchosen hlocal
    rw [hconfined]
    exact htwins.origin _ _ root
  | child on base name =>
    refine h.withLoader on fun loader hconfined => ?_
    have hchild := htwins.child loader hlocal
    rw [hconfined] at hchild
    exact h.make hchild name
  | load on path =>
    exact h.withLoader on fun loader hconfined => h.perform (htwins.load hconfined path) .content
  | _ => exact hlocal.elim

theorem Paired.replies {world : World σ} {twin : World τ}
    (h : Paired view view' disk m session other)
    (htwins : Twins world.env twin.env view view' disk m) {requests : List Request}
    (hlocal : ∀ request ∈ requests, request.IsLocal) :
    List.Forall₂ Alike (session.replies world requests) (other.replies twin requests) := by
  induction requests generalizing session other with
  | nil => exact .nil
  | cons request requests ih =>
    obtain ⟨hfirst, hrest⟩ := List.forall_mem_cons.1 hlocal
    obtain ⟨hreply, hnext⟩ := h.serve htwins hfirst
    exact .cons hreply (ih hnext hrest)

/-- Over a disk without links, whose entries are within the limits of the system, and over a store
that holds the same, all requests for confined loaders, their children at local bases and their
files are answered alike: with the same loaders, the same contents and the same failures. -/
theorem replies_alike {world : World σ} {twin : World τ}
    (hshows : world.env.Shows Disk.fileSystem view)
    (hshows' : twin.env.Shows Memory.fileSystem view') {s : σ} {t : τ} (hplain : (view s).Plain)
    (hcopies : (view' t).Copies (view s)) {requests : List Request}
    (hlocal : ∀ request ∈ requests, request.IsLocal) :
    List.Forall₂ Alike (replies world ⟨s, []⟩ requests) (replies twin ⟨t, []⟩ requests) := by
  have hpaired : Paired view view' (view s) (view' t) ⟨s, []⟩ ⟨t, []⟩ :=
    ⟨rfl, rfl, rfl, List.forall_mem_nil _⟩
  exact hpaired.replies ⟨hshows, hshows', hplain, hcopies⟩ hlocal

/-- A host whose disk holds two directories and a file. -/
def Sample.bench : Host where
  disk :=
    { entries := [(Memory.place ⟨"/app"⟩, .directory), (Memory.place ⟨"/app/base"⟩, .directory),
        (Memory.place ⟨"/app/note"⟩, .file "note".toUTF8)]
      workDir := some [] }
  temporary := ⟨"/tmp"⟩
  script := ⟨none, [], []⟩
  made := 0
  calls := []
  journal := []
  requests := []

theorem Sample.bench_plain : Sample.bench.disk.Plain where
  wellFormed := ⟨by decide +kernel, by decide +kernel⟩
  noLink := by simp [bench]
  fits := by decide +kernel
  workDir := rfl

/-- Sessions over a host. -/
def Sample.hosted : World Host :=
  ⟨Host.env Host.fileSystem (.fixed ⟨"/clone"⟩), Host.chainBound⟩

/-- Sessions over files in memory. -/
def Sample.remembered : World Memory := ⟨Memory.env (.fixed ⟨"/clone"⟩), Memory.chainBound⟩

/-- A chain of two loaders. The first one reads a file, and the second one asks for a file that is
missing and for one that it may not read. -/
def Sample.errands : List Request :=
  [.openAt ⟨"app"⟩ none false (some "app"), .child "app" "./base" (some "base"),
    .load "app" ⟨"base/../note"⟩, .load "base" ⟨"gone"⟩, .load "base" ⟨"../note"⟩]

/-- The errands are answered alike on the host and in memory. Only why the missing file could not be
read is told differently. -/
theorem Sample.errands_alike :
    List.Forall₂ Alike (replies hosted ⟨bench, []⟩ errands)
        (replies remembered ⟨Memory.copyOf bench.disk, []⟩ errands) ∧
      (replies hosted ⟨bench, []⟩ errands)[3]? = some (.error (.error (.io (.os .noEntry)))) ∧
      (replies remembered ⟨Memory.copyOf bench.disk, []⟩ errands)[3]? =
        some (.error (.error (.io (.absent ⟨"/app/base/gone"⟩)))) := by
  have hshows : hosted.env.Shows Disk.fileSystem Host.disk := Host.env_shows _
  have hshows' : remembered.env.Shows Memory.fileSystem id := Memory.env_shows _
  have hcopies : (id (Memory.copyOf bench.disk)).Copies bench.disk := Memory.copyOf_copies _
  have hstandard : ReadPolicy.parse ReadPolicy.standard.name ≠ .ok .unrestricted := by
    rw [ReadPolicy.parse_name]
    simp [ReadPolicy.standard]
  have hbase : RemoteRef.parse? "./base" = none := by rfl
  have hlocal : ∀ request ∈ errands, request.IsLocal := by
    simp [errands, Request.IsLocal, hstandard, hbase]
  exact ⟨replies_alike hshows hshows' bench_plain hcopies hlocal, by rfl, by rfl⟩

end Session

end OverlayChain
