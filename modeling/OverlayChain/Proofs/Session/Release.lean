import OverlayChain.Proofs.Memory.Requests
import OverlayChain.Proofs.Overlay.Release
import OverlayChain.Session.Basic

/-!
# Sessions give up no clone twice

A session that removes nothing on its own asks for no more removals of a directory than it made
clones of it, at any time and whatever the file system and the cloner do. What is still to be
removed is owned by the loaders that it keeps.

## Main definitions

- `Session.run`: a list of requests.
- `Session.owed`: the clones of a directory that kept loaders own.
- `Session.Pays`: removals that are paid for by clones, made or owned.
- `Session.Follows`: a recorded request does what the request does, and its removals are paid for.

## Main statements

- `Session.serve_follows`: what one request clones and removes.
- `Session.run_records`: what a list of requests clones and removes.
- `World.releases_clones`: every clone is removed once in resolution, and at most once in a session.
-/

namespace OverlayChain

variable {σ : Type}

open Loader (taken returned Leases)

/-- The number of clones of a directory. -/
def clones (path : Path) (trace : List Event) : Nat := trace.count (.cloned ⟨path⟩)

/-- The number of removals of a path. -/
def removals (path : Path) (trace : List Event) : Nat := trace.count (.removed path)

section Counting

variable {path : Path} {trace part : List Event}

@[simp] theorem clones_nil (path : Path) : clones path [] = 0 := rfl

@[simp] theorem removals_nil (path : Path) : removals path [] = 0 := rfl

@[simp] theorem clones_append (path : Path) (first second : List Event) :
    clones path (first ++ second) = clones path first + clones path second := List.count_append

@[simp] theorem removals_append (path : Path) (first second : List Event) :
    removals path (first ++ second) = removals path first + removals path second :=
  List.count_append

@[simp] theorem clones_cons_removed (path other : Path) (trace : List Event) :
    clones path (.removed other :: trace) = clones path trace :=
  List.count_cons_of_ne (by simp)

@[simp] theorem removals_cons_cloned (path : Path) (dir : Directory) (trace : List Event) :
    removals path (.cloned dir :: trace) = removals path trace :=
  List.count_cons_of_ne (by simp)

theorem clones_cons_cloned (path : Path) (dir : Directory) (trace : List Event) :
    clones path (.cloned dir :: trace) = clones path trace + if dir.path = path then 1 else 0 := by
  rw [clones, List.count_cons]
  rcases dir with ⟨other⟩
  simp [clones]

@[simp] theorem removals_taken (path : Path) (lease : Option Directory) :
    removals path (taken lease) = 0 := by
  cases lease <;> rfl

@[simp] theorem clones_returned (path : Path) (lease : Option Directory) :
    clones path (returned lease) = 0 := by
  cases lease <;> rfl

theorem removals_cons_removed (path other : Path) (trace : List Event) :
    removals path (.removed other :: trace) =
      removals path trace + if other = path then 1 else 0 := by
  rw [removals, List.count_cons]
  simp [removals]

/-- In nested pairs there are as many removals as clones. -/
theorem Bracketed.removals_eq (h : Bracketed trace) (path : Path) :
    removals path trace = clones path trace := by
  induction h with
  | nil => rfl
  | @nest dir inner rest _ _ hinner hrest =>
    simp only [removals_cons_cloned, removals_append, removals_cons_removed, clones_cons_cloned,
      clones_append, clones_cons_removed]
    omega

/-- A part of two traces is one of the first, or reaches into the second. -/
theorem prefix_append_cases {first second : List Event} (h : part <+: first ++ second) :
    part <+: first ∨ ∃ more, more <+: second ∧ part = first ++ more := by
  rcases List.prefix_or_prefix_of_prefix h (List.prefix_append first second) with hin | hout
  · exact .inl hin
  · obtain ⟨more, rfl⟩ := hout
    exact .inr ⟨more, (List.prefix_append_right_inj first).1 h, rfl⟩

/-- At no time are there more removals than clones. -/
theorem Bracketed.removals_le (h : Bracketed trace) (hpart : part <+: trace) (path : Path) :
    removals path part ≤ clones path part := by
  induction h generalizing part with
  | nil =>
    rw [List.prefix_nil.1 hpart]
    exact Nat.le_refl _
  | @nest dir inner rest hbracketed _ hinner hrest =>
    have heq := hbracketed.removals_eq path
    cases part with
    | nil => exact Nat.le_refl _
    | cons event part =>
      obtain ⟨rfl, htail⟩ := List.cons_prefix_cons.1 hpart
      rw [removals_cons_cloned, clones_cons_cloned]
      obtain hin | ⟨more, hmore, rfl⟩ := prefix_append_cases htail
      · have hle := hinner hin
        omega
      · -- The part reaches beyond what happened beneath the clone.
        cases more with
        | nil =>
          rw [List.append_nil]
          omega
        | cons event more =>
          obtain ⟨rfl, hafter⟩ := List.cons_prefix_cons.1 hmore
          have hle := hrest hafter
          simp only [removals_append, removals_cons_removed, clones_append, clones_cons_removed]
          omega

end Counting

/-- The same world, with the clones and removals of its loaders kept beside the state. -/
def World.recorded (world : World σ) : World (σ × List Event) :=
  ⟨world.env.recorded, fun s => world.chainBound s.1⟩

namespace Session

/-- The session with events beside its state. -/
def recorded (session : Session σ) (past : List Event) : Session (σ × List Event) :=
  ⟨(session.state, past), session.kept⟩

/-- Serve a list of requests. -/
def run (world : World σ) (session : Session σ) (requests : List Request) : Session σ :=
  requests.foldl (fun session request => (session.serve world request).2) session

/-- The clones of a directory that kept loaders own. -/
def owed (path : Path) (kept : List (String × Loader)) : Nat :=
  kept.countP fun entry => entry.2.lease = some ⟨path⟩

/-- The removals are paid for by clones that were made or owned, and what is owned afterwards is so
too. -/
structure Pays (before after : List (String × Loader)) (trace : List Event) : Prop where
  removals_le : ∀ path part, part <+: trace →
    removals path part ≤ clones path part + owed path before
  owed_le : ∀ path, removals path trace + owed path after ≤ clones path trace + owed path before

variable {before between after kept : List (String × Loader)} {first second trace : List Event}

theorem Pays.append (h : Pays before between first) (h' : Pays between after second) :
    Pays before after (first ++ second) := by
  constructor
  · intro path part hpart
    obtain hin | ⟨more, hmore, rfl⟩ := prefix_append_cases hpart
    · exact h.removals_le path part hin
    · have hfirst := h.owed_le path
      have hsecond := h'.removals_le path more hmore
      simp only [removals_append, clones_append]
      omega
  · intro path
    have hfirst := h.owed_le path
    have hsecond := h'.owed_le path
    simp only [removals_append, clones_append]
    omega

theorem Pays.bracketed (h : Bracketed trace) (kept : List (String × Loader)) :
    Pays kept kept trace := by
  constructor
  · intro path part hpart
    have hle := h.removals_le hpart path
    omega
  · intro path
    have heq := h.removals_eq path
    omega

theorem Pays.nil (kept : List (String × Loader)) : Pays kept kept [] := .bracketed .nil kept

/-- Clones that are made may be owned afterwards. -/
theorem Pays.taken {lease : Option Directory}
    (h : ∀ path, owed path after ≤ clones path (taken lease) + owed path before) :
    Pays before after (taken lease) := by
  constructor
  · intro path part hpart
    have hle : removals path part ≤ removals path (Loader.taken lease) := hpart.sublist.count_le _
    rw [removals_taken] at hle
    omega
  · intro path
    rw [removals_taken, Nat.zero_add]
    exact h path

/-- A clone that is given up was owned, and is so no longer. -/
theorem Pays.returned {lease : Option Directory}
    (h : ∀ path, removals path (returned lease) + owed path after ≤ owed path before) :
    Pays before after (returned lease) := by
  constructor
  · intro path part hpart
    have hle : removals path part ≤ removals path (Loader.returned lease) :=
      hpart.sublist.count_le _
    have howed := h path
    omega
  · intro path
    rw [clones_returned, Nat.zero_add]
    exact h path

theorem clones_taken (path : Path) (lease : Option Directory) :
    clones path (Loader.taken lease) = if lease = some ⟨path⟩ then 1 else 0 := by
  cases lease with
  | none => rfl
  | some dir =>
    rcases dir with ⟨other⟩
    simp [Loader.taken, clones_cons_cloned]

theorem removals_returned (path : Path) (lease : Option Directory) :
    removals path (Loader.returned lease) = if lease = some ⟨path⟩ then 1 else 0 := by
  cases lease with
  | none => rfl
  | some dir =>
    rcases dir with ⟨other⟩
    simp [Loader.returned, removals_cons_removed]

theorem owed_cons (path : Path) (name : String) (loader : Loader) :
    owed path ((name, loader) :: kept) =
      owed path kept + if loader.lease = some ⟨path⟩ then 1 else 0 := by
  rw [owed, List.countP_cons]
  simp [owed]

theorem owed_filter_le (path : Path) (keeps : String × Loader → Bool) :
    owed path (kept.filter keeps) ≤ owed path kept :=
  (List.filter_sublist).countP_le

/-- Without the loader of a name, its clone is owned no longer. -/
theorem owed_drop {name : String} {loader : Loader} (h : kept.lookup name = some loader)
    (path : Path) :
    removals path (Loader.returned loader.lease) +
      owed path (kept.filter fun entry => entry.1 != name) ≤ owed path kept := by
  induction kept with
  | nil => cases h
  | cons entry kept ih =>
    obtain ⟨other, owner⟩ := entry
    rw [List.lookup_cons] at h
    by_cases hname : name = other
    · subst hname
      have hsame : owner = loader := by simpa using h
      have hle : owed path (kept.filter fun entry => entry.1 != name) ≤ owed path kept :=
        owed_filter_le path _
      rw [List.filter_cons_of_neg (by simp), owed_cons, hsame, removals_returned]
      omega
    · rw [beq_false_of_ne hname] at h
      have hle := ih h
      have hother : (other != name) = true := by simpa using Ne.symm hname
      rw [List.filter_cons, if_pos hother, owed_cons, owed_cons]
      omega

/-- The outcome of a recorded request is that of the request, and its removals are paid for. -/
def Follows (before : List (String × Loader)) (past : List Event)
    (x : Except Failure Reply × Session σ)
    (y : Except Failure Reply × Session (σ × List Event)) : Prop :=
  ∃ trace, y = (x.1, x.2.recorded (past ++ trace)) ∧ Pays before x.2.kept trace

variable {session : Session σ} {past : List Event} {α : Type}

theorem Follows.refl (outcome : Except Failure Reply) :
    Follows session.kept past (outcome, session) (outcome, session.recorded past) :=
  ⟨[], by rw [List.append_nil], .nil _⟩

theorem perform_follows {P : Except Error α → List Event → Prop} {x : Action σ α}
    {y : Action (σ × List Event) α} {reply : α → Reply} (h : Action.Records P x y)
    (hpays : ∀ r trace, P r trace → Pays before session.kept trace) :
    Follows before past (session.perform x reply) ((session.recorded past).perform y reply) := by
  obtain ⟨trace, hrun, hp⟩ := h session.state past
  exact ⟨trace, by rw [perform, recorded, hrun]; rfl, hpays _ _ hp⟩

theorem perform_silent {x : Action σ α} {y : Action (σ × List Event) α} {reply : α → Reply}
    (h : Action.Silent x y) :
    Follows session.kept past (session.perform x reply)
      ((session.recorded past).perform y reply) := by
  refine perform_follows h ?_
  rintro r trace rfl
  exact .nil _

/-- A loader that is kept owns the clone that was made for it. -/
theorem make_follows {x : Action σ Loader} {y : Action (σ × List Event) Loader}
    (h : Action.Records Leases x y) (name : Option String) :
    Follows session.kept past (session.make name x) ((session.recorded past).make name y) := by
  obtain ⟨trace, hrun, hleases⟩ := h session.state past
  rcases hx : x session.state with ⟨error | loader, t⟩
  · rw [hx] at hrun hleases
    refine ⟨trace, ?_, ?_⟩
    · simp only [make, recorded, hrun, hx]
    · simp only [make, hx]
      exact .bracketed (bracketed_of_leases_error hleases) _
  · rw [hx] at hrun hleases
    have htrace : trace = Loader.taken loader.lease := hleases
    subst htrace
    cases name with
    | none =>
      refine ⟨Loader.taken loader.lease, ?_, ?_⟩
      · simp only [make, recorded, hrun, hx]
      · simp only [make, hx]
        exact .taken fun path => Nat.le_add_left _ _
    | some name =>
      refine ⟨Loader.taken loader.lease, ?_, ?_⟩
      · simp only [make, recorded, hrun, hx, keep]
      · simp only [make, hx, keep]
        refine .taken fun path => ?_
        have hle : owed path (session.kept.filter fun entry => entry.1 != name) ≤
            owed path session.kept := owed_filter_le path _
        rw [owed_cons, clones_taken]
        omega

theorem withLoader_follows {name : String} {f : Loader → Except Failure Reply × Session σ}
    {g : Loader → Except Failure Reply × Session (σ × List Event)}
    (h : ∀ loader, session.kept.lookup name = some loader →
      Follows session.kept past (f loader) (g loader)) :
    Follows session.kept past (session.withLoader name f)
      ((session.recorded past).withLoader name g) := by
  have hsame : (session.recorded past).kept = session.kept := rfl
  rw [withLoader, withLoader, hsame]
  cases hlookup : session.kept.lookup name with
  | none => exact .refl _
  | some loader => exact h loader hlookup

/-- Cleaning up gives up the clone of the loader, which is kept without it. -/
theorem cleanup_follows {env : Env σ} {name : String} {loader : Loader}
    (h : session.kept.lookup name = some loader) (reply : Unit → Reply) :
    Follows session.kept past
      ((session.keep name loader.released).perform (loader.cleanup env) reply)
      (((session.recorded past).keep name loader.released).perform
        (loader.cleanup env.recorded) reply) := by
  show Follows session.kept past ((session.keep name loader.released).perform _ reply)
    (((session.keep name loader.released).recorded past).perform _ reply)
  refine perform_follows (Loader.cleanup_records env loader) ?_
  rintro r trace rfl
  refine .returned fun path => ?_
  rw [keep, owed_cons]
  exact owed_drop h path

theorem resolve_follows (world : World σ) (on : String) :
    Follows session.kept past (session.serve world (.resolve on))
      ((session.recorded past).serve world.recorded (.resolve on)) := by
  refine withLoader_follows fun loader _ => ?_
  have hrun := Overlay.resolve_brackets world.env (world.chainBound session.state) loader
    session.state past
  simp only [recorded, World.recorded]
  rcases hresolve : Overlay.resolve world.env (world.chainBound session.state) loader session.state
    with - | ⟨error | tree, t⟩
  · rw [hresolve] at hrun
    dsimp only at hrun
    rw [hrun]
    exact .refl _
  · rw [hresolve] at hrun
    obtain ⟨trace, hsame, hbracketed⟩ := hrun
    rw [hsame]
    exact ⟨trace, rfl, .bracketed hbracketed _⟩
  · rw [hresolve] at hrun
    obtain ⟨trace, hsame, hbracketed⟩ := hrun
    rw [hsame]
    exact ⟨trace, rfl, .bracketed hbracketed _⟩

theorem clone_records (env : Env σ) (ref : RemoteRef) (clean : Bool)
    (kept : List (String × Loader)) :
    Action.Records (fun _ trace => Pays kept kept trace) (clone env ref clean)
      (clone env.recorded ref clean) := by
  refine Action.Records.bind
    (S := fun left _ trace => trace = [] ∨ trace = Loader.returned left.dir)
    (Loader.clone_records env ref) (fun left => ?_) ?_ ?_
  · cases clean with
    | false => exact .pure (.inl rfl)
    | true =>
      have hreleased := (Loader.release_records env left.dir).attempt
      refine hreleased.bind (S := fun _ _ trace => trace = []) (fun _ => .pure rfl) ?_ ?_
      · rintro removal r trace trace' ⟨_, -, rfl⟩ rfl
        exact .inr (List.append_nil _)
      · rintro e trace ⟨_, h, -⟩
        cases h
  · rintro left r trace trace' rfl (rfl | rfl)
    · rw [List.append_nil]
      exact .taken fun path => Nat.le_add_left _ _
    · have hbracketed :
          Bracketed (Loader.taken left.dir ++ ([] ++ Loader.returned left.dir ++ [])) :=
        Bracketed.nil.leased .nil left.dir
      rw [List.nil_append, List.append_nil] at hbracketed
      exact .bracketed hbracketed kept
  · rintro e trace rfl
    exact .nil kept

/-- A request other than for a removal asks only for removals that are paid for. -/
theorem serve_follows (world : World σ) (session : Session σ) {request : Request}
    (h : ∀ path, request ≠ .remove path) (past : List Event) :
    Follows session.kept past (session.serve world request)
      ((session.recorded past).serve world.recorded request) := by
  cases request with
  | openAt root policy strict name =>
    refine make_follows ?_ name
    exact (Action.Silent.check _).bind (fun policy => Loader.origin_records _ policy root)
      fun e => ⟨none, rfl⟩
  | child on base name =>
    exact withLoader_follows fun loader _ => make_follows (loader.child_records world.env base) name
  | load on path =>
    exact withLoader_follows fun loader _ => perform_silent (loader.load_silent path)
  | cleanup on => exact withLoader_follows fun loader hkept => cleanup_follows hkept _
  | resolve on => exact resolve_follows world on
  | readOverlay on =>
    exact withLoader_follows fun loader _ => perform_silent (Overlay.readFile_silent world.env loader)
  | inspect on => exact withLoader_follows fun loader _ => .refl _
  | validate on name label =>
    exact withLoader_follows fun loader _ => perform_silent (Action.Silent.check _)
  | admitRoot path => exact perform_silent (FileSystem.admitRoot_silent world.env path)
  | permit policy root path =>
    refine perform_silent ((Action.Silent.check _).then fun policy => ?_)
    exact ReadPolicy.permit_silent world.env policy _ path
  | clone reference clean =>
    simp only [serve]
    cases RemoteRef.parse? reference with
    | none => exact .refl _
    | some ref =>
      exact perform_follows (clone_records world.env ref clean session.kept) fun _ _ hp => hp
  | locate path => exact perform_silent (FileSystem.locate_silent world.env path)
  | read path => exact perform_silent (FileSystem.read_silent world.env path)
  | remove path => exact absurd rfl (h path)

theorem run_cons (world : World σ) (session : Session σ) (request : Request)
    (requests : List Request) :
    session.run world (request :: requests) = (session.serve world request).2.run world requests :=
  rfl

/-- Requests other than for removals ask only for removals that are paid for. -/
theorem run_records (world : World σ) (session : Session σ) {requests : List Request}
    (h : ∀ path, .remove path ∉ requests) (past : List Event) :
    ∃ trace, (session.recorded past).run world.recorded requests =
        (session.run world requests).recorded (past ++ trace) ∧
      Pays session.kept (session.run world requests).kept trace := by
  induction requests generalizing session past with
  | nil => exact ⟨[], by rw [List.append_nil]; rfl, .nil _⟩
  | cons request requests ih =>
    have hfirst : ∀ path, request ≠ .remove path := by
      rintro path rfl
      exact h path List.mem_cons_self
    have hrest : ∀ path, .remove path ∉ requests := fun path hmem =>
      h path (List.mem_cons_of_mem _ hmem)
    obtain ⟨trace, hserve, hpays⟩ := serve_follows world session hfirst past
    obtain ⟨trace', hrun, hpays'⟩ := ih (session.serve world request).2 hrest (past ++ trace)
    refine ⟨trace ++ trace', ?_, hpays.append hpays'⟩
    rw [run_cons, run_cons, hserve, hrun, List.append_assoc]

end Session

open Overlay in
/-- Clones are given up exactly once. Resolution clones and removes in nested pairs, however it
ends; a request for a child leaves the child with its clone or gives the clone up; a clone is
removed right after what was resolved beneath it. The failure of a removal replaces no other error.
In a session no clone is removed twice. -/
theorem World.releases_clones (world : World σ) :
    (∀ bound loader,
      (resolve world.env bound loader).Brackets (resolve world.recorded.env bound loader)) ∧
    (∀ bound child, Walk.Records (fun _ trace => Returns child.lease trace)
      (resolveChild world.env (resolve world.env bound) child)
      (resolveChild world.recorded.env (resolve world.recorded.env bound) child)) ∧
    (∀ loader base, Action.Records Leases (Loader.child world.env loader base)
      (Loader.child world.recorded.env loader base)) ∧
    (∀ (loader : Loader) (base : String) (ref : RemoteRef) (left : Checkout) (s t : σ),
      base ≠ "" → RemoteRef.parse? base = some ref → loader.checkRepository ref = .ok () →
      world.env.cloner.take world.env.fs ref
          (Loader.noted world.env .debug s!"cloning '{ref.cloneUrl}' for {loader.root}"
            (Loader.noted world.env .trace s!"'{base}' is a remote base" s)) = (.ok left, t) →
      (loader.child world.env base s).1 =
        (Loader.rootInClone world.env left.ref left.dir t).1.map
          fun root => loader.extend ⟨root, .confined, left.clone?⟩ left.dir) ∧
    (∀ bound child s resolved t, resolve world.env bound child s = some (resolved, t) →
      ∃ u, resolveChild world.env (resolve world.env bound) child s =
        some (settled resolved (child.cleanup world.env t).1, u)) ∧
    (∀ (state : σ) (requests : List Session.Request), (∀ path, .remove path ∉ requests) →
      ∃ trace, (Session.mk (state, []) []).run world.recorded requests =
          ((Session.mk state []).run world requests).recorded trace ∧
        ∀ part, part <+: trace → ∀ path, removals path part ≤ clones path part) := by
  refine ⟨fun bound => resolve_brackets world.env bound, fun bound child => ?_,
    fun loader base => loader.child_records world.env base, ?_, ?_, ?_⟩
  · exact resolveChild_records (resolve_brackets world.env bound) child
  · exact fun loader base ref left s t => Loader.child_answer
  · exact fun bound child s resolved t => resolveChild_answer
  · intro state requests hrequests
    obtain ⟨trace, hrun, hpays⟩ := (Session.mk state []).run_records world hrequests []
    refine ⟨trace, hrun, fun part hpart path => ?_⟩
    have hle := hpays.removals_le path part hpart
    rwa [show Session.owed path [] = 0 from rfl, Nat.add_zero] at hle

namespace Session

/-- Files in memory of which none can be removed, and a repository in `/clone`. -/
def Sample.world : World Memory where
  env := ⟨Memory.fileSystem.unremovable, .fixed ⟨"/clone"⟩, fun _ store => store⟩
  chainBound _ := 3

def Sample.store : Memory := ⟨[], ["/app", "/clone"].map fun text : String => Memory.place ⟨text⟩⟩

/-- A child is made, cleaned up in vain, and cleaned up again. -/
def Sample.requests : List Request :=
  [.openAt ⟨"/app"⟩ none false (some "app"), .child "app" "git@h:o/r" (some "guest"),
    .cleanup "guest", .cleanup "guest"]

/-- The first loader of a chain in `/app`. -/
def Sample.app : Loader := ⟨⟨⟨⟨"/app"⟩⟩, .confined, none⟩, [], .permissive, none⟩

/-- The clone is removed once, although its removal failed. A reference without a root in its clone
is answered by that, although the removal failed as well. -/
theorem Sample.guest_removed_once :
    ((Session.mk (Sample.store, []) []).run Sample.world.recorded Sample.requests).state.2 =
      [.cloned ⟨⟨"/clone"⟩⟩, .removed ⟨"/clone"⟩] ∧
    (∀ part, part <+: [.cloned ⟨⟨"/clone"⟩⟩, .removed ⟨"/clone"⟩] → ∀ path,
      removals path part ≤ clones path part) ∧
    (Sample.app.child Sample.world.env "git@h:o/r//deploy" Sample.store).1 =
      .error (.notADirectory "/clone/deploy" "deploy") := by
  obtain ⟨-, -, -, hanswer, -, hsession⟩ := World.releases_clones Sample.world
  have hevents :
      ((Session.mk (Sample.store, []) []).run Sample.world.recorded Sample.requests).state.2 =
        [.cloned ⟨⟨"/clone"⟩⟩, .removed ⟨"/clone"⟩] := by rfl
  obtain ⟨trace, hrun, hpaid⟩ := hsession Sample.store Sample.requests (by simp [Sample.requests])
  rw [hrun] at hevents
  subst hevents
  refine ⟨by rw [hrun]; rfl, hpaid, ?_⟩
  have hclone := hanswer Sample.app "git@h:o/r//deploy"
    ⟨"git@h:o/r//deploy", "git@h:", "o/r", "deploy", none, false⟩
    ⟨⟨"git@h:o/r//deploy", "git@h:", "o/r", "deploy", none, false⟩, some ⟨⟨"/clone"⟩⟩⟩ Sample.store
    Sample.store (by decide) (by rfl) (by rfl) (by rfl)
  rw [hclone]
  rfl

end Session

end OverlayChain
