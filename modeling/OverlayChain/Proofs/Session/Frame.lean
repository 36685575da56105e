import OverlayChain.Proofs.Memory.Remains
import OverlayChain.Proofs.Overlay.Frame
import OverlayChain.Proofs.Session.Release

/-!
# Sessions lose a clone and nothing else

A session over files in memory, with all clones in one directory, leaves the store as it was, or
without what is at that directory or below it. It loses the directory only after a clone was made.
Most requests change nothing at all.

## Main definitions

- `Memory.following`: the store after the removals of a trace.
- `Memory.Spends`: a store that is as it was, or lost a clone that had been made.

## Main statements

- `Session.serve_keeps`: a request does not lose what nothing that it asks for loses.
- `Memory.spends_following`: what removals that are paid for by clones leave.
- `Memory.spends_clone`: what sessions and their requests leave.
-/

namespace OverlayChain

namespace Session

variable {σ α : Type} {world : World σ} {session : Session σ} {I : σ → Prop}

theorem perform_keeps {x : Action σ α} (hx : x.Keeps I) (hs : I session.state)
    (reply : α → Reply) : I (session.perform x reply).2.state := hx session.state hs

theorem make_keeps {x : Action σ Loader} (hx : x.Keeps I) (hs : I session.state)
    (name : Option String) : I (session.make name x).2.state := by
  have ht := hx session.state hs
  rw [make]
  rcases hrun : x session.state with ⟨error | loader, t⟩
  · rw [hrun] at ht
    exact ht
  · rw [hrun] at ht
    cases name with
    | none => exact ht
    | some name => exact ht

theorem withLoader_keeps {name : String} {f : Loader → Except Failure Reply × Session σ}
    (hf : ∀ loader, I (f loader).2.state) (hs : I session.state) :
    I (session.withLoader name f).2.state := by
  rw [withLoader]
  cases session.kept.lookup name with
  | none => exact hs
  | some loader => exact hf loader

theorem clone_keeps {env : Env σ} (henv : env.Keeps I) (ref : RemoteRef) (clean : Bool) :
    (clone env ref clean).Keeps I := by
  refine Action.Keeps.bind (henv.clone ref) fun left => ?_
  cases clean with
  | false => exact .pure _
  | true => exact .bind (.attempt (Loader.release_keeps henv left.dir)) fun _ => .pure _

theorem resolve_keeps (henv : world.env.Keeps I) (hs : I session.state) (on : String) :
    I (session.serve world (.resolve on)).2.state := by
  refine withLoader_keeps (fun loader => ?_) hs
  rcases hrun : Overlay.resolve world.env (world.chainBound session.state) loader session.state
    with - | ⟨error | tree, t⟩
  · exact hs
  · exact Overlay.resolve_keeps henv _ loader session.state _ t hs hrun
  · exact Overlay.resolve_keeps henv _ loader session.state _ t hs hrun

/-- A request does not lose what nothing that it asks for loses. -/
theorem serve_keeps (henv : world.env.Keeps I) (hs : I session.state) (request : Request) :
    I (session.serve world request).2.state := by
  have hlooks := henv.toLooks
  cases request with
  | openAt root policy strict name =>
    refine make_keeps ?_ hs name
    exact Action.Keeps.bind (.check _) fun policy => Loader.origin_keeps hlooks _ policy root
  | child on base name =>
    exact withLoader_keeps (fun loader => make_keeps (Loader.child_keeps henv base) hs name) hs
  | load on path =>
    exact withLoader_keeps (fun loader => perform_keeps (Loader.load_keeps hlooks path) hs _) hs
  | cleanup on =>
    refine withLoader_keeps (fun loader => ?_) hs
    exact perform_keeps (Loader.cleanup_keeps henv loader) hs fun _ => .done
  | resolve on => exact resolve_keeps henv hs on
  | readOverlay on =>
    exact withLoader_keeps (fun loader => perform_keeps (Overlay.readFile_keeps hlooks loader) hs _) hs
  | inspect on => exact withLoader_keeps (fun loader => hs) hs
  | validate on name label =>
    exact withLoader_keeps (fun loader => perform_keeps (.check _) hs _) hs
  | admitRoot path => exact perform_keeps (FileSystem.admitRoot_keeps hlooks.locate path) hs _
  | permit policy root path =>
    refine perform_keeps (Action.Keeps.bind (.check _) fun policy => ?_) hs _
    exact ReadPolicy.permit_keeps hlooks policy _ path
  | clone reference clean =>
    simp only [serve]
    cases RemoteRef.parse? reference with
    | none => exact hs
    | some ref => exact perform_keeps (clone_keeps henv ref clean) hs _
  | locate path => exact perform_keeps (hlooks.locate path) hs _
  | read path => exact perform_keeps (hlooks.read path) hs _
  | remove path => exact perform_keeps (henv.remove path) hs _

theorem run_keeps (henv : world.env.Keeps I) (hs : I session.state) (requests : List Request) :
    I (session.run world requests).state := by
  induction requests generalizing session with
  | nil => exact hs
  | cons request requests ih =>
    rw [run_cons]
    exact ih (serve_keeps henv hs request)

end Session

namespace Memory

variable {dir : Path} {top : Location} {m s t : Memory} {trace past : List Event} {loader : Loader}
  {base : String}

/-- The store after the removals of a trace. -/
def following (m : Memory) : List Event → Memory
  | [] => m
  | .cloned _ :: trace => m.following trace
  | .removed path :: trace => (m.removeBelow (place path)).following trace

theorem following_append (m : Memory) (first second : List Event) :
    m.following (first ++ second) = (m.following first).following second := by
  induction first generalizing m with
  | nil => rfl
  | cons event first ih =>
    cases event with
    | cloned _ => exact ih m
    | removed path => exact ih (m.removeBelow (place path))

/-- Nothing is lost without a removal. -/
theorem following_of_not_mem (h : ∀ path, .removed path ∉ trace) : m.following trace = m := by
  induction trace with
  | nil => rfl
  | cons event trace ih =>
    cases event with
    | cloned _ => exact ih fun path hmem => h path (List.mem_cons_of_mem _ hmem)
    | removed path => exact absurd List.mem_cons_self (h path)

/-- Nothing more is lost where everything is lost already. -/
theorem following_removeBelow (h : ∀ path, .removed path ∈ trace → path = top.path) :
    (m.removeBelow top).following trace = m.removeBelow top := by
  induction trace with
  | nil => rfl
  | cons event trace ih =>
    have hrest := ih fun path hmem => h path (List.mem_cons_of_mem _ hmem)
    cases event with
    | cloned _ => exact hrest
    | removed path =>
      rw [following, h path List.mem_cons_self, place_path, removeBelow_removeBelow]
      exact hrest

/-- What is removed again and again is removed once. -/
theorem following_of_mem (h : ∀ path, .removed path ∈ trace → path = top.path)
    (hremoved : .removed top.path ∈ trace) : m.following trace = m.removeBelow top := by
  induction trace with
  | nil => cases hremoved
  | cons event trace ih =>
    have hrest : ∀ path, .removed path ∈ trace → path = top.path := fun path hmem =>
      h path (List.mem_cons_of_mem _ hmem)
    cases event with
    | cloned _ => exact ih hrest (by simpa using hremoved)
    | removed path =>
      rw [following, h path List.mem_cons_self, place_path]
      exact following_removeBelow hrest

/-- The second store is the first one without what is at a place or below it. The root stays a
directory. -/
structure Without (top : Location) (m t : Memory) : Prop where
  eq : t = m.removeBelow top
  isDir : ∀ place, t.isDir place = true ↔ place = [] ∨ m.isDir place = true ∧ ¬ top <+: place
  content? : ∀ place, t.content? place = if top <+: place then none else m.content? place

theorem without_removeBelow (top : Location) (m : Memory) : m.Without top (m.removeBelow top) :=
  ⟨rfl, fun _ => isDir_removeBelow, fun _ => content?_removeBelow⟩

/-- What a trace leaves of a store: all of it, if nothing was removed, or all but what is at a place
or below it. Nothing else was removed, and not before a clone had been made there. -/
inductive Spends (top : Location) (m : Memory) (trace : List Event) (t : Memory) : Prop
  | kept (hnone : ∀ path, .removed path ∉ trace) (ht : t = m)
  | lost (hremoved : .removed top.path ∈ trace)
      (hcloned : ∀ path before after, trace = before ++ .removed path :: after →
        path = top.path ∧ .cloned ⟨path⟩ ∈ before)
      (ht : m.Without top t)

/-- Before a removal that is paid for, the same directory was cloned. -/
theorem cloned_of_removed {path : Path} {before after : List Event}
    (hpaid : ∀ part, part <+: trace → removals path part ≤ clones path part)
    (h : trace = before ++ .removed path :: after) : .cloned ⟨path⟩ ∈ before := by
  have hpart : before ++ [.removed path] <+: trace := by
    rw [h]
    exact ⟨after, by simp⟩
  have hle := hpaid _ hpart
  rw [removals_append, removals_cons_removed, if_pos rfl, clones_append, clones_cons_removed,
    clones_nil] at hle
  have hpos : 0 < clones path before := by omega
  exact List.count_pos_iff.1 hpos

/-- Removals that are paid for by clones, which are all made at one place, lose that place. -/
theorem spends_following (hclones : ∀ dir, .cloned dir ∈ trace → dir = ⟨top.path⟩)
    (hpaid : ∀ path part, part <+: trace → removals path part ≤ clones path part) :
    m.Spends top trace (m.following trace) := by
  have hcloned : ∀ path before after, trace = before ++ .removed path :: after →
      path = top.path ∧ .cloned ⟨path⟩ ∈ before := by
    intro path before after hsplit
    have hmem := cloned_of_removed (hpaid path) hsplit
    have hdir := hclones ⟨path⟩ (by rw [hsplit]; exact List.mem_append_left _ hmem)
    exact ⟨congrArg Directory.path hdir, hmem⟩
  have hpath : ∀ path, .removed path ∈ trace → path = top.path := by
    intro path hmem
    obtain ⟨before, after, hsplit⟩ := List.append_of_mem hmem
    exact (hcloned path before after hsplit).1
  by_cases hremoved : .removed top.path ∈ trace
  · refine .lost hremoved hcloned ?_
    rw [following_of_mem hpath hremoved]
    exact without_removeBelow top m
  · have hnone : ∀ path, .removed path ∉ trace := by
      intro path hmem
      obtain rfl := hpath path hmem
      exact hremoved hmem
    exact .kept hnone (following_of_not_mem hnone)

/-- A recorded store is what the removals since a point in time left, and all clones since then were
made in one directory. -/
def Accounts (dir : Path) (m : Memory) (past : List Event) (s : Memory × List Event) : Prop :=
  ∃ trace, s = (m.following trace, past ++ trace) ∧
    ∀ top, .cloned top ∈ trace → top = ⟨(place dir).path⟩

theorem accounts_self (dir : Path) (m : Memory) (past : List Event) :
    Accounts dir m past (m, past) :=
  ⟨[], by rw [List.append_nil]; rfl, by simp⟩

theorem fixed_eq_place {ref : RemoteRef} {left : Checkout}
    (h : (Cloner.fixed dir).take fileSystem ref m = (.ok left, t)) :
    left = ⟨ref, some ⟨(place dir).path⟩⟩ := by
  obtain ⟨found, rfl, hlocate⟩ := Cloner.fixed_eq_ok_iff.1 h
  rw [fileSystem_locate, Action.ended_eq_iff] at hlocate
  rw [(locate_directory_iff.1 hlocate.1).2]

theorem env_accounts (dir : Path) (m : Memory) (past : List Event) :
    (env (.fixed dir)).recorded.Keeps (Accounts dir m past) := by
  refine ⟨⟨fun path s hs => hs, fun path s hs => hs, fun record s hs => hs⟩, ?_, ?_⟩
  · rintro path _ ⟨trace, rfl, hclones⟩
    refine ⟨trace ++ [.removed path], ?_, by simpa using hclones⟩
    rw [following_append, ← List.append_assoc]
    rfl
  · rintro ref _ ⟨trace, rfl, hclones⟩
    obtain ⟨more, hrun, hmore⟩ :=
      Loader.clone_records (env (.fixed dir)) ref (m.following trace) (past ++ trace)
    have hsnd : ((env (.fixed dir)).cloner.take (env (.fixed dir)).fs ref (m.following trace)).2 =
        m.following trace := fixed_snd dir ref _
    rw [hrun, hsnd]
    -- A clone adds itself to the record and changes nothing else.
    rcases hclone : (env (.fixed dir)).cloner.take (env (.fixed dir)).fs ref (m.following trace)
      with ⟨error | left, t⟩
    · rw [hclone] at hmore
      cases hmore
      exact ⟨trace, by rw [List.append_nil], hclones⟩
    · rw [hclone] at hmore
      obtain rfl := fixed_eq_place hclone
      have htaken : more = [.cloned ⟨(place dir).path⟩] := hmore
      refine ⟨trace ++ more, ?_, fun top hmem => ?_⟩
      · rw [following_append, htaken, List.append_assoc]
        rfl
      · rw [List.mem_append, htaken, List.mem_singleton] at hmem
        rcases hmem with hmem | hmem
        · exact hclones top hmem
        · cases hmem
          rfl

/-- What recorded requests leave of a store, if their removals are paid for. -/
theorem Accounts.spends (h : Accounts dir m past (t, past ++ trace))
    (hpaid : ∀ path part, part <+: trace → removals path part ≤ clones path part) :
    m.Spends (place dir) trace t := by
  obtain ⟨other, heq, hclones⟩ := h
  obtain ⟨rfl, htrace⟩ := Prod.mk.inj heq
  obtain rfl := List.append_cancel_left htrace
  exact spends_following hclones hpaid

/-- A request for a child for a local base changes nothing. -/
theorem child_snd_of_local {cloner : Cloner Memory} (hbase : RemoteRef.parse? base = none) :
    (loader.child (env cloner) base s).2 = s := by
  rw [Loader.child]
  split
  · rfl
  · rw [hbase]
    exact localChild_snd cloner

/-- A child that is refused because of a repository cycle changes nothing. -/
theorem child_snd_of_cycle {dirOf : RemoteRef → Option Path} {uri previous : String}
    (h : loader.child (env (.pointing dirOf)) base s = (.error (.repositoryCycle uri previous), t)) :
    t = s := by
  cases hbase : RemoteRef.parse? base with
  | none =>
    have hsnd : (loader.child (env (.pointing dirOf)) base s).2 = s := child_snd_of_local hbase
    rwa [h] at hsnd
  | some ref =>
    rw [Loader.child] at h
    split at h
    · cases h
    · rw [hbase] at h
      dsimp only at h
      rw [Action.bind_of_ok (Loader.report_apply _ _ s), noted_env] at h
      cases hcheck : loader.checkRepository ref with
      | error cause =>
        rw [hcheck, Action.bind_of_error (Action.check_apply _ _)] at h
        cases h
        rfl
      | ok _ =>
        -- Once a clone was asked for, the child is refused for other reasons.
        rw [hcheck, Action.bind_of_ok (Action.check_apply _ _)] at h
        have hne : (loader.remoteChild (env (.pointing dirOf)) ref).Fails
            fun error => error ≠ .repositoryCycle uri previous := by
          apply remoteChild_refused
          all_goals simp
        exact absurd rfl (hne s _ t h)

/-- A child whose repository cannot be cloned changes nothing. -/
theorem child_snd_of_uncloned {ref : RemoteRef} {cause : Error}
    (hbase : RemoteRef.parse? base = some ref)
    (hclone : ((Cloner.fixed dir).take fileSystem ref s).1 = .error cause) :
    (loader.child (env (.fixed dir)) base s).2 = s := by
  rw [Loader.child]
  split
  · rfl
  · rw [hbase]
    dsimp only
    rw [Action.bind_of_ok (Loader.report_apply _ _ s), noted_env]
    cases loader.checkRepository ref with
    | error cycle => rfl
    | ok _ =>
      have hrun : (env (.fixed dir)).cloner.take (env (.fixed dir)).fs ref s = (.error cause, s) :=
        Prod.ext hclone (fixed_snd dir ref s)
      rw [Action.bind_of_ok (Action.check_apply _ _), Loader.remoteChild,
        Action.bind_of_ok (Loader.report_apply _ _ s), noted_env, Action.bind_of_error hrun]

/-- At no time are there more removals than clones in a request for a child. -/
theorem removals_le_of_leases {outcome : Except Error Loader} (h : Loader.Leases outcome trace)
    {part : List Event} (hpart : part <+: trace) (path : Path) :
    removals path part ≤ clones path part := by
  cases outcome with
  | error error => exact (bracketed_of_leases_error h).removals_le hpart path
  | ok child =>
    have htaken : trace = Loader.taken child.lease := h
    have hle : removals path part ≤ removals path trace := hpart.sublist.count_le _
    rw [htaken, removals_taken] at hle
    omega

theorem child_spends (dir : Path) (loader : Loader) (base : String) (s : Memory)
    (past : List Event) :
    ∃ trace, loader.child (env (.fixed dir)).recorded base (s, past) =
        ((loader.child (env (.fixed dir)) base s).1, (loader.child (env (.fixed dir)) base s).2,
          past ++ trace) ∧
      s.Spends (place dir) trace (loader.child (env (.fixed dir)) base s).2 := by
  obtain ⟨trace, hrun, hleases⟩ := Loader.child_records (env (.fixed dir)) loader base s past
  have haccounts : Accounts dir s past (loader.child (env (.fixed dir)).recorded base (s, past)).2 :=
    Loader.child_keeps (env_accounts dir s past) base (s, past) (accounts_self dir s past)
  rw [hrun] at haccounts
  exact ⟨trace, hrun, haccounts.spends fun path part hpart => removals_le_of_leases hleases hpart path⟩

theorem resolve_spends (dir : Path) (bound : Nat) (loader : Loader) (past : List Event)
    {result : Except Error Overlay.Tree}
    (h : Overlay.resolve (env (.fixed dir)) bound loader s = some (result, t)) :
    ∃ trace, Overlay.resolve (env (.fixed dir)).recorded bound loader (s, past) =
        some (result, t, past ++ trace) ∧ s.Spends (place dir) trace t := by
  have hbrackets := Overlay.resolve_brackets (env (.fixed dir)) bound loader s past
  rw [h] at hbrackets
  obtain ⟨trace, hrun, hbracketed⟩ := hbrackets
  have haccounts : Accounts dir s past (t, past ++ trace) :=
    Overlay.resolve_keeps (env_accounts dir s past) bound loader (s, past) result _
      (accounts_self dir s past) hrun
  exact ⟨trace, hrun, haccounts.spends fun path part hpart => hbracketed.removals_le hpart path⟩

/-- Files in memory, with all clones in one directory. -/
def world (dir : Path) (chainBound : Memory → Nat) : World Memory := ⟨env (.fixed dir), chainBound⟩

theorem run_spends (dir : Path) (chainBound : Memory → Nat) (m : Memory)
    {requests : List Session.Request} (h : ∀ path, .remove path ∉ requests) :
    ∃ trace, (Session.mk (m, []) []).run (world dir chainBound).recorded requests =
        ((Session.mk m []).run (world dir chainBound) requests).recorded trace ∧
      m.Spends (place dir) trace ((Session.mk m []).run (world dir chainBound) requests).state := by
  obtain ⟨trace, hrun, hpays⟩ := Session.run_records (world dir chainBound) (Session.mk m []) h []
  have haccounts : Accounts dir m []
      ((Session.mk (m, []) []).run (world dir chainBound).recorded requests).state :=
    Session.run_keeps (env_accounts dir m []) (accounts_self dir m []) requests
  have hsame : (Session.mk (m, []) []).run (world dir chainBound).recorded requests =
      ((Session.mk m []).run (world dir chainBound) requests).recorded ([] ++ trace) := hrun
  rw [hsame] at haccounts
  exact ⟨trace, hsame, haccounts.spends fun path part hpart => hpays.removals_le path part hpart⟩

/-- In a session over files in memory with all clones in one directory, in which nothing is removed
on its own, the store is as it was, or it lost that directory after a clone was made. So it is after
a single request for a child and after resolution, whatever the loader. To make the first loader of
a chain, to load, and to ask for a child for a local base changes nothing; neither does a request
for a child that is refused because of a repository cycle, or whose clone fails. -/
theorem spends_clone (dir : Path) (chainBound : Memory → Nat) :
    (∀ (m : Memory) (requests : List Session.Request), (∀ path, .remove path ∉ requests) →
      ∃ trace, (Session.mk (m, []) []).run (world dir chainBound).recorded requests =
          ((Session.mk m []).run (world dir chainBound) requests).recorded trace ∧
        m.Spends (place dir) trace ((Session.mk m []).run (world dir chainBound) requests).state) ∧
    (∀ (loader : Loader) (base : String) (s : Memory) (past : List Event),
      ∃ trace, loader.child (env (.fixed dir)).recorded base (s, past) =
          ((loader.child (env (.fixed dir)) base s).1, (loader.child (env (.fixed dir)) base s).2,
            past ++ trace) ∧
        s.Spends (place dir) trace (loader.child (env (.fixed dir)) base s).2) ∧
    (∀ (bound : Nat) (loader : Loader) (s t : Memory) (past : List Event)
      (result : Except Error Overlay.Tree),
      Overlay.resolve (env (.fixed dir)) bound loader s = some (result, t) →
      ∃ trace, Overlay.resolve (env (.fixed dir)).recorded bound loader (s, past) =
          some (result, t, past ++ trace) ∧ s.Spends (place dir) trace t) ∧
    (∀ (validator : Validator) (policy : ReadPolicy) (path : Path) (s : Memory),
      (Loader.origin (env (.fixed dir)) validator policy path s).2 = s) ∧
    (∀ (loader : Loader) (path : Path) (s : Memory),
      (loader.load (env (.fixed dir)) path s).2 = s) ∧
    (∀ (loader : Loader) (base : String) (s : Memory), RemoteRef.parse? base = none →
      (loader.child (env (.fixed dir)) base s).2 = s) ∧
    (∀ (loader : Loader) (base uri previous : String) (s t : Memory),
      loader.child (env (.fixed dir)) base s = (.error (.repositoryCycle uri previous), t) →
      t = s) ∧
    (∀ (loader : Loader) (base : String) (ref : RemoteRef) (cause : Error) (s : Memory),
      RemoteRef.parse? base = some ref →
      ((Cloner.fixed dir).take fileSystem ref s).1 = .error cause →
      (loader.child (env (.fixed dir)) base s).2 = s) := by
  refine ⟨fun m requests h => run_spends dir chainBound m h, child_spends dir,
    fun bound loader s t past result h => resolve_spends dir bound loader past h, ?_,
    fun loader path s => load_snd path, fun loader base s h => child_snd_of_local h,
    ?_, fun loader base ref cause s hbase h => child_snd_of_uncloned hbase h⟩
  · intro validator policy path s
    have hlooks := env_looks (.fixed dir) (· = s)
    exact Loader.origin_keeps hlooks validator policy path s rfl
  · intro loader base uri previous s t h
    rw [Cloner.fixed_eq_pointing] at h
    exact child_snd_of_cycle h

/-- An overlay that is based on a reference, and a clone in its directory. -/
def Sample.stocked : Memory where
  files := [(place ⟨"/app/Kustomization"⟩, "bases: [git@h:o/r]".toUTF8),
    (place ⟨"/clone/Kustomization"⟩, "namespace: n".toUTF8)]
  dirs := [place ⟨"/app"⟩, place ⟨"/clone"⟩]

/-- The overlay is resolved, and then its file is read. -/
def Sample.visits : List Session.Request :=
  [.openAt ⟨"/app"⟩ none true (some "app"), .resolve "app", .load "app" ⟨"Kustomization"⟩]

/-- Resolution loses the clone, and nothing else. -/
theorem Sample.stocked_spends :
    stocked.Without (place ⟨"/clone"⟩)
      ((Session.mk stocked []).run (world ⟨"/clone"⟩ fun _ => 2) visits).state := by
  obtain ⟨hsession, -⟩ := spends_clone ⟨"/clone"⟩ fun _ => 2
  obtain ⟨trace, -, hspends⟩ := hsession stocked visits (by simp [visits])
  have hgone : ((Session.mk stocked []).run (world ⟨"/clone"⟩ fun _ => 2) visits).state.isDir
      (place ⟨"/clone"⟩) = false := by decide +kernel
  cases hspends with
  | kept _ hsame =>
    rw [hsame] at hgone
    cases hgone
  | lost _ _ hwithout => exact hwithout

end Memory

end OverlayChain
