import OverlayChain.Proofs.Loader.Record
import OverlayChain.Proofs.Overlay.Walk

/-!
# Resolution gives up its clones

Whatever the file system and the cloner do, and however resolution ends, the clones that it makes
and the removals that it asks for are nested like brackets: each clone is removed once, after
everything that was cloned beneath it.

## Main definitions

- `Bracketed`: clones and removals that are nested like brackets.
- `Walk.Records`: a recorded walk does what the walk does, and keeps certain events.
- `Overlay.settled`: the answer of a child by that of its subtree and that of the removal.

## Main statements

- `Overlay.resolve_brackets`: what resolution clones and removes.
- `Overlay.resolveChild_records`: a clone is removed after its subtree was resolved.
- `Overlay.resolveChild_answer`: the failure of a removal comes after that of the subtree.
-/

namespace OverlayChain

/-- Clones and removals that are nested like brackets. -/
inductive Bracketed : List Event → Prop
  | nil : Bracketed []
  | nest {dir : Directory} {inner rest : List Event} (hinner : Bracketed inner)
      (hrest : Bracketed rest) :
      Bracketed (.cloned dir :: (inner ++ .removed dir.path :: rest))

theorem Bracketed.append {first second : List Event} (h : Bracketed first)
    (hsecond : Bracketed second) : Bracketed (first ++ second) := by
  induction h with
  | nil => exact hsecond
  | @nest dir inner rest hinner _ _ ih =>
    rw [List.cons_append, List.append_assoc]
    exact .nest hinner ih

open Loader (taken returned Leases)

/-- What happens beneath a clone stands between its making and its removal. -/
theorem Bracketed.leased {inner rest : List Event} (hinner : Bracketed inner)
    (hrest : Bracketed rest) (lease : Option Directory) :
    Bracketed (taken lease ++ (inner ++ returned lease ++ rest)) := by
  cases lease with
  | none => simpa [taken, returned] using hinner.append hrest
  | some dir =>
    have hnest : Bracketed (.cloned dir :: (inner ++ .removed dir.path :: rest)) := .nest hinner hrest
    simpa [taken, returned] using hnest

theorem bracketed_of_leases_error {error : Error} {trace : List Event}
    (h : Leases (.error error) trace) : Bracketed trace := by
  obtain ⟨lease, rfl⟩ := h
  simpa using Bracketed.nil.leased .nil lease

namespace Walk

variable {σ α β : Type}

/-- The second walk does what the first one does, and keeps events that satisfy `P` together with
the answer. -/
def Records (P : Except Error α → List Event → Prop) (x : Walk σ α)
    (y : Walk (σ × List Event) α) : Prop :=
  ∀ s past, match x s with
    | none => y (s, past) = none
    | some (r, t) => ∃ trace, y (s, past) = some (r, t, past ++ trace) ∧ P r trace

/-- The second walk does what the first one does, and keeps events that are nested. -/
def Brackets (x : Walk σ α) (y : Walk (σ × List Event) α) : Prop :=
  Records (fun _ trace => Bracketed trace) x y

variable {P Q : Except Error α → List Event → Prop} {R : Except Error β → List Event → Prop}
  {x : Walk σ α} {y : Walk (σ × List Event) α} {f : α → Walk σ β}
  {g : α → Walk (σ × List Event) β}

theorem Records.ofAction {action : Action σ α} {recorded : Action (σ × List Event) α}
    (h : Action.Records P action recorded) : Records P (ofAction action) (ofAction recorded) := by
  intro s past
  obtain ⟨trace, hrun, hp⟩ := h s past
  exact ⟨trace, congrArg some hrun, hp⟩

theorem Records.pure {a : α} (h : P (.ok a) []) :
    Records P (Pure.pure a : Walk σ α) (Pure.pure a) := by
  intro s past
  refine ⟨[], ?_, h⟩
  rw [List.append_nil]
  rfl

theorem Records.throw {e : Error} (h : P (.error e) []) :
    Records P (throw e : Walk σ α) (throw e) := by
  intro s past
  refine ⟨[], ?_, h⟩
  rw [List.append_nil]
  rfl

theorem Records.bind {S : α → Except Error β → List Event → Prop} (hx : Records P x y)
    (hf : ∀ a, Records (S a) (f a) (g a))
    (hok : ∀ a r trace trace', P (.ok a) trace → S a r trace' → R r (trace ++ trace'))
    (herror : ∀ e trace, P (.error e) trace → R (.error e) trace) :
    Records R (x >>= f) (y >>= g) := by
  intro s past
  have hfirst := hx s past
  rw [bind_apply]
  rcases hrun : x s with - | ⟨e | a, t⟩
  · rw [hrun] at hfirst
    dsimp only at hfirst ⊢
    rw [bind_apply, hfirst]
  · rw [hrun] at hfirst
    obtain ⟨trace, hy, hp⟩ := hfirst
    exact ⟨trace, by rw [bind_apply, hy], herror e trace hp⟩
  · rw [hrun] at hfirst
    obtain ⟨trace, hy, hp⟩ := hfirst
    have hthen := hf a t (past ++ trace)
    dsimp only
    rcases hrest : f a t with - | ⟨r, u⟩
    · rw [hrest] at hthen
      dsimp only at hthen ⊢
      rw [bind_apply, hy]
      exact hthen
    · rw [hrest] at hthen
      obtain ⟨trace', hg, hs⟩ := hthen
      refine ⟨trace ++ trace', ?_, hok a r trace trace' hp hs⟩
      rw [bind_apply, hy, ← List.append_assoc]
      exact hg

theorem Records.attempt (h : Records P x y) :
    Records (fun r trace => ∃ outcome, r = .ok outcome ∧ P outcome trace) x.attempt y.attempt := by
  intro s past
  have hrun := h s past
  rw [attempt_apply]
  rcases hx : x s with - | ⟨r, t⟩
  · rw [hx] at hrun
    dsimp only at hrun
    rw [Option.map_none, attempt_apply, hrun]
    rfl
  · rw [hx] at hrun
    obtain ⟨trace, hy, hp⟩ := hrun
    exact ⟨trace, by rw [attempt_apply, hy]; rfl, r, rfl, hp⟩

theorem Brackets.bind (hx : Brackets x y) (hf : ∀ a, Brackets (f a) (g a)) :
    Brackets (x >>= f) (y >>= g) :=
  Records.bind hx hf (fun _ _ _ _ h h' => h.append h') fun _ _ h => h

theorem Brackets.pure (a : α) : Brackets (Pure.pure a : Walk σ α) (Pure.pure a) := Records.pure .nil

theorem Brackets.throw (e : Error) : Brackets (throw e : Walk σ α) (throw e) := Records.throw .nil

theorem Brackets.silent {action : Action σ α} {recorded : Action (σ × List Event) α}
    (h : Action.Silent action recorded) : Brackets (ofAction action) (ofAction recorded) := by
  refine Records.ofAction (h.imp ?_)
  rintro r trace rfl
  exact .nil

end Walk

namespace Overlay

variable {σ : Type} {env : Env σ} {visit : Loader → Walk σ Tree}
  {visit' : Loader → Walk (σ × List Event) Tree} {loader child : Loader}

/-- The resolutions of all loaders keep events that are nested. -/
def BracketsBelow (visit : Loader → Walk σ Tree) (visit' : Loader → Walk (σ × List Event) Tree) :
    Prop := ∀ child, (visit child).Brackets (visit' child)

/-- What is kept of the resolution of a child: its subtree, and then the removal of its clone. -/
def Returns (lease : Option Directory) (trace : List Event) : Prop :=
  ∃ inner, Bracketed inner ∧ trace = inner ++ returned lease

/-- What is kept after the answer to a request for a child, by that answer. -/
def ReturnsAfter : Except Error Loader → List Event → Prop
  | .ok child, trace => Returns child.lease trace
  | .error _, trace => Bracketed trace

theorem resolveChild_records (hvisit : BracketsBelow visit visit') (child : Loader) :
    Walk.Records (fun _ trace => Returns child.lease trace) (resolveChild env visit child)
      (resolveChild env.recorded visit' child) := by
  rw [resolveChild, resolveChild]
  have hcleanup := (Loader.cleanup_records env child).attempt
  refine Walk.Records.bind (S := fun _ _ trace => trace = returned child.lease)
    (hvisit child).attempt (fun resolved => ?_) ?_ ?_
  · refine Walk.Records.bind (S := fun _ _ trace => trace = []) (.ofAction hcleanup)
      (fun cleaned => ?_) ?_ ?_
    · cases resolved with
      | ok tree =>
        cases cleaned with
        | ok _ => exact .pure rfl
        | error error => exact .throw rfl
      | error error =>
        cases cleaned with
        | ok _ => exact .throw rfl
        | error removal =>
          have hlog : Action.Silent
              (Action.update (env.log ⟨.warn, .overlay,
                s!"failed to release {child.root}: {removal.message}"⟩))
              (Action.update (env.recorded.log ⟨.warn, .overlay,
                s!"failed to release {child.root}: {removal.message}"⟩)) :=
            .of_eq fun _ _ => rfl
          refine Walk.Records.bind (S := fun _ _ trace => trace = []) (.ofAction hlog)
            (fun _ => .throw rfl) ?_ ?_
          · rintro _ r trace trace' rfl rfl
            rfl
          · rintro e trace rfl
            rfl
    · rintro cleaned r trace trace' ⟨_, -, rfl⟩ rfl
      exact List.append_nil _
    · rintro e trace ⟨_, h, -⟩
      cases h
  · rintro resolved r trace trace' ⟨_, -, hinner⟩ rfl
    exact ⟨trace, hinner, rfl⟩
  · rintro e trace ⟨_, h, -⟩
    cases h

theorem resolveBases_brackets (hvisit : BracketsBelow visit visit') (loader : Loader)
    (bases : List String) :
    (resolveBases env visit loader bases).Brackets
      (resolveBases env.recorded visit' loader bases) := by
  induction bases with
  | nil => exact .pure _
  | cons base bases ih =>
    refine Walk.Records.bind
      (S := fun child _ trace => ∃ inner rest, Bracketed inner ∧ Bracketed rest ∧
        trace = inner ++ returned child.lease ++ rest)
      (.ofAction (Loader.child_records env loader base)) (fun child => ?_) ?_ ?_
    · refine Walk.Records.bind (S := fun _ _ trace => Bracketed trace)
        (resolveChild_records hvisit child) (fun tree => ih.bind fun _ => .pure _) ?_ ?_
      · rintro tree r trace rest ⟨inner, hinner, rfl⟩ hrest
        exact ⟨inner, rest, hinner, hrest, rfl⟩
      · rintro e trace ⟨inner, hinner, rfl⟩
        exact ⟨inner, [], hinner, .nil, by rw [List.append_nil]⟩
    · rintro child r trace trace' rfl ⟨inner, rest, hinner, hrest, rfl⟩
      exact hinner.leased hrest child.lease
    · exact fun e trace h => bracketed_of_leases_error h

theorem resolveResource_brackets (hvisit : BracketsBelow visit visit') (loader : Loader)
    (entry : String) :
    (resolveResource env visit loader entry).Brackets
      (resolveResource env.recorded visit' loader entry) := by
  have hchild := (Loader.child_records env loader entry).attempt
  refine Walk.Records.bind
    (S := fun outcome _ trace => ReturnsAfter outcome trace) (.ofAction hchild) (fun outcome => ?_) ?_ ?_
  · cases outcome with
    | ok child =>
      refine Walk.Records.bind (S := fun _ _ trace => trace = [])
        (resolveChild_records hvisit child) (fun tree => .pure rfl) ?_ ?_
      · rintro tree r trace rest h rfl
        rwa [List.append_nil]
      · exact fun e trace h => h
    | error error =>
      dsimp only
      split
      · have hlog : ∀ size, Action.Silent (reportLoaded env loader entry size)
            (reportLoaded env.recorded loader entry size) := fun size => .of_eq fun _ _ => rfl
        refine Walk.Brackets.bind (.silent (Loader.load_silent loader _)) fun content => ?_
        exact Walk.Brackets.bind (.silent (hlog content.size)) fun _ => .pure _
      · exact Walk.Brackets.throw _
  · rintro outcome r trace trace' ⟨_, hsame, hleases⟩ h
    cases hsame
    cases outcome with
    | ok child =>
      obtain ⟨inner, hinner, rfl⟩ := h
      have hbracketed := hinner.leased .nil child.lease
      rwa [List.append_nil, ← show trace = taken child.lease from hleases] at hbracketed
    | error error => exact (bracketed_of_leases_error hleases).append h
  · rintro e trace ⟨_, h, -⟩
    cases h

theorem resolveResources_brackets (hvisit : BracketsBelow visit visit') (loader : Loader)
    (entries : List String) :
    (resolveResources env visit loader entries).Brackets
      (resolveResources env.recorded visit' loader entries) := by
  induction entries with
  | nil => exact .pure _
  | cons entry entries ih =>
    refine Walk.Brackets.bind (resolveResource_brackets hvisit loader entry) fun found => ?_
    refine ih.bind fun rest => ?_
    cases found with
    | inl tree => exact .pure _
    | inr file => exact .pure _

theorem resolveNode_brackets (hvisit : BracketsBelow visit visit') (loader : Loader) :
    (resolveNode env visit loader).Brackets (resolveNode env.recorded visit' loader) := by
  refine Walk.Brackets.bind (.silent (readFile_silent env loader)) fun file => ?_
  refine Walk.Brackets.bind (.silent (.check _)) fun _ => ?_
  refine Walk.Brackets.bind (resolveBases_brackets hvisit loader file.bases) fun bases => ?_
  exact Walk.Brackets.bind (resolveResources_brackets hvisit loader file.resources) fun _ => .pure _

/-- Resolution clones and removes in nested pairs, however it ends. -/
theorem resolve_brackets (env : Env σ) (bound : Nat) :
    BracketsBelow (resolve env bound) (resolve env.recorded bound) := by
  induction bound with
  | zero => exact fun _ _ _ => rfl
  | succ bound ih => exact resolveNode_brackets ih

/-- The answer of a child by that of its subtree and that of the removal: the failure of a removal
comes after that of the subtree. -/
def settled : Except Error Tree → Except Error Unit → Except Error Tree
  | .ok tree, .ok _ => .ok tree
  | .ok _, .error removal => .error removal
  | .error error, _ => .error error

theorem resolveChild_answer {resolved : Except Error Tree} {s t : σ}
    (h : visit child s = some (resolved, t)) :
    ∃ u, resolveChild env visit child s =
      some (settled resolved (child.cleanup env t).1, u) := by
  rw [resolveChild, Walk.bind_apply, Walk.attempt_apply, h, Option.map_some]
  dsimp only
  rw [Walk.bind_apply, Walk.ofAction_apply, Action.attempt_apply]
  dsimp only
  rcases child.cleanup env t with ⟨removal | done, u⟩
  · cases resolved with
    | ok tree => exact ⟨_, rfl⟩
    | error error => exact ⟨_, rfl⟩
  · cases resolved with
    | ok tree => exact ⟨_, rfl⟩
    | error error => exact ⟨_, rfl⟩

end Overlay

end OverlayChain
