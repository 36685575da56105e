import OverlayChain.Overlay.Resolve
import OverlayChain.Proofs.Action

/-!
# Running walks

A sequence of two walks runs the first and then, if it answered, the second. Five properties of
walks are kept by sequences, and so by resolution: that they do not lose a property of the state,
that success carries over to related states, that success gives what was promised, that they end
with it, and that they end as another one does.

## Main definitions

- `Walk.Keeps`: a property that the state does not lose.
- `Walk.Transfers`: success from one state gives success from every related state.
- `Walk.Gives`: a walk that gives what it promises, if it answers.
- `Walk.Ends`: a walk that does not run out.
- `Walk.Refines`: a walk that ends as another one does, unless it runs out.

## Main statements

- `Walk.bind_apply`: what a sequence does.
- `Walk.Keeps.bind`, `Walk.Transfers.bind`, `Walk.Gives.bind`, `Walk.Ends.bind`,
  `Walk.Refines.bind`: the rules for sequences.
-/

namespace OverlayChain.Walk

variable {σ α β : Type}

theorem bind_apply (walk : Walk σ α) (f : α → Walk σ β) (s : σ) :
    (walk >>= f) s = match walk s with
      | none => none
      | some (.ok a, t) => f a t
      | some (.error e, t) => some (.error e, t) := by
  change (walk s).bind (fun ended => ExceptT.bindCont f ended.1 ended.2) = _
  rcases walk s with - | ⟨e | a, t⟩
  · rfl
  · rfl
  · rfl

@[simp] theorem pure_apply (a : α) (s : σ) : (pure a : Walk σ α) s = some (.ok a, s) := rfl

@[simp] theorem throw_apply (e : Error) (s : σ) :
    (throw e : Walk σ α) s = some (.error e, s) := rfl

theorem ofAction_apply (action : Action σ α) (s : σ) : ofAction action s = some (action s) := rfl

theorem attempt_apply (walk : Walk σ α) (s : σ) :
    attempt walk s = (walk s).map fun result => (.ok result.1, result.2) := rfl

/-- A sequence answers exactly if both of its walks do. -/
theorem bind_eq_ok_iff {walk : Walk σ α} {f : α → Walk σ β} {s u : σ} {b : β} :
    (walk >>= f) s = some (.ok b, u) ↔
      ∃ a t, walk s = some (.ok a, t) ∧ f a t = some (.ok b, u) := by
  rw [bind_apply]
  rcases walk s with - | ⟨e | a, t⟩
  · simp
  · simp
  · constructor
    · intro h
      exact ⟨a, t, rfl, h⟩
    · rintro ⟨_, _, hfirst, h⟩
      cases hfirst
      exact h

/-- The state has the property afterwards if it had it before, however the walk ends. -/
def Keeps (I : σ → Prop) (walk : Walk σ α) : Prop :=
  ∀ s result t, I s → walk s = some (result, t) → I t

/-- Success from a state gives the same answer from every related state, and leads to related
states. The answer satisfies `Q`. -/
def Transfers (R : σ → σ → Prop) (Q : α → Prop) (walk : Walk σ α) : Prop :=
  ∀ s s' a t, R s s' → walk s = some (.ok a, t) →
    Q a ∧ ∃ t', walk s' = some (.ok a, t') ∧ R t t'

/-- If the walk answers from a state that satisfies `I`, it leads to such a state, and its answer
satisfies `Q`. -/
def Gives (I : σ → Prop) (Q : α → Prop) (walk : Walk σ α) : Prop :=
  ∀ s a t, I s → walk s = some (.ok a, t) → I t ∧ Q a

/-- From states that satisfy `I` the walk does not run out. It ends in such a state, and its answer
satisfies `Q`. -/
def Ends (I : σ → Prop) (Q : α → Prop) (walk : Walk σ α) : Prop :=
  ∀ s, I s → ∃ result t, walk s = some (result, t) ∧ I t ∧ ∀ a, result = .ok a → Q a

/-- The walk ends as the other one does, unless it runs out. -/
def Refines (walk other : Walk σ α) : Prop :=
  ∀ s ended, walk s = some ended → other s = some ended

section Keeps

variable {I : σ → Prop} {walk : Walk σ α} {f : α → Walk σ β}

theorem Keeps.pure (a : α) : (Pure.pure a : Walk σ α).Keeps I := by
  intro s result t hs hrun
  cases hrun
  exact hs

theorem Keeps.throw (e : Error) : (throw e : Walk σ α).Keeps I := by
  intro s result t hs hrun
  cases hrun
  exact hs

theorem Keeps.exhausted : (exhausted : Walk σ α).Keeps I := by
  intro s result t _ hrun
  cases hrun

theorem Keeps.bind (hwalk : walk.Keeps I) (hf : ∀ a, (f a).Keeps I) : (walk >>= f).Keeps I := by
  intro s result u hs hrun
  rw [bind_apply] at hrun
  rcases hfirst : walk s with - | ⟨e | a, t⟩
  · rw [hfirst] at hrun
    cases hrun
  · rw [hfirst] at hrun
    cases hrun
    exact hwalk s _ _ hs hfirst
  · rw [hfirst] at hrun
    exact hf a t result u (hwalk s _ t hs hfirst) hrun

theorem Keeps.ofAction {action : Action σ α} (h : action.Keeps I) : (ofAction action).Keeps I := by
  intro s result t hs hrun
  have ht := h s hs
  rw [ofAction_apply, Option.some.injEq] at hrun
  rwa [hrun] at ht

theorem Keeps.attempt (hwalk : walk.Keeps I) : walk.attempt.Keeps I := by
  intro s result t hs hrun
  rw [attempt_apply] at hrun
  obtain ⟨ended, hended, heq⟩ := Option.map_eq_some_iff.1 hrun
  cases heq
  exact hwalk s _ _ hs hended

end Keeps

section Transfers

variable {R : σ → σ → Prop} {Q : α → Prop} {P : β → Prop} {walk : Walk σ α} {f : α → Walk σ β}

theorem Transfers.pure {a : α} (h : Q a) : (Pure.pure a : Walk σ α).Transfers R Q := by
  intro s s' b t hs hrun
  cases hrun
  exact ⟨h, s', rfl, hs⟩

theorem Transfers.bind (hwalk : walk.Transfers R Q) (hf : ∀ a, Q a → (f a).Transfers R P) :
    (walk >>= f).Transfers R P := by
  intro s s' b u hs hrun
  obtain ⟨a, t, hfirst, hthen⟩ := bind_eq_ok_iff.1 hrun
  obtain ⟨ha, t', hfirst', ht⟩ := hwalk s s' a t hs hfirst
  obtain ⟨hb, u', hthen', hu⟩ := hf a ha t t' b u ht hthen
  exact ⟨hb, u', bind_eq_ok_iff.2 ⟨a, t', hfirst', hthen'⟩, hu⟩

theorem Transfers.ofAction {action : Action σ α}
    (h : ∀ s s' a t, R s s' → action s = (.ok a, t) →
      Q a ∧ ∃ t', action s' = (.ok a, t') ∧ R t t') : (ofAction action).Transfers R Q := by
  intro s s' a t hs hrun
  obtain ⟨ha, t', hrun', ht⟩ := h s s' a t hs (Option.some.inj hrun)
  exact ⟨ha, t', congrArg some hrun', ht⟩

end Transfers

section Gives

variable {I : σ → Prop} {Q : α → Prop} {P : β → Prop} {walk : Walk σ α} {f : α → Walk σ β}

theorem Gives.pure {a : α} (h : Q a) : (Pure.pure a : Walk σ α).Gives I Q := by
  intro s b t hs hrun
  cases hrun
  exact ⟨hs, h⟩

theorem Gives.bind (hwalk : walk.Gives I Q) (hf : ∀ a, Q a → (f a).Gives I P) :
    (walk >>= f).Gives I P := by
  intro s b u hs hrun
  obtain ⟨a, t, hfirst, hthen⟩ := bind_eq_ok_iff.1 hrun
  obtain ⟨ht, ha⟩ := hwalk s a t hs hfirst
  exact hf a ha t b u ht hthen

theorem Gives.ofAction {action : Action σ α}
    (h : ∀ s a t, I s → action s = (.ok a, t) → I t ∧ Q a) : (ofAction action).Gives I Q :=
  fun s a t hs hrun => h s a t hs (Option.some.inj hrun)

end Gives

section Ends

variable {I : σ → Prop} {Q : α → Prop} {P : β → Prop} {walk : Walk σ α} {f : α → Walk σ β}

theorem Ends.pure {a : α} (h : Q a) : (Pure.pure a : Walk σ α).Ends I Q := by
  intro s hs
  refine ⟨_, s, rfl, hs, ?_⟩
  intro b hb
  cases hb
  exact h

theorem Ends.throw (e : Error) : (throw e : Walk σ α).Ends I Q := by
  intro s hs
  refine ⟨_, s, rfl, hs, ?_⟩
  intro b hb
  cases hb

theorem Ends.bind (hwalk : walk.Ends I Q) (hf : ∀ a, Q a → (f a).Ends I P) :
    (walk >>= f).Ends I P := by
  intro s hs
  obtain ⟨result, t, hrun, ht, ha⟩ := hwalk s hs
  rw [bind_apply, hrun]
  cases result with
  | ok a => exact hf a (ha a rfl) t ht
  | error e =>
    refine ⟨_, t, rfl, ht, ?_⟩
    intro b hb
    cases hb

theorem Ends.ofAction {action : Action σ α} (hkeeps : action.Keeps I)
    (h : ∀ s a t, I s → action s = (.ok a, t) → Q a) : (ofAction action).Ends I Q := by
  intro s hs
  refine ⟨(action s).1, (action s).2, rfl, hkeeps s hs, ?_⟩
  intro a ha
  exact h s a _ hs (Prod.ext ha rfl)

theorem Ends.attempt (hwalk : walk.Ends I Q) :
    walk.attempt.Ends I fun result => ∀ a, result = .ok a → Q a := by
  intro s hs
  obtain ⟨result, t, hrun, ht, ha⟩ := hwalk s hs
  refine ⟨.ok result, t, ?_, ht, ?_⟩
  · rw [attempt_apply, hrun]
    rfl
  · intro other hother
    cases hother
    exact ha

end Ends

section Refines

variable {walk other : Walk σ α} {f g : α → Walk σ β}

theorem Refines.refl (walk : Walk σ α) : walk.Refines walk := fun _ _ h => h

theorem Refines.exhausted (other : Walk σ α) : (exhausted : Walk σ α).Refines other := by
  intro s ended h
  cases h

theorem Refines.bind (hwalk : walk.Refines other) (hf : ∀ a, (f a).Refines (g a)) :
    (walk >>= f).Refines (other >>= g) := by
  intro s ended h
  rw [bind_apply] at h ⊢
  rcases hrun : walk s with - | ⟨e | a, t⟩
  · rw [hrun] at h
    cases h
  · rw [hwalk s _ hrun]
    rw [hrun] at h
    exact h
  · rw [hwalk s _ hrun]
    rw [hrun] at h
    exact hf a t ended h

theorem Refines.attempt (hwalk : walk.Refines other) : walk.attempt.Refines other.attempt := by
  intro s ended h
  rw [attempt_apply] at h ⊢
  obtain ⟨result, hrun, hended⟩ := Option.map_eq_some_iff.1 h
  rw [hwalk s result hrun]
  exact congrArg some hended

end Refines

end OverlayChain.Walk
