import OverlayChain.Action

/-!
# Running actions

A sequence of two actions runs the first and then, if it answered, the second in the state that
the first one left.

## Main definitions

- `Action.Keeps`: a property that the state does not lose.
- `Action.Fails`: a property of all failures.
- `Action.Matches`: two actions that end alike.

## Main statements

- `Action.bind_apply`: what a sequence does.
- `Action.bind_eq_ok_iff`: when a sequence answers.
-/

namespace OverlayChain.Action

variable {σ α β : Type}

/-- Two runs ended alike if they have the same result and the same state. -/
@[simp] theorem ended_eq_iff {r r' : Except Error α} {s s' : σ} :
    @Eq (Id (Except Error α × σ)) (r, s) (r', s') ↔ r = r' ∧ s = s' :=
  Prod.mk.injEq r s r' s' ▸ Iff.rfl

@[simp] theorem pure_apply (a : α) (s : σ) : (pure a : Action σ α) s = (.ok a, s) := rfl

@[simp] theorem throw_apply (e : Error) (s : σ) :
    (throw e : Action σ α) s = (.error e, s) := rfl

theorem except_ok_bind {ε : Type} (a : α) (f : α → Except ε β) :
    (Except.ok a >>= f) = f a := rfl

/-- A sequence of two computations answers exactly if both of them do. -/
theorem except_bind_eq_ok_iff {ε : Type} {x : Except ε α} {f : α → Except ε β} {b : β} :
    (x >>= f) = .ok b ↔ ∃ a, x = .ok a ∧ f a = .ok b := by
  cases x with
  | error e =>
    constructor
    · intro h
      cases h
    · rintro ⟨a, h, -⟩
      cases h
  | ok a =>
    constructor
    · intro h
      exact ⟨a, rfl, h⟩
    · rintro ⟨a, h, hf⟩
      cases h
      exact hf

/-- What comes after a check answers exactly if the check passes. -/
theorem except_unit_bind_eq_ok_iff {ε : Type} {x : Except ε Unit} {f : Unit → Except ε β} {b : β} :
    (x >>= f) = .ok b ↔ x = .ok () ∧ f () = .ok b := by
  rw [except_bind_eq_ok_iff]
  constructor
  · rintro ⟨⟨⟩, hx, hf⟩
    exact ⟨hx, hf⟩
  · rintro ⟨hx, hf⟩
    exact ⟨(), hx, hf⟩

/-- A series of checks passes exactly if each of them does. -/
theorem except_forM_eq_ok_iff {ε : Type} (items : List α) (check : α → Except ε Unit) :
    items.forM check = .ok () ↔ ∀ item ∈ items, check item = .ok () := by
  induction items with
  | nil => exact iff_of_true rfl (by simp)
  | cons item items ih =>
    change (check item >>= fun _ => items.forM check) = .ok () ↔ _
    rw [except_unit_bind_eq_ok_iff, List.forall_mem_cons, ih]

theorem bind_apply (x : Action σ α) (f : α → Action σ β) (s : σ) :
    (x >>= f) s = match x s with
      | (.ok a, t) => f a t
      | (.error e, t) => (.error e, t) := by
  change (ExceptT.bindCont f (x s).1) (x s).2 = _
  rcases x s with ⟨e | a, t⟩
  · rfl
  · rfl

/-- A sequence answers exactly if both of its actions do. -/
theorem bind_eq_ok_iff {x : Action σ α} {f : α → Action σ β} {s u : σ} {b : β} :
    (x >>= f) s = (.ok b, u) ↔ ∃ a t, x s = (.ok a, t) ∧ f a t = (.ok b, u) := by
  rw [bind_apply]
  rcases x s with ⟨e | a, t⟩
  · constructor
    · intro h
      cases h
    · rintro ⟨a, t, h, -⟩
      cases h
  · constructor
    · intro h
      exact ⟨a, t, rfl, h⟩
    · rintro ⟨a, t, h, hf⟩
      cases h
      exact hf

/-- An action after one that answered. -/
theorem bind_of_ok {x : Action σ α} {s t : σ} {a : α} (h : x s = (.ok a, t))
    (f : α → Action σ β) : (x >>= f) s = f a t := by
  rw [bind_apply, h]

/-- Nothing happens after an action that failed. -/
theorem bind_of_error {x : Action σ α} {s t : σ} {e : Error} (h : x s = (.error e, t))
    (f : α → Action σ β) : (x >>= f) s = (.error e, t) := by
  rw [bind_apply, h]

/-- A check answers only what the computation answers, and leaves the state alone. -/
theorem check_eq_ok_iff {outcome : Except Error α} {s t : σ} {a : α} :
    check outcome s = (.ok a, t) ↔ outcome = .ok a ∧ s = t := by
  rw [check_apply, Prod.mk.injEq]

/-- The state has the property afterwards if it had it before, however the action ends. -/
def Keeps (I : σ → Prop) (x : Action σ α) : Prop := ∀ s, I s → I (x s).2

/-- Every failure of the action has the property. -/
def Fails (P : Error → Prop) (x : Action σ α) : Prop := ∀ s e t, x s = (.error e, t) → P e

/-- Both actions end in the same state, with the same failure or with related answers. -/
def Matches {γ : Type} (Q : α → γ → Prop) (x : Action σ α) (y : Action σ γ) : Prop :=
  ∀ s, (∃ e t, x s = (.error e, t) ∧ y s = (.error e, t)) ∨
    ∃ a c t, x s = (.ok a, t) ∧ y s = (.ok c, t) ∧ Q a c

variable {I : σ → Prop} {P : Error → Prop} {x : Action σ α} {f : α → Action σ β}

theorem Keeps.pure (a : α) : (Pure.pure a : Action σ α).Keeps I := fun _ hs => hs

theorem Keeps.throw (e : Error) : (throw e : Action σ α).Keeps I := fun _ hs => hs

theorem Keeps.check (outcome : Except Error α) : (check outcome : Action σ α).Keeps I :=
  fun _ hs => hs

theorem Keeps.update {g : σ → σ} (h : ∀ s, I s → I (g s)) : (update g).Keeps I := h

theorem Keeps.attempt (hx : x.Keeps I) : (attempt x).Keeps I := hx

theorem Keeps.bind (hx : x.Keeps I) (hf : ∀ a, (f a).Keeps I) : (x >>= f).Keeps I := by
  intro s hs
  have ht := hx s hs
  rw [bind_apply]
  rcases hrun : x s with ⟨e | a, t⟩
  · rw [hrun] at ht
    exact ht
  · rw [hrun] at ht
    exact hf a t ht

/-- What would come after a failure does not matter. -/
theorem Keeps.throw_bind (e : Error) (f : α → Action σ β) :
    ((MonadExcept.throw e : Action σ α) >>= f).Keeps I := fun _ hs => hs

theorem Fails.pure (a : α) : (Pure.pure a : Action σ α).Fails P := by
  intro s e t h
  cases h

theorem Fails.throw {e : Error} (he : P e) : (throw e : Action σ α).Fails P := by
  intro s e' t h
  cases h
  exact he

theorem Fails.check {outcome : Except Error α} (h : ∀ e, outcome = .error e → P e) :
    (check outcome : Action σ α).Fails P := by
  intro s e t hrun
  cases hrun
  exact h e rfl

theorem Fails.bind (hx : x.Fails P) (hf : ∀ a, (f a).Fails P) : (x >>= f).Fails P := by
  intro s e u h
  rw [bind_apply] at h
  rcases hrun : x s with ⟨e' | a, t⟩
  · rw [hrun] at h
    cases h
    exact hx s e _ hrun
  · rw [hrun] at h
    exact hf a t e u h

section Matches

variable {γ : Type} {Q : β → γ → Prop}

theorem Matches.pure {b : β} {c : γ} (h : Q b c) :
    (Pure.pure b : Action σ β).Matches Q (Pure.pure c) := fun s => .inr ⟨b, c, s, rfl, rfl, h⟩

theorem Matches.throw (e : Error) :
    (MonadExcept.throw e : Action σ β).Matches Q (MonadExcept.throw e) :=
  fun s => .inl ⟨e, s, rfl, rfl⟩

/-- An action answers, up to the relation, as one that it matches. -/
theorem Matches.of_ok {x : Action σ β} {y : Action σ γ} (h : x.Matches Q y) {s t : σ} {b : β}
    (hx : x s = (.ok b, t)) : ∃ c, y s = (.ok c, t) ∧ Q b c := by
  obtain ⟨_, _, hfailed, -⟩ | ⟨_, c, _, hrun, hrun', hbc⟩ := h s
  · rw [hx] at hfailed
    cases hfailed
  · rw [hx] at hrun
    cases hrun
    exact ⟨c, hrun', hbc⟩

/-- An action fails as one that it matches. -/
theorem Matches.of_error {x : Action σ β} {y : Action σ γ} (h : x.Matches Q y) {s t : σ}
    {e : Error} (hx : x s = (.error e, t)) : y s = (.error e, t) := by
  obtain ⟨_, _, hrun, hrun'⟩ | ⟨_, _, _, hanswered, -⟩ := h s
  · rw [hx] at hrun
    cases hrun
    exact hrun'
  · rw [hx] at hanswered
    cases hanswered

/-- What comes after the same action matches, whatever that action answers. -/
theorem Matches.bind (x : Action σ α) {g : α → Action σ γ}
    (h : ∀ a, (f a).Matches Q (g a)) : (x >>= f).Matches Q (x >>= g) := by
  intro s
  rw [bind_apply, bind_apply]
  rcases x s with ⟨e | a, t⟩
  · exact .inl ⟨e, t, rfl, rfl⟩
  · exact h a t

end Matches

end OverlayChain.Action
