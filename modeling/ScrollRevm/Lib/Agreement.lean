import ScrollRevm.Lib.StateResult

/-!
# Agreement of two computations

Two computations agree along a relation of their states if from related states they end
alike: both return the same value or both fail with the same error, in related states.
Agreement is closed under sequencing, so that two programs agree where their operations
do, whatever a relation hides.
-/

namespace StateResult

open EStateM

variable {ε ε' σ τ α β : Type}

/-- Two runs that ended alike, in related states. -/
inductive EndAlike (R : σ → τ → Prop) : Result ε σ α → Result ε τ α → Prop
  | ok (a : α) {s : σ} {t : τ} (h : R s t) : EndAlike R (.ok a s) (.ok a t)
  | error (e : ε) {s : σ} {t : τ} (h : R s t) : EndAlike R (.error e s) (.error e t)

/-- From related states the two computations end alike. -/
def Agree (R : σ → τ → Prop) (x : EStateM ε σ α) (y : EStateM ε τ α) : Prop :=
  ∀ s t, R s t → EndAlike R (x.run s) (y.run t)

section Agree

variable {R : σ → τ → Prop} {x : EStateM ε σ α} {y : EStateM ε τ α}

/-- Agreeing computations both return or both fail. -/
theorem Agree.ends (h : Agree R x y) {s : σ} {t : τ} (hst : R s t) :
    (∃ a s' t', x.run s = .ok a s' ∧ y.run t = .ok a t' ∧ R s' t') ∨
      ∃ e s' t', x.run s = .error e s' ∧ y.run t = .error e t' ∧ R s' t' := by
  have hxy := h s t hst
  cases hx : x.run s with
  | ok a s' =>
    cases hy : y.run t with
    | ok b t' =>
      rw [hx, hy] at hxy
      cases hxy with
      | ok _ hst' => exact Or.inl ⟨a, s', t', rfl, rfl, hst'⟩
    | error e t' =>
      rw [hx, hy] at hxy
      cases hxy
  | error e s' =>
    cases hy : y.run t with
    | ok b t' =>
      rw [hx, hy] at hxy
      cases hxy
    | error e' t' =>
      rw [hx, hy] at hxy
      cases hxy with
      | error _ hst' => exact Or.inr ⟨e, s', t', rfl, rfl, hst'⟩

theorem Agree.pure (a : α) :
    Agree R (Pure.pure a : EStateM ε σ α) (Pure.pure a) := fun _ _ h => .ok a h

theorem Agree.throw (e : ε) :
    Agree R (MonadExcept.throw e : EStateM ε σ α) (MonadExcept.throw e) := fun _ _ h => .error e h

/-- Replacing related states by related states. -/
theorem Agree.modify {f : σ → σ} {g : τ → τ} (h : ∀ s t, R s t → R (f s) (g t)) :
    Agree R (modify f : EStateM ε σ Unit) (modify g) := fun s t hst => .ok () (h s t hst)

theorem Agree.bind {f : α → EStateM ε σ β} {g : α → EStateM ε τ β} (h : Agree R x y)
    (hf : ∀ a, Agree R (f a) (g a)) : Agree R (x >>= f) (y >>= g) := by
  intro s t hst
  rcases h.ends hst with ⟨a, s', t', hx, hy, hst'⟩ | ⟨e, s', t', hx, hy, hst'⟩
  · rw [run_bind_of_ok hx, run_bind_of_ok hy]
    exact hf a s' t' hst'
  · rw [run_bind_of_error hx, run_bind_of_error hy]
    exact .error e hst'

theorem Agree.ite {p : Prop} [Decidable p] {x' : EStateM ε σ α} {y' : EStateM ε τ α}
    (h : Agree R x y) (h' : Agree R x' y') :
    Agree R (if p then x else x') (if p then y else y') := by
  by_cases hp : p
  · rwa [if_pos hp, if_pos hp]
  · rwa [if_neg hp, if_neg hp]

theorem Agree.attempt (h : Agree R x y) : Agree R (attempt x) (attempt y) := by
  intro s t hst
  rcases h.ends hst with ⟨a, s', t', hx, hy, hst'⟩ | ⟨e, s', t', hx, hy, hst'⟩
  · rw [run_attempt_of_ok hx, run_attempt_of_ok hy]
    exact .ok _ hst'
  · rw [run_attempt_of_error hx, run_attempt_of_error hy]
    exact .ok _ hst'

/-- Acting on parts of related states that are related too. -/
theorem Agree.focus {σ' τ' : Type} {R' : σ' → τ' → Prop} {get : σ' → σ} {set : σ → σ' → σ'}
    {get' : τ' → τ} {set' : τ → τ' → τ'} (h : Agree R x y) (convert : ε → ε')
    (hget : ∀ s t, R' s t → R (get s) (get' t))
    (hset : ∀ a b s t, R a b → R' s t → R' (set a s) (set' b t)) :
    Agree R' (focus get set convert x) (focus get' set' convert y) := by
  intro s t hst
  rcases h.ends (hget s t hst) with ⟨a, s', t', hx, hy, hst'⟩ | ⟨e, s', t', hx, hy, hst'⟩
  · rw [run_focus_of_ok hx, run_focus_of_ok hy]
    exact .ok a (hset _ _ _ _ hst' hst)
  · rw [run_focus_of_error hx, run_focus_of_error hy]
    exact .error (convert e) (hset _ _ _ _ hst' hst)

/-- Computations agree along related views where what they simulate agrees. -/
theorem Agree.of_simulates {σ' τ' : Type} {view : σ' → σ} {view' : τ' → τ}
    {x' : EStateM ε σ' α} {y' : EStateM ε τ' α} (h : Agree R x y) (hx : Simulates view x' x)
    (hy : Simulates view' y' y) : Agree (fun s t => R (view s) (view' t)) x' y' := by
  intro s t hst
  rcases h.ends hst with ⟨a, s', t', hxs, hyt, hst'⟩ | ⟨e, s', t', hxs, hyt, hst'⟩
  · obtain ⟨s'', hs, rfl⟩ := hx.exists_ok hxs
    obtain ⟨t'', ht, rfl⟩ := hy.exists_ok hyt
    rw [hs, ht]
    exact .ok a hst'
  · obtain ⟨s'', hs, rfl⟩ := hx.exists_error hxs
    obtain ⟨t'', ht, rfl⟩ := hy.exists_error hyt
    rw [hs, ht]
    exact .error e hst'

end Agree

end StateResult
