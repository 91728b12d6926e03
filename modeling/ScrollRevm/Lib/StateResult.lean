import Mathlib

/-!
# Computations whose state survives an error

`EStateM` without backtracking: a computation ends with a value or an error and in
both cases with a state. Runs of a sequence are taken apart at its first step.
`Exits` relates the entry state of a computation to its exit state, whichever way
it ends, and `Yields` says which value it returns under an invariant. `Simulates`
says that a computation acts on a view of its state as another computation acts on
that view; it is closed under sequencing, so generic code inherits it from the
operations it calls.
-/

namespace StateResult

open EStateM

variable {ε ε' σ τ α β : Type}

/-! ## Runs of a sequence -/

theorem run_bind_of_ok {x : EStateM ε σ α} {f : α → EStateM ε σ β} {s s' : σ} {a : α}
    (h : x.run s = .ok a s') : (x >>= f).run s = (f a).run s' := by
  rw [run_bind, h]

theorem run_bind_of_error {x : EStateM ε σ α} {f : α → EStateM ε σ β} {s s' : σ} {e : ε}
    (h : x.run s = .error e s') : (x >>= f).run s = .error e s' := by
  rw [run_bind, h]

/-- A sequence returns exactly when both of its parts do. -/
theorem run_bind_eq_ok {x : EStateM ε σ α} {f : α → EStateM ε σ β} {s t : σ} {b : β} :
    (x >>= f).run s = .ok b t ↔ ∃ a s', x.run s = .ok a s' ∧ (f a).run s' = .ok b t := by
  rw [run_bind]
  cases h : x.run s with
  | ok a s' =>
    constructor
    · exact fun hf => ⟨a, s', rfl, hf⟩
    · rintro ⟨a', t', heq, hf⟩
      cases heq
      exact hf
  | error e s' =>
    constructor
    · exact fun hf => nomatch hf
    · rintro ⟨_, _, heq, _⟩
      cases heq

/-- A sequence fails in its first part or, after that part returned, in its second. -/
theorem run_bind_eq_error {x : EStateM ε σ α} {f : α → EStateM ε σ β} {s t : σ} {e : ε} :
    (x >>= f).run s = .error e t ↔
      x.run s = .error e t ∨ ∃ a s', x.run s = .ok a s' ∧ (f a).run s' = .error e t := by
  rw [run_bind]
  cases h : x.run s with
  | ok a s' =>
    constructor
    · exact fun hf => Or.inr ⟨a, s', rfl, hf⟩
    · rintro (heq | ⟨a', t', heq, hf⟩)
      · cases heq
      · cases heq
        exact hf
  | error e' s' =>
    constructor
    · intro heq
      cases heq
      exact Or.inl rfl
    · rintro (heq | ⟨_, _, heq, _⟩)
      · cases heq
        rfl
      · cases heq

/-- A guarded failure returns exactly when the guard is off and the rest returns. -/
theorem run_guard_eq_ok {p : Prop} [Decidable p] {e : ε} {f : α → EStateM ε σ β}
    {x : EStateM ε σ β} {s t : σ} {b : β} :
    (if p then (throw e : EStateM ε σ α) >>= f else x).run s = .ok b t ↔
      ¬p ∧ x.run s = .ok b t := by
  by_cases hp : p
  · rw [if_pos hp]
    constructor
    · exact fun h => nomatch h
    · exact fun h => absurd hp h.1
  · rw [if_neg hp]
    exact ⟨fun h => ⟨hp, h⟩, fun h => h.2⟩

/-- A guarded failure fails where the guard is on, and otherwise as the rest fails. -/
theorem run_guard_eq_error {p : Prop} [Decidable p] {e e' : ε} {f : α → EStateM ε σ β}
    {x : EStateM ε σ β} {s t : σ} :
    (if p then (throw e : EStateM ε σ α) >>= f else x).run s = .error e' t ↔
      (p ∧ e = e' ∧ s = t) ∨ (¬p ∧ x.run s = .error e' t) := by
  by_cases hp : p
  · rw [if_pos hp]
    constructor
    · intro h
      cases h
      exact Or.inl ⟨hp, rfl, rfl⟩
    · rintro (⟨-, rfl, rfl⟩ | ⟨hn, -⟩)
      · rfl
      · exact absurd hp hn
  · rw [if_neg hp]
    constructor
    · exact fun h => Or.inr ⟨hp, h⟩
    · rintro (⟨h, -⟩ | ⟨-, h⟩)
      · exact absurd h hp
      · exact h

/-- The exit state of a run. -/
def exitState : Result ε σ α → σ
  | .ok _ s => s
  | .error _ s => s

@[simp] theorem exitState_ok (a : α) (s : σ) : exitState (.ok a s : Result ε σ α) = s := rfl
@[simp] theorem exitState_error (e : ε) (s : σ) :
    exitState (.error e s : Result ε σ α) = s := rfl

/-- Returns the error of a computation as a value. -/
def attempt (x : EStateM ε σ α) : EStateM ε σ (Except ε α) := fun s =>
  match x.run s with
  | .ok a s => .ok (.ok a) s
  | .error e s => .ok (.error e) s

theorem run_attempt_of_ok {x : EStateM ε σ α} {s s' : σ} {a : α} (h : x.run s = .ok a s') :
    (attempt x).run s = .ok (.ok a) s' := by
  change attempt x s = _
  rw [attempt, h]

theorem run_attempt_of_error {x : EStateM ε σ α} {s s' : σ} {e : ε}
    (h : x.run s = .error e s') : (attempt x).run s = .ok (.error e) s' := by
  change attempt x s = _
  rw [attempt, h]

/-! ## Exit relations -/

/-- Every exit state of the computation is related to its entry state. -/
def Exits (R : σ → σ → Prop) (x : EStateM ε σ α) : Prop := ∀ s, R s (exitState (x.run s))

section Exits

variable {R : σ → σ → Prop}

theorem Exits.ok {x : EStateM ε σ α} (h : Exits R x) {s s' : σ} {a : α}
    (hx : x.run s = .ok a s') : R s s' := by
  have hs := h s
  rwa [hx] at hs

theorem Exits.error {x : EStateM ε σ α} (h : Exits R x) {s s' : σ} {e : ε}
    (hx : x.run s = .error e s') : R s s' := by
  have hs := h s
  rwa [hx] at hs

theorem Exits.pure (hrefl : ∀ s, R s s) (a : α) : Exits R (Pure.pure a : EStateM ε σ α) :=
  fun s => hrefl s

theorem Exits.throw (hrefl : ∀ s, R s s) (e : ε) :
    Exits R (MonadExcept.throw e : EStateM ε σ α) := fun s => hrefl s

theorem Exits.bind (htrans : ∀ a b c, R a b → R b c → R a c) {x : EStateM ε σ α}
    {f : α → EStateM ε σ β} (hx : Exits R x) (hf : ∀ a, Exits R (f a)) : Exits R (x >>= f) := by
  intro s
  cases h : x.run s with
  | ok a s' =>
    rw [run_bind_of_ok h]
    exact htrans _ _ _ (hx.ok h) (hf a s')
  | error e s' =>
    rw [run_bind_of_error h]
    exact hx.error h

end Exits

/-- Returning an error as a value keeps the exit state. -/
theorem Exits.attempt {R : σ → σ → Prop} {x : EStateM ε σ α} (h : Exits R x) :
    Exits R (StateResult.attempt x) := by
  intro s
  cases hx : x.run s with
  | ok a s' =>
    rw [run_attempt_of_ok hx]
    exact h.ok hx
  | error e s' =>
    rw [run_attempt_of_error hx]
    exact h.error hx

/-! ## Values that an invariant decides -/

/-- From every state of the invariant the computation returns the value, in such a state. -/
def Yields (inv : σ → Prop) (x : EStateM ε σ α) (a : α) : Prop :=
  ∀ s, inv s → ∃ s', x.run s = .ok a s' ∧ inv s'

theorem Yields.pure (inv : σ → Prop) (a : α) : Yields inv (Pure.pure a : EStateM ε σ α) a :=
  fun s hs => ⟨s, rfl, hs⟩

theorem Yields.bind {inv : σ → Prop} {x : EStateM ε σ α} {f : α → EStateM ε σ β} {a : α} {b : β}
    (hx : Yields inv x a) (hf : Yields inv (f a) b) : Yields inv (x >>= f) b := by
  intro s hs
  obtain ⟨s', hrun, hs'⟩ := hx s hs
  rw [run_bind_of_ok hrun]
  exact hf s' hs'

/-! ## Acting on a part of the state -/

/-- Runs a computation on the part of a state that `get` reads and `set` replaces,
converting its errors. -/
def focus (get : τ → σ) (set : σ → τ → τ) (convert : ε → ε') (x : EStateM ε σ α) :
    EStateM ε' τ α :=
  fun t =>
    match x.run (get t) with
    | .ok a s => .ok a (set s t)
    | .error e s => .error (convert e) (set s t)

section Focus

variable {get : τ → σ} {set : σ → τ → τ} {convert : ε → ε'} {x : EStateM ε σ α}

theorem run_focus (t : τ) :
    (focus get set convert x).run t =
      match x.run (get t) with
      | .ok a s => .ok a (set s t)
      | .error e s => .error (convert e) (set s t) := rfl

theorem run_focus_of_ok {t : τ} {a : α} {s : σ} (h : x.run (get t) = .ok a s) :
    (focus get set convert x).run t = .ok a (set s t) := by rw [run_focus, h]

theorem run_focus_of_error {t : τ} {e : ε} {s : σ} (h : x.run (get t) = .error e s) :
    (focus get set convert x).run t = .error (convert e) (set s t) := by rw [run_focus, h]

theorem run_focus_eq_ok {t t' : τ} {a : α} :
    (focus get set convert x).run t = .ok a t' ↔
      ∃ s, x.run (get t) = .ok a s ∧ t' = set s t := by
  rw [run_focus]
  cases h : x.run (get t) with
  | ok b s =>
    constructor
    · intro heq
      cases heq
      exact ⟨s, rfl, rfl⟩
    · rintro ⟨s', heq, rfl⟩
      cases heq
      rfl
  | error e s =>
    constructor
    · exact fun heq => nomatch heq
    · rintro ⟨_, heq, _⟩
      cases heq

theorem run_focus_eq_error {t t' : τ} {e' : ε'} :
    (focus get set convert x).run t = .error e' t' ↔
      ∃ e s, x.run (get t) = .error e s ∧ e' = convert e ∧ t' = set s t := by
  rw [run_focus]
  cases h : x.run (get t) with
  | ok b s =>
    constructor
    · exact fun heq => nomatch heq
    · rintro ⟨_, _, heq, _⟩
      cases heq
  | error e s =>
    constructor
    · intro heq
      cases heq
      exact ⟨e, s, rfl, rfl, rfl⟩
    · rintro ⟨_, _, heq, rfl, rfl⟩
      cases heq
      rfl

/-- Converting errors first is converting them while acting on a part. -/
theorem focus_mapError :
    focus get set id (focus id (fun s _ => s) convert x) = focus get set convert x := by
  funext t
  change (focus get set id (focus id (fun s _ => s) convert x)).run t =
    (focus get set convert x).run t
  rw [run_focus, run_focus, run_focus, id_eq]
  cases x.run (get t) <;> rfl

theorem focus_pure (hset : ∀ t, set (get t) t = t) (a : α) :
    focus get set convert (Pure.pure a) = Pure.pure a :=
  funext fun t => congrArg (Result.ok a) (hset t)

/-- Acting on a part step by step. -/
theorem focus_bind (hget : ∀ s t, get (set s t) = s) (hset : ∀ a b t, set a (set b t) = set a t)
    (f : α → EStateM ε σ β) :
    focus get set convert (x >>= f) =
      focus get set convert x >>= fun a => focus get set convert (f a) := by
  funext t
  change (focus get set convert (x >>= f)).run t = (focus get set convert x >>= _).run t
  cases hx : x.run (get t) with
  | ok a s =>
    rw [run_bind_of_ok (run_focus_of_ok hx), run_focus, run_bind_of_ok hx, run_focus, hget]
    cases (f a).run s <;> simp only [hset]
  | error e s => rw [run_bind_of_error (run_focus_of_error hx), run_focus, run_bind_of_error hx]

/-- Acting on a part relates the parts of the entry and the exit state. -/
theorem Exits.focus {R : σ → σ → Prop} (h : Exits R x) (hset : ∀ s t, get (set s t) = s) :
    Exits (fun t t' => R (get t) (get t')) (focus get set convert x) := by
  intro t
  have hrun := h (get t)
  rw [run_focus]
  cases hx : x.run (get t) with
  | ok a s =>
    rw [hx] at hrun
    rwa [exitState_ok, hset]
  | error e s =>
    rw [hx] at hrun
    rwa [exitState_error, hset]

end Focus

/-! ## Simulation along a view -/

/-- The result of a run, with its state seen through a view. -/
def mapState (view : σ → τ) : Result ε σ α → Result ε τ α
  | .ok a s => .ok a (view s)
  | .error e s => .error e (view s)

/-- The computation acts on the view of its state as `y` acts on the view. -/
def Simulates (view : σ → τ) (x : EStateM ε σ α) (y : EStateM ε τ α) : Prop :=
  ∀ s, mapState view (x.run s) = y.run (view s)

section Simulates

variable {view : σ → τ} {x : EStateM ε σ α} {y : EStateM ε τ α}

theorem Simulates.ok (h : Simulates view x y) {s s' : σ} {a : α} (hx : x.run s = .ok a s') :
    y.run (view s) = .ok a (view s') := by rw [← h s, hx]; rfl

theorem Simulates.error (h : Simulates view x y) {s s' : σ} {e : ε}
    (hx : x.run s = .error e s') : y.run (view s) = .error e (view s') := by rw [← h s, hx]; rfl

/-- A run of the viewed computation that returns comes from a run that returns. -/
theorem Simulates.exists_ok (h : Simulates view x y) {s : σ} {a : α} {t : τ}
    (hy : y.run (view s) = .ok a t) : ∃ s', x.run s = .ok a s' ∧ view s' = t := by
  have hs := h s
  rw [hy] at hs
  cases hx : x.run s with
  | ok b s' =>
    rw [hx] at hs
    cases hs
    exact ⟨s', rfl, rfl⟩
  | error e s' =>
    rw [hx] at hs
    cases hs

/-- A run of the viewed computation that fails comes from a run that fails. -/
theorem Simulates.exists_error (h : Simulates view x y) {s : σ} {e : ε} {t : τ}
    (hy : y.run (view s) = .error e t) : ∃ s', x.run s = .error e s' ∧ view s' = t := by
  have hs := h s
  rw [hy] at hs
  cases hx : x.run s with
  | ok b s' =>
    rw [hx] at hs
    cases hs
  | error e' s' =>
    rw [hx] at hs
    cases hs
    exact ⟨s', rfl, rfl⟩

/-- A computation simulates itself along the identity. -/
theorem Simulates.refl (x : EStateM ε σ α) : Simulates id x x := by
  intro s
  cases h : x.run s with
  | ok a s' => exact h.symm
  | error e s' => exact h.symm

theorem Simulates.pure (view : σ → τ) (a : α) :
    Simulates view (Pure.pure a : EStateM ε σ α) (Pure.pure a) := fun _ => rfl

theorem Simulates.throw (view : σ → τ) (e : ε) :
    Simulates view (MonadExcept.throw e : EStateM ε σ α) (MonadExcept.throw e) := fun _ => rfl

theorem Simulates.bind {f : α → EStateM ε σ β} {g : α → EStateM ε τ β}
    (h : Simulates view x y) (hf : ∀ a, Simulates view (f a) (g a)) :
    Simulates view (x >>= f) (y >>= g) := by
  intro s
  cases hx : x.run s with
  | ok a s' => rw [run_bind_of_ok hx, run_bind_of_ok (h.ok hx), hf a s']
  | error e s' =>
    rw [run_bind_of_error hx, run_bind_of_error (h.error hx)]
    rfl

theorem Simulates.ite {p : Prop} [Decidable p] {x' : EStateM ε σ α} {y' : EStateM ε τ α}
    (h : Simulates view x y) (h' : Simulates view x' y') :
    Simulates view (if p then x else x') (if p then y else y') := by
  by_cases hp : p
  · rwa [if_pos hp, if_pos hp]
  · rwa [if_neg hp, if_neg hp]

/-- A guarded failure before both sides. -/
theorem Simulates.guard {p : Prop} [Decidable p] {e : ε} {f : β → EStateM ε σ α}
    {g : β → EStateM ε τ α} (h : Simulates view x y) :
    Simulates view (if p then MonadExcept.throw e >>= f else x)
      (if p then MonadExcept.throw e >>= g else y) := by
  by_cases hp : p
  · rw [if_pos hp, if_pos hp]
    exact fun s => rfl
  · rwa [if_neg hp, if_neg hp]

theorem Simulates.attempt (h : Simulates view x y) :
    Simulates view (attempt x) (attempt y) := by
  intro s
  cases hx : x.run s with
  | ok a s' =>
    rw [run_attempt_of_ok hx, run_attempt_of_ok (h.ok hx)]
    rfl
  | error e s' =>
    rw [run_attempt_of_error hx, run_attempt_of_error (h.error hx)]
    rfl

/-- Converting the errors of both sides. -/
theorem Simulates.mapError (h : Simulates view x y) (convert : ε → ε') :
    Simulates view (focus id (fun s _ => s) convert x) (focus id (fun s _ => s) convert y) := by
  intro s
  simp only [run_focus, id_eq]
  cases hx : x.run s with
  | ok a s' =>
    rw [h.ok hx]
    rfl
  | error e s' =>
    rw [h.error hx]
    rfl

/-- Acting on parts of two states that correspond along a view. -/
theorem Simulates.focus {σ' τ' : Type} {view' : σ' → τ'} {get : σ' → σ} {set : σ → σ' → σ'}
    {get' : τ' → τ} {set' : τ → τ' → τ'} (h : Simulates view x y) (convert : ε → ε')
    (hget : ∀ s, view (get s) = get' (view' s))
    (hset : ∀ a s, view' (set a s) = set' (view a) (view' s)) :
    Simulates view' (focus get set convert x) (focus get' set' convert y) := by
  intro s
  rw [run_focus, run_focus, ← hget s]
  cases hx : x.run (get s) with
  | ok a s' =>
    rw [h.ok hx]
    exact congrArg (Result.ok a) (hset s' s)
  | error e s' =>
    rw [h.error hx]
    exact congrArg (Result.error (convert e)) (hset s' s)

/-- The exit states are related by the view. -/
theorem Simulates.exitState_eq (h : Simulates view x y) (s : σ) :
    view (exitState (x.run s)) = exitState (y.run (view s)) := by
  rw [← h s]
  cases x.run s with
  | ok a s' => rfl
  | error e s' => rfl

end Simulates

end StateResult
