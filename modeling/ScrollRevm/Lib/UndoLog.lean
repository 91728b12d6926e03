import Mathlib

/-!
# An undo log refines a stack of snapshots

A state that logs how to undo its changes can be returned to any earlier position of its
log. Read through the value it shows, with the open positions beside it, it behaves as a
machine that saves the whole value when a scope is opened and restores it when the scope is
reverted.
-/

/-- States `S` that show a value and log their changes. -/
structure UndoLog (S V : Type) where
  value : S → V
  position : S → Nat
  /-- The second state was reached from the first by logged changes. -/
  Extends : S → S → Prop
  revert : Nat → S → S
  refl (s : S) : Extends s s
  trans {s t u : S} : Extends s t → Extends t u → Extends s u
  /-- Reverting to an earlier position shows the value of then. -/
  value_revert {s t : S} : Extends s t → value (revert (position s) t) = value s
  /-- A reverted state extends what the earlier one extended. -/
  extends_revert {r s t : S} : Extends r s → Extends s t → Extends r (revert (position s) t)

namespace UndoLog

/-- What happens to a shown value: a change, or the end or the start of a scope. -/
inductive Event (V : Type) where
  | change (f : V → V)
  | opened
  | committed
  | reverted

variable {S V : Type}

/-! ## Snapshots -/

/-- A value and the snapshots of the open scopes, the last one first. -/
abbrev Snapshots (V : Type) := V × List V

def Snapshots.step : Event V → Snapshots V → Snapshots V
  | .change f, (value, saved) => (f value, saved)
  | .opened, (value, saved) => (value, value :: saved)
  | .committed, (value, saved) => (value, saved.tail)
  | .reverted, (value, saved) => (saved.headD value, saved.tail)

/-- A sequence of events on snapshots. -/
def Snapshots.run (events : List (Event V)) (snapshots : Snapshots V) : Snapshots V :=
  events.foldl (fun snapshots event => step event snapshots) snapshots

@[simp] theorem Snapshots.run_cons (event : Event V) (events : List (Event V))
    (snapshots : Snapshots V) :
    run (event :: events) snapshots = run events (step event snapshots) := rfl

/-- The value and every snapshot have a property. -/
def Snapshots.All (P : V → Prop) (snapshots : Snapshots V) : Prop :=
  P snapshots.1 ∧ ∀ value ∈ snapshots.2, P value

/-- Only a change can break a property of all snapshots. -/
theorem Snapshots.All.step {P : V → Prop} {event : Event V} {snapshots : Snapshots V}
    (h : snapshots.All P) (hchange : ∀ f, event = .change f → P (f snapshots.1)) :
    (step event snapshots).All P := by
  obtain ⟨hvalue, hsaved⟩ := h
  cases event with
  | change f => exact ⟨hchange f rfl, hsaved⟩
  | opened =>
    refine ⟨hvalue, fun value hmem => ?_⟩
    rcases List.mem_cons.mp hmem with rfl | hmem
    · exact hvalue
    · exact hsaved value hmem
  | committed => exact ⟨hvalue, fun value hmem => hsaved value (List.mem_of_mem_tail hmem)⟩
  | reverted =>
    refine ⟨?_, fun value hmem => hsaved value (List.mem_of_mem_tail hmem)⟩
    rcases snapshots with ⟨value, _ | ⟨last, rest⟩⟩
    · exact hvalue
    · exact hsaved last List.mem_cons_self

/-! ## The log -/

variable (log : UndoLog S V)

/-- The log that shows a part of the value. -/
def map {W : Type} (part : V → W) : UndoLog S W where
  value s := part (log.value s)
  position := log.position
  Extends := log.Extends
  revert := log.revert
  refl := log.refl
  trans := log.trans
  value_revert h := congrArg part (log.value_revert h)
  extends_revert := log.extends_revert

/-- One event on a state and its open positions. -/
inductive Step : Event V → S × List Nat → S × List Nat → Prop
  | change {f : V → V} {s t : S} {positions : List Nat} (h : log.Extends s t)
      (hvalue : log.value t = f (log.value s)) : Step (.change f) (s, positions) (t, positions)
  | opened {s t : S} {positions : List Nat} (h : log.Extends s t)
      (hvalue : log.value t = log.value s) :
    Step .opened (s, positions) (t, log.position s :: positions)
  | committed {s t : S} {position : Nat} {positions : List Nat} (h : log.Extends s t)
      (hvalue : log.value t = log.value s) :
    Step .committed (s, position :: positions) (t, positions)
  | reverted {s : S} {position : Nat} {positions : List Nat} :
    Step .reverted (s, position :: positions) (log.revert position s, positions)

/-- A sequence of events on a state and its open positions. -/
inductive Run : List (Event V) → S × List Nat → S × List Nat → Prop
  | nil (s : S × List Nat) : Run [] s s
  | cons {event : Event V} {events : List (Event V)} {s t u : S × List Nat}
      (h : log.Step event s t) (rest : Run events t u) : Run (event :: events) s u

/-- The open positions are those of states that each extend the one before, and the
snapshots are the values these states showed. -/
inductive Nested (base : S) : List Nat → List V → S → Prop
  | base {s : S} (h : log.Extends base s) : Nested base [] [] s
  | inner {positions : List Nat} {saved : List V} {s t : S} (outer : Nested base positions saved s)
      (h : log.Extends s t) : Nested base (log.position s :: positions) (log.value s :: saved) t

namespace Nested

variable {log} {base s t : S} {positions : List Nat} {saved : List V}

theorem append (h : log.Nested base positions saved s) (hst : log.Extends s t) :
    log.Nested base positions saved t := by
  cases h with
  | base hs => exact .base (log.trans hs hst)
  | inner outer hs => exact .inner outer (log.trans hs hst)

/-- Nested states extend the base. -/
theorem extends_base (h : log.Nested base positions saved s) : log.Extends base s := by
  induction h with
  | base h => exact h
  | inner _ h ih => exact log.trans ih h

/-- One event keeps the nesting and acts on the snapshots. -/
theorem step {event : UndoLog.Event V} {positions' : List Nat}
    (h : log.Nested base positions saved s)
    (hstep : log.Step event (s, positions) (t, positions')) :
    ∃ saved', Snapshots.step event (log.value s, saved) = (log.value t, saved') ∧
      log.Nested base positions' saved' t := by
  cases hstep with
  | change hst hvalue => exact ⟨saved, congrArg (·, saved) hvalue.symm, h.append hst⟩
  | opened hst hvalue =>
    exact ⟨log.value s :: saved, congrArg (·, _) hvalue.symm, .inner h hst⟩
  | committed hst hvalue =>
    cases h with
    | inner outer hs =>
      exact ⟨_, congrArg (·, _) hvalue.symm, outer.append (log.trans hs hst)⟩
  | reverted =>
    cases h with
    | @inner _ _ s₀ _ outer hs =>
      refine ⟨_, congrArg (·, _) (log.value_revert hs).symm, ?_⟩
      cases outer with
      | base hbase => exact .base (log.extends_revert hbase hs)
      | inner outer' hs' => exact .inner outer' (log.extends_revert hs' hs)

/-- One event keeps the nesting and a property of all snapshots that no change breaks. -/
theorem step_all {P : V → Prop} {event : UndoLog.Event V} {positions' : List Nat}
    (h : log.Nested base positions saved s)
    (hstep : log.Step event (s, positions) (t, positions'))
    (hall : Snapshots.All P (log.value s, saved))
    (hchange : ∀ f, event = .change f → P (f (log.value s))) :
    ∃ saved', log.Nested base positions' saved' t ∧ Snapshots.All P (log.value t, saved') := by
  obtain ⟨saved', hsnapshots, hnested⟩ := h.step hstep
  exact ⟨saved', hnested, hsnapshots ▸ hall.step hchange⟩

end Nested

/-- A run of the log shows what the snapshots show, and extends the state it started
from. -/
theorem Run.snapshots {log : UndoLog S V} {events : List (Event V)} {base s t : S}
    {positions positions' : List Nat} {saved : List V}
    (hrun : log.Run events (s, positions) (t, positions'))
    (h : log.Nested base positions saved s) :
    (Snapshots.run events (log.value s, saved)).1 = log.value t ∧ log.Extends base t := by
  induction events generalizing s positions saved with
  | nil =>
    cases hrun
    exact ⟨rfl, h.extends_base⟩
  | cons event events ih =>
    cases hrun with
    | @cons _ _ _ u _ hstep rest =>
      obtain ⟨u, positions₁⟩ := u
      obtain ⟨saved', hsnapshots, hnested⟩ := h.step hstep
      rw [Snapshots.run_cons, hsnapshots]
      exact ih rest hnested

end UndoLog
