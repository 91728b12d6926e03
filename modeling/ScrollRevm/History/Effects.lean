import ScrollRevm.Instructions

/-!
# What BLOCKHASH does to the host

`BLOCKHASH` acts on the host by three accesses: a load of the account with its delegation, an
SLOAD, and a load in a checkpoint that is reverted. A relation that these keep holds between
the hosts before and after the instruction, however it ends.
-/

namespace ScrollRevm

open FixedWidth StateResult

section Effects

variable {J ε : Type} [JournalTr J ε]

/-- The load of the history account in a checkpoint that is reverted. -/
def isolatedLoad : EStateM (LoadError ε) J (Except (LoadError ε) (StateLoad AccountInfo)) := do
  let checkpoint ← focus id (fun s _ => s) .dbError JournalTr.checkpoint
  let loaded ← attempt (JournalTr.loadAccountInfoSkipColdLoad historyStorageAddress false)
  focus id (fun s _ => s) .dbError (JournalTr.checkpointRevert checkpoint)
  return loaded

/-- The isolated lookup is the isolated load with an SLOAD after it. -/
theorem isolatedHistorySload_eq (index : U256) (skipCold : Bool) :
    isolatedHistorySload (J := J) index skipCold =
      isolatedLoad (J := J) >>= fun loaded =>
        match loaded with
        | .error e => throw e
        | .ok _ => JournalTr.sloadSkipColdLoad historyStorageAddress index skipCold := by
  unfold isolatedHistorySload isolatedLoad
  rw [bind_assoc]
  refine bind_congr fun checkpoint => ?_
  rw [bind_assoc]
  refine bind_congr fun loaded => ?_
  rw [bind_assoc]
  exact bind_congr fun _ => rfl

/-- The isolated load leaves what the revert leaves of the load. -/
theorem exits_isolatedLoad [LawfulJournal J] {R : J → J → Prop}
    (hopened : ∀ j checkpoint j',
      Journal.checkpoint.run (JournalTr.view j) = .ok checkpoint (JournalTr.view j') →
      R j (exitState ((JournalTr.checkpointRevert checkpoint).run (exitState
        ((JournalTr.loadAccountInfoSkipColdLoad historyStorageAddress false).run j'))))) :
    Exits R (isolatedLoad (J := J)) := by
  intro j
  unfold isolatedLoad
  cases hopen : JournalTr.checkpoint.run j with
  | error e j₁ => cases (LawfulJournal.checkpoint (J := J)).error hopen
  | ok checkpoint j₁ =>
    rw [run_bind_of_ok (run_focus_of_ok hopen)]
    have hrevert := hopened j checkpoint j₁ (LawfulJournal.checkpoint.ok hopen)
    -- the load is attempted, so the revert follows whether it fails or not
    obtain ⟨loaded, hloaded⟩ : ∃ loaded, (attempt
        (JournalTr.loadAccountInfoSkipColdLoad historyStorageAddress false)).run j₁ =
          .ok loaded (exitState ((JournalTr.loadAccountInfoSkipColdLoad historyStorageAddress
            false).run j₁)) := by
      cases hload : (JournalTr.loadAccountInfoSkipColdLoad historyStorageAddress false).run j₁ with
      | ok info j₂ => exact ⟨_, run_attempt_of_ok hload⟩
      | error e j₂ => exact ⟨_, run_attempt_of_error hload⟩
    rw [run_bind_of_ok hloaded]
    cases hclose : (JournalTr.checkpointRevert checkpoint).run (exitState
        ((JournalTr.loadAccountInfoSkipColdLoad historyStorageAddress false).run j₁)) with
    | error e j₃ =>
      have hfocus : (focus id (fun s _ => s) LoadError.dbError
          (JournalTr.checkpointRevert checkpoint)).run (exitState
            ((JournalTr.loadAccountInfoSkipColdLoad historyStorageAddress false).run j₁)) =
          .error (.dbError e) j₃ := run_focus_of_error hclose
      rw [hclose] at hrevert
      rw [run_bind_of_error hfocus]
      exact hrevert
    | ok _ j₃ =>
      have hfocus : (focus id (fun s _ => s) LoadError.dbError
          (JournalTr.checkpointRevert checkpoint)).run (exitState
            ((JournalTr.loadAccountInfoSkipColdLoad historyStorageAddress false).run j₁)) =
          .ok () j₃ := run_focus_of_ok hclose
      rw [hclose] at hrevert
      rw [run_bind_of_ok hfocus]
      exact hrevert

/-- A relation of hosts that the accesses of `BLOCKHASH` keep. -/
structure AccessRule (R : J → J → Prop) : Prop where
  refl (j : J) : R j j
  trans (j j' j'' : J) (h : R j j') (h' : R j' j'') : R j j''
  loadAccountDelegated :
    Exits R (JournalTr.loadAccountDelegated (J := J) historyStorageAddress)
  sloadSkipColdLoad (index : U256) (skipCold : Bool) :
    Exits R (JournalTr.sloadSkipColdLoad (J := J) historyStorageAddress index skipCold)
  isolatedLoad : Exits R (isolatedLoad (J := J))

namespace AccessRule

variable {R : J → J → Prop} {α β : Type}

theorem isolatedHistorySload (rule : AccessRule R) (index : U256) (skipCold : Bool) :
    Exits R (isolatedHistorySload (J := J) index skipCold) := by
  rw [isolatedHistorySload_eq]
  refine Exits.bind rule.trans rule.isolatedLoad fun loaded => ?_
  cases loaded with
  | error e => exact .throw rule.refl e
  | ok info => exact rule.sloadSkipColdLoad index skipCold

theorem eip7709HistorySload (rule : AccessRule R) (index : U256) (skipCold : Bool) :
    Exits R (eip7709HistorySload (J := J) index skipCold) := by
  refine Exits.bind rule.trans (rule.sloadSkipColdLoad index skipCold).attempt fun loaded => ?_
  match loaded with
  | .ok value => exact .pure rule.refl value
  | .error (.dbError e) => exact .throw rule.refl _
  | .error .coldLoadSkipped => exact rule.isolatedHistorySload index skipCold

/-- An instruction that keeps the relation between the hosts. -/
abbrev Keeps (R : J → J → Prop) (x : Instruction J α) : Prop :=
  Exits (fun m m' : Machine J => R m.host m'.host) x

theorem bind (rule : AccessRule R) {x : Instruction J α} {f : α → Instruction J β}
    (hx : Keeps R x) (hf : ∀ a, Keeps R (f a)) : Keeps R (x >>= f) :=
  Exits.bind (R := fun m m' : Machine J => R m.host m'.host)
    (fun a b c h h' => rule.trans a.host b.host c.host h h') hx hf

theorem of_host (rule : AccessRule R) {x : Instruction J α}
    (h : ∀ m, (exitState (x.run m)).host = m.host) : Keeps R x := by
  intro m
  rw [h m]
  exact rule.refl m.host

omit [JournalTr J ε] in
theorem onHost {ε' : Type} {x : EStateM ε' J α} (h : Exits R x) (halt : ε' → InstructionResult) :
    Keeps R (onHost halt x) :=
  h.focus fun _ _ => rfl

theorem recordCost (rule : AccessRule R) (cost : U64) : Keeps R (recordCost (J := J) cost) := by
  refine rule.of_host fun m => ?_
  change (exitState (ScrollRevm.recordCost cost m)).host = m.host
  unfold ScrollRevm.recordCost
  cases checkedSub m.gas cost <;> rfl

theorem chargedLookup (rule : AccessRule R) (gasParams : GasParams) (index : U256) :
    Keeps R (chargedLookup (ScrollRevm.eip7709HistorySload (J := J)) gasParams index) := by
  refine rule.bind (rule.recordCost _) fun _ => rule.bind (rule.of_host fun _ => rfl) ?_
  intro remaining
  refine rule.bind (onHost (rule.eip7709HistorySload index _) _) fun value => ?_
  split
  · exact rule.bind (rule.recordCost _) fun _ => rule.of_host fun _ => rfl
  · exact rule.of_host fun _ => rfl

theorem freeLookup (rule : AccessRule R) (index : U256) :
    Keeps R (freeLookup (J := J) index) := by
  refine rule.bind (onHost rule.loadAccountDelegated _) fun _ => ?_
  refine rule.bind (onHost (rule.sloadSkipColdLoad index false) _) fun value => ?_
  exact rule.of_host fun _ => rfl

/-- `BLOCKHASH` keeps the relation. -/
theorem blockhash (rule : AccessRule R) (keccak256 : Bytes → U256) (env : Env) :
    Keeps R (blockhash (J := J) keccak256 env) := by
  have htop : Keeps R (top (J := J)) := by
    refine rule.of_host fun m => ?_
    change (exitState (ScrollRevm.top m)).host = m.host
    unfold ScrollRevm.top
    cases m.stack <;> rfl
  have hset (value : U256) : Keeps R (setTop (J := J) value) := rule.of_host fun _ => rfl
  refine rule.bind htop fun number => ?_
  cases checkedSub env.block.number number with
  | none => exact hset 0
  | some diff =>
    dsimp only
    split
    · exact hset 0
    split
    · exact hset 0
    split
    · exact hset _
    split
    · exact rule.bind (rule.chargedLookup _ _) hset
    · exact rule.bind (rule.freeLookup _) hset

end AccessRule

end Effects

end ScrollRevm
