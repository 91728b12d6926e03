import ScrollRevm.History.Blockhash
import ScrollRevm.History.Indistinct

/-!
# The fast path of the history read

The history read tries the slot first and loads the account only if the slot is skipped.
Run beside a read that always loads the account in a checkpoint and reverts it, over any
sequence of operations, it shows the same values, errors, gas and warmth at every step.
-/

namespace ScrollRevm

open FixedWidth StateResult ReferenceMainnet

section Reads

variable {ε : Type} {s t : Journal ε}

theorem isolatedHistorySload_agree (index : U256) (skipCold : Bool) :
    Agree Indistinct (isolatedHistorySload (J := Journal ε) index skipCold)
      (isolatedHistorySload index skipCold) := by
  have hset (a b s t : Journal ε) (h : Indistinct a b) (_ : Indistinct s t) : Indistinct a b := h
  refine (checkpoint_agree.focus _ (fun _ _ h => h) hset).bind fun checkpoint => ?_
  refine (loadAccountInfoSkipColdLoad_agree _ _).attempt.bind fun loaded => ?_
  refine ((checkpointRevert_agree checkpoint).focus _ (fun _ _ h => h) hset).bind fun _ => ?_
  cases loaded with
  | error e => exact .throw e
  | ok info => exact sloadSkipColdLoad_agree _ _ _

/-- Rolling a load of the history account back in one journal alone shows nowhere. -/
theorem Indistinct.rollbackLoad (h : Indistinct s t) {account : Account}
    (hs : s.inner.state historyStorageAddress = some account) :
    Indistinct s (t.rollbackLoad historyStorageAddress) := by
  rcases h.cached historyStorageAddress with ⟨hs', -⟩ | ⟨account₁, account', hs', ht, halike⟩
  · rw [hs] at hs'
    cases hs'
  rw [hs] at hs'
  cases hs'
  unfold Journal.rollbackLoad
  rw [ht]
  dsimp only
  rw [← h.transactionId_eq]
  cases hcold : account'.isColdTransactionId s.inner.transactionId with
  | false => exact h
  | true =>
    rw [if_pos rfl]
    have hafter : Alike s.inner.transactionId historyStorageAddress account
        { account'.markWarmWithTransactionId s.inner.transactionId with isCold := true } :=
      ⟨halike.info_eq, halike.storage_eq, halike.isTouched_eq,
        Or.inr ⟨rfl, halike.isColdTransactionId_eq.trans hcold, Bool.or_true _⟩, halike.le, le_rfl⟩
    refine ⟨fun other => ?_, h.journal_eq, h.depth_eq, h.transactionId_eq, h.warmAddresses_eq,
      h.transientStorage_eq, h.database_eq⟩
    rw [Journal.state_setAccount]
    by_cases hother : other = historyStorageAddress
    · subst hother
      rw [Function.update_self, hs]
      exact .some hafter
    · rw [Function.update_of_ne hother]
      exact h.state_alike other

/-- The fast path ends like the isolated load. -/
theorem eip7709HistorySload_agree (index : U256) (skipCold : Bool) :
    Agree Indistinct (eip7709HistorySload (J := Journal ε) index skipCold)
      (isolatedHistorySload index skipCold) := by
  intro s t h
  have hcached {account : Account} (hs : s.inner.state historyStorageAddress = some account) :
      EndAlike Indistinct
        ((Journal.sloadSkipColdLoad historyStorageAddress index skipCold).run s)
        ((isolatedHistorySload index skipCold).run t) := by
    rcases h.cached historyStorageAddress with ⟨hs', -⟩ | ⟨account₁, account', hs', ht, halike⟩
    · rw [hs] at hs'
      cases hs'
    have hreadable : t.Readable historyStorageAddress := fun hnone => by
      rw [ht] at hnone
      cases hnone
    rw [run_isolatedHistorySload hreadable]
    exact sloadSkipColdLoad_agree _ _ _ _ _ (h.rollbackLoad hs)
  cases hstate : s.inner.state historyStorageAddress with
  | none =>
    rw [run_eip7709HistorySload_of_skipped (Journal.run_sloadSkipColdLoad_of_none hstate)]
    exact isolatedHistorySload_agree index skipCold s t h
  | some account =>
    have hends := hcached hstate
    cases hread : (Journal.sloadSkipColdLoad historyStorageAddress index skipCold).run s with
    | ok value s' =>
      rw [run_eip7709HistorySload_of_ok hread, ← hread]
      exact hends
    | error e s' =>
      cases e with
      | dbError e =>
        rw [run_eip7709HistorySload_of_dbError hread, ← hread]
        exact hends
      | coldLoadSkipped =>
        obtain ⟨-, -, rfl⟩ := Journal.sloadSkipColdLoad_skipped hstate hread
        rw [run_eip7709HistorySload_of_skipped hread]
        exact isolatedHistorySload_agree index skipCold _ t h

end Reads

/-! ## The instruction -/

section Instruction

variable {J ε : Type} [JournalTr J ε]

/-- Two states of the journal with indistinct records. -/
def IndistinctView (j j' : J) : Prop := Indistinct (JournalTr.view j) (JournalTr.view j')

/-- An operation ends alike over indistinct records if the documented one does. -/
theorem agree_view {ε' α : Type} {x : EStateM ε' J α} {y : EStateM ε' (Journal ε) α}
    (h : Agree Indistinct y y) (hx : Simulates JournalTr.view x y) :
    Agree IndistinctView x x := h.of_simulates hx hx

/-- Two machines with the same stack and gas over indistinct records. -/
structure IndistinctMachine (machine machine' : Machine J) : Prop where
  stack_eq : machine.stack = machine'.stack
  gas_eq : machine.gas = machine'.gas
  host : IndistinctView machine.host machine'.host

theorem onHost_agree {ε' α : Type} {x y : EStateM ε' J α} (h : Agree IndistinctView x y)
    (halt : ε' → InstructionResult) :
    Agree IndistinctMachine (onHost halt x) (onHost halt y) :=
  h.focus halt (fun _ _ h => h.host) fun _ _ _ _ hhost h => ⟨h.stack_eq, h.gas_eq, hhost⟩

theorem recordCost_agree (cost : U64) :
    Agree (IndistinctMachine (J := J)) (recordCost cost) (recordCost cost) := by
  rintro ⟨stack, gas, host⟩ ⟨stack', gas', host'⟩ h
  obtain rfl : stack = stack' := h.stack_eq
  obtain rfl : gas = gas' := h.gas_eq
  rw [run_recordCost, run_recordCost]
  dsimp only
  cases checkedSub gas cost with
  | none => exact .error _ h
  | some rest => exact .ok () ⟨rfl, rfl, h.host⟩

theorem remainingGas_agree :
    Agree (IndistinctMachine (J := J)) remainingGas remainingGas := by
  intro machine machine' h
  change EndAlike _ (EStateM.Result.ok machine.gas machine)
    (EStateM.Result.ok machine'.gas machine')
  rw [h.gas_eq]
  exact .ok _ h

theorem top_agree : Agree (IndistinctMachine (J := J)) top top := by
  rintro ⟨stack, gas, host⟩ ⟨stack', gas', host'⟩ h
  obtain rfl : stack = stack' := h.stack_eq
  cases stack with
  | nil => exact .error _ h
  | cons value rest => exact .ok value h

theorem setTop_agree (value : U256) :
    Agree (IndistinctMachine (J := J)) (setTop value) (setTop value) :=
  .modify fun _ _ h => ⟨congrArg (fun stack => value :: stack.tail) h.stack_eq, h.gas_eq, h.host⟩

variable [LawfulJournal J]

/-- `BLOCKHASH` ends alike over reads of the slot that end alike. -/
theorem blockhashWith_agree
    {load load' : U256 → Bool → EStateM (LoadError ε) J (StateLoad U256)}
    (hload : ∀ index skipCold, Agree IndistinctView (load index skipCold) (load' index skipCold))
    (keccak256 : Bytes → U256) (env : Env) :
    Agree (IndistinctMachine (J := J)) (blockhashWith load keccak256 env)
      (blockhashWith load' keccak256 env) := by
  have hcharged (index : U256) : Agree (IndistinctMachine (J := J))
      (chargedLookup load env.cfg.gasParams index)
      (chargedLookup load' env.cfg.gasParams index) := by
    refine (recordCost_agree _).bind fun _ => remainingGas_agree.bind fun remaining => ?_
    refine (onHost_agree (hload index _) _).bind fun value => ?_
    exact .ite ((recordCost_agree _).bind fun _ => .pure _) (.pure _)
  have hfree (index : U256) : Agree (IndistinctMachine (J := J)) (freeLookup (J := J) index)
      (freeLookup index) := by
    have hdelegated := agree_view (loadAccountDelegated_agree historyStorageAddress)
      (LawfulJournal.loadAccountDelegated (J := J) _)
    have hread := agree_view (sloadSkipColdLoad_agree historyStorageAddress index false)
      (LawfulJournal.sloadSkipColdLoad (J := J) _ _ _)
    exact (onHost_agree hdelegated _).bind fun _ => (onHost_agree hread _).bind fun _ => .pure _
  refine top_agree.bind fun number => ?_
  cases checkedSub env.block.number number with
  | none => exact setTop_agree _
  | some diff =>
    refine .ite (setTop_agree _) (.ite (setTop_agree _) (.ite (setTop_agree _) ?_))
    exact .ite ((hcharged _).bind fun hash => setTop_agree hash)
      ((hfree _).bind fun hash => setTop_agree hash)

end Instruction

/-! ## Whole runs -/

/-- The operations that can be interleaved with history reads. -/
inductive HistoryOp where
  /-- `BLOCKHASH` of a number with the given gas left. -/
  | blockhash (env : Env) (number : U256) (gas : U64)
  /-- The history read by itself. -/
  | historySload (index : U256) (skipCold : Bool)
  | sload (address : Address) (key : U256) (skipColdLoad : Bool)
  | sstore (address : Address) (key value : U256) (skipColdLoad : Bool)
  | loadAccount (address : Address)
  | loadAccountInfo (address : Address) (skipColdLoad : Bool)
  | transfer (source target : Address) (balance : U256)
  | checkpoint
  | checkpointCommit
  | checkpointRevert
  | warmAccessList (accessList : List (Address × List U256))
  | warmCoinbaseAccount (address : Address)
  | commitTx
  | discardTx

/-- A journal and its open checkpoints, the last one first. -/
structure Session (J : Type) where
  host : J
  checkpoints : List JournalCheckpoint := []

/-- What an operation shows. -/
inductive Observation (ε : Type) where
  | done (result : Except ε Unit)
  | executed (result : Except InstructionResult Unit) (stack : List U256) (gas : U64)
  | slot (result : Except (LoadError ε) (StateLoad U256))
  | account (result : Except ε (StateLoad Account))
  | info (result : Except (LoadError ε) (StateLoad AccountInfo))
  | transferred (result : Except ε (Option TransferError))

section Runs

variable {J ε : Type} [JournalTr J ε]

/-- Runs a journal operation in a session and shows its result. -/
def Session.observe {ε' α : Type} (session : Session J) (x : EStateM ε' J α)
    (observation : Except ε' α → Observation ε) : Observation ε × Session J :=
  match x.run session.host with
  | .ok a host => (observation (.ok a), { session with host })
  | .error e host => (observation (.error e), { session with host })

/-- One operation of a session, with `load` for the history slot. -/
def Session.perform (load : U256 → Bool → EStateM (LoadError ε) J (StateLoad U256))
    (keccak256 : Bytes → U256) (session : Session J) : HistoryOp → Observation ε × Session J
  | .blockhash env number gas =>
    match (blockhashWith load keccak256 env).run ⟨[number], gas, session.host⟩ with
    | .ok _ machine =>
      (.executed (.ok ()) machine.stack machine.gas, { session with host := machine.host })
    | .error halt machine =>
      (.executed (.error halt) machine.stack machine.gas, { session with host := machine.host })
  | .historySload index skipCold => session.observe (load index skipCold) .slot
  | .sload address key skipColdLoad =>
    session.observe (JournalTr.sloadSkipColdLoad address key skipColdLoad) .slot
  | .sstore address key value skipColdLoad =>
    session.observe (JournalTr.sstore address key value skipColdLoad) .slot
  | .loadAccount address => session.observe (JournalTr.loadAccount address) .account
  | .loadAccountInfo address skipColdLoad =>
    session.observe (JournalTr.loadAccountInfoSkipColdLoad address skipColdLoad) .info
  | .transfer source target balance =>
    session.observe (JournalTr.transfer source target balance) .transferred
  | .checkpoint =>
    match JournalTr.checkpoint.run session.host with
    | .ok checkpoint host => (.done (.ok ()), ⟨host, checkpoint :: session.checkpoints⟩)
    | .error e host => (.done (.error e), { session with host })
  | .checkpointCommit =>
    { session with checkpoints := session.checkpoints.tail }.observe
      JournalTr.checkpointCommit .done
  | .checkpointRevert =>
    match session.checkpoints with
    | [] => (.done (.ok ()), session)
    | checkpoint :: rest =>
      { session with checkpoints := rest }.observe (JournalTr.checkpointRevert checkpoint) .done
  | .warmAccessList accessList =>
    session.observe (JournalTr.warmAccessList accessList) .done
  | .warmCoinbaseAccount address =>
    session.observe (JournalTr.warmCoinbaseAccount address) .done
  | .commitTx => { session with checkpoints := [] }.observe JournalTr.commitTx .done
  | .discardTx => { session with checkpoints := [] }.observe JournalTr.discardTx .done

/-- A sequence of operations, and what each of them shows. -/
def Session.run (load : U256 → Bool → EStateM (LoadError ε) J (StateLoad U256))
    (keccak256 : Bytes → U256) : List HistoryOp → Session J → List (Observation ε) × Session J
  | [], session => ([], session)
  | op :: ops, session =>
    let (observation, session) := session.perform load keccak256 op
    let (observations, session) := run load keccak256 ops session
    (observation :: observations, session)

/-- Two sessions with the same open checkpoints over indistinct records. -/
structure IndistinctSession (first second : Session J) : Prop where
  checkpoints_eq : first.checkpoints = second.checkpoints
  host : IndistinctView first.host second.host

variable {first second : Session J}

theorem IndistinctSession.observe (h : IndistinctSession first second) {ε' α : Type}
    {x y : EStateM ε' J α} (hxy : Agree IndistinctView x y)
    (observation : Except ε' α → Observation ε) :
    (first.observe x observation).1 = (second.observe y observation).1 ∧
      IndistinctSession (first.observe x observation).2 (second.observe y observation).2 := by
  unfold Session.observe
  rcases hxy.ends h.host with ⟨a, s', t', hx, hy, h'⟩ | ⟨e, s', t', hx, hy, h'⟩
  · rw [hx, hy]
    exact ⟨rfl, h.checkpoints_eq, h'⟩
  · rw [hx, hy]
    exact ⟨rfl, h.checkpoints_eq, h'⟩

variable [LawfulJournal J]
variable {load load' : U256 → Bool → EStateM (LoadError ε) J (StateLoad U256)}

/-- One operation shows the same and leaves the sessions indistinct. -/
theorem IndistinctSession.perform (h : IndistinctSession first second)
    (hload : ∀ index skipCold, Agree IndistinctView (load index skipCold) (load' index skipCold))
    (keccak256 : Bytes → U256) (op : HistoryOp) :
    (first.perform load keccak256 op).1 = (second.perform load' keccak256 op).1 ∧
      IndistinctSession (first.perform load keccak256 op).2
        (second.perform load' keccak256 op).2 := by
  cases op with
  | blockhash env number gas =>
    have hmachine : IndistinctMachine (J := J) ⟨[number], gas, first.host⟩
      ⟨[number], gas, second.host⟩ := ⟨rfl, rfl, h.host⟩
    simp only [Session.perform]
    rcases (blockhashWith_agree hload keccak256 env).ends hmachine with
      ⟨a, m, m', hx, hy, h'⟩ | ⟨halt, m, m', hx, hy, h'⟩
    · rw [hx, hy]
      dsimp only
      rw [h'.stack_eq, h'.gas_eq]
      exact ⟨rfl, h.checkpoints_eq, h'.host⟩
    · rw [hx, hy]
      dsimp only
      rw [h'.stack_eq, h'.gas_eq]
      exact ⟨rfl, h.checkpoints_eq, h'.host⟩
  | historySload index skipCold => exact h.observe (hload index skipCold) _
  | sload address key skipColdLoad =>
    exact h.observe (agree_view (sloadSkipColdLoad_agree address key skipColdLoad)
      (LawfulJournal.sloadSkipColdLoad _ _ _)) _
  | sstore address key value skipColdLoad =>
    exact h.observe (agree_view (sstore_agree address key value skipColdLoad)
      (LawfulJournal.sstore _ _ _ _)) _
  | loadAccount address =>
    exact h.observe (agree_view (loadAccount_agree address) (LawfulJournal.loadAccount _)) _
  | loadAccountInfo address skipColdLoad =>
    exact h.observe (agree_view (loadAccountInfoSkipColdLoad_agree address skipColdLoad)
      (LawfulJournal.loadAccountInfoSkipColdLoad _ _)) _
  | transfer source target balance =>
    exact h.observe (agree_view (transfer_agree source target balance)
      (LawfulJournal.transfer _ _ _)) _
  | checkpoint =>
    simp only [Session.perform]
    rcases (agree_view checkpoint_agree (LawfulJournal.checkpoint (J := J))).ends h.host with
      ⟨checkpoint, s', t', hx, hy, h'⟩ | ⟨e, s', t', hx, hy, h'⟩
    · rw [hx, hy]
      exact ⟨rfl, congrArg (checkpoint :: ·) h.checkpoints_eq, h'⟩
    · rw [hx, hy]
      exact ⟨rfl, h.checkpoints_eq, h'⟩
  | checkpointCommit =>
    have htail : IndistinctSession { first with checkpoints := first.checkpoints.tail }
        { second with checkpoints := second.checkpoints.tail } :=
      ⟨congrArg List.tail h.checkpoints_eq, h.host⟩
    exact htail.observe (agree_view checkpointCommit_agree LawfulJournal.checkpointCommit) _
  | checkpointRevert =>
    simp only [Session.perform]
    rw [← h.checkpoints_eq]
    cases first.checkpoints with
    | nil => exact ⟨rfl, h⟩
    | cons checkpoint rest =>
      have hrest : IndistinctSession { first with checkpoints := rest }
        { second with checkpoints := rest } := ⟨rfl, h.host⟩
      exact hrest.observe (agree_view (checkpointRevert_agree checkpoint)
        (LawfulJournal.checkpointRevert _)) _
  | warmAccessList accessList =>
    exact h.observe (agree_view (warmAccessList_agree accessList)
      (LawfulJournal.warmAccessList _)) _
  | warmCoinbaseAccount address =>
    exact h.observe (agree_view (warmCoinbaseAccount_agree address)
      (LawfulJournal.warmCoinbaseAccount _)) _
  | commitTx =>
    have hclosed : IndistinctSession { first with checkpoints := [] }
      { second with checkpoints := [] } := ⟨rfl, h.host⟩
    exact hclosed.observe (agree_view commitTx_agree LawfulJournal.commitTx) _
  | discardTx =>
    have hclosed : IndistinctSession { first with checkpoints := [] }
      { second with checkpoints := [] } := ⟨rfl, h.host⟩
    exact hclosed.observe (agree_view discardTx_agree LawfulJournal.discardTx) _

/-- Every sequence of operations shows the same and leaves the sessions indistinct. -/
theorem IndistinctSession.run (h : IndistinctSession first second)
    (hload : ∀ index skipCold, Agree IndistinctView (load index skipCold) (load' index skipCold))
    (keccak256 : Bytes → U256) (ops : List HistoryOp) :
    (first.run load keccak256 ops).1 = (second.run load' keccak256 ops).1 ∧
      IndistinctSession (first.run load keccak256 ops).2 (second.run load' keccak256 ops).2 := by
  induction ops generalizing first second with
  | nil => exact ⟨rfl, h⟩
  | cons op ops ih =>
    obtain ⟨hshown, hnext⟩ := h.perform hload keccak256 op
    obtain ⟨hrest, hlast⟩ := ih hnext
    exact ⟨congrArg₂ List.cons hshown hrest, hlast⟩

theorem agree_view_eip7709HistorySload (index : U256) (skipCold : Bool) :
    Agree IndistinctView (eip7709HistorySload (J := J) index skipCold)
      (isolatedHistorySload index skipCold) :=
  (eip7709HistorySload_agree (ε := ε) index skipCold).of_simulates
    (eip7709HistorySload_simulates index skipCold) (isolatedHistorySload_simulates index skipCold)

/-- No sequence of operations accesses an account in the future of its journal, whichever
way the history slot is read. -/
theorem accessedInPast_run (session : Session J)
    (hpast : (JournalTr.view session.host).AccessedInPast) (keccak256 : Bytes → U256)
    (ops : List HistoryOp) :
    (JournalTr.view (session.run eip7709HistorySload keccak256 ops).2.host).AccessedInPast ∧
      (JournalTr.view (session.run isolatedHistorySload keccak256 ops).2.host).AccessedInPast := by
  have hsession : IndistinctSession session session := ⟨rfl, .refl hpast⟩
  have hisolated (index : U256) (skipCold : Bool) :=
    agree_view (isolatedHistorySload_agree (ε := ε) index skipCold)
      (isolatedHistorySload_simulates (J := J) index skipCold)
  exact ⟨(hsession.run agree_view_eip7709HistorySload keccak256 ops).2.host.accessedInPast,
    (hsession.run hisolated keccak256 ops).2.host.accessedInPast⟩

/-- From the same journal, every sequence of operations shows the same with the fast path
and with the isolated load of the account, and leaves the same accounts, slots and warmth.
Only the access metadata of a cold history account may differ, until its next real load. -/
theorem fast_path_unobservable (session : Session J)
    (hpast : (JournalTr.view session.host).AccessedInPast) (keccak256 : Bytes → U256)
    (ops : List HistoryOp) :
    let fast := session.run eip7709HistorySload keccak256 ops
    let slow := session.run isolatedHistorySload keccak256 ops
    let s := JournalTr.view fast.2.host
    let t := JournalTr.view slow.2.host
    fast.1 = slow.1 ∧ fast.2.checkpoints = slow.2.checkpoints ∧ Indistinct s t ∧
      s.info = t.info ∧
      (∀ address, (s.inner.state address).map Account.storage =
        (t.inner.state address).map Account.storage) ∧
      (∀ address, s.isAccountCold address = t.isAccountCold address) ∧
      (∀ address key, s.isSlotCold address key = t.isSlotCold address key) ∧
      ∀ load s', (Journal.loadAccount historyStorageAddress).run s = .ok load s' →
        (Journal.loadAccount historyStorageAddress).run t = .ok load s' := by
  intro fast slow s t
  have hsession : IndistinctSession session session := ⟨rfl, .refl hpast⟩
  obtain ⟨hshown, hlast⟩ := hsession.run agree_view_eip7709HistorySload keccak256 ops
  have h : Indistinct s t := hlast.host
  exact ⟨hshown, hlast.checkpoints_eq, h, h.info_eq, h.storage_eq, h.isAccountCold_eq,
    h.isSlotCold_eq, fun _ _ hload => h.loadAccount_eq hload⟩

end Runs

/-- Over a journal that is kept across a transaction, a cold lookup without and one with the
fast path, and then a load of the account. -/
theorem fast_path_unobservable_kept :
    let ops : List HistoryOp :=
      [.loadAccount historyStorageAddress, .commitTx, .blockhash (historyEnv 9000) 8999 2100,
        .loadAccount historyStorageAddress]
    let session : Session (Journal Unit) := ⟨historyJournal, []⟩
    (session.run eip7709HistorySload (fun _ => 0) ops).1 =
      (session.run isolatedHistorySload (fun _ => 0) ops).1 := by
  intro ops session
  have hpast : (JournalTr.view session.host).AccessedInPast := fun _ _ hstate => nomatch hstate
  exact (fast_path_unobservable session hpast (fun _ => 0) ops).1

end ScrollRevm
