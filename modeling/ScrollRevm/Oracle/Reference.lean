import ScrollRevm.Oracle.Steps

/-!
# Frames that write the oracle storage

Frames that close the checkpoints they open are operations of the journal, one after the
other. The reference handler with such frames obeys the law of storage.
-/

namespace ScrollRevm

open FixedWidth StateResult

variable {ε : Type}

theorem FrameStep.run {op : FrameOp} {s t : Journal ε × List JournalCheckpoint}
    (h : FrameStep op s t) : FrameRun [op] s t :=
  .cons h (.nil t)

/-- A computation of frames: one that returns has closed what it opened. -/
structure Bracketed {ε' α : Type} (x : EStateM ε' (Journal ε) α) : Prop where
  ok {s t : Journal ε} {a : α} (checkpoints : List JournalCheckpoint) (h : x.run s = .ok a t) :
    ∃ ops, FrameRun ops (s, checkpoints) (t, checkpoints)
  error {s t : Journal ε} {e : ε'} (checkpoints : List JournalCheckpoint)
    (h : x.run s = .error e t) :
    ∃ ops checkpoints', FrameRun ops (s, checkpoints) (t, checkpoints')

namespace Bracketed

variable {ε' α β : Type}

theorem of_quiet {x : EStateM ε' (Journal ε) α}
    (h : Journal.IsQuiet l1GasPriceOracleAddress x) : Bracketed x :=
  ⟨fun _ hrun => ⟨_, (FrameStep.access (h.ok hrun)).run⟩,
    fun _ hrun => ⟨_, _, (FrameStep.access (h.error hrun)).run⟩⟩

theorem pure (a : α) : Bracketed (Pure.pure a : EStateM ε' (Journal ε) α) :=
  .of_quiet (.pure a)

/-- A write of a slot. -/
theorem sstore (address : Address) (key value : U256) (skipColdLoad : Bool) :
    Bracketed (Journal.sstore (ε := ε) address key value skipColdLoad) :=
  ⟨fun _ hrun => ⟨_, (FrameStep.sstore hrun).run⟩,
    fun _ hrun => ⟨_, _, (FrameStep.access (Journal.sstore_error hrun)).run⟩⟩

theorem bind {x : EStateM ε' (Journal ε) α} {f : α → EStateM ε' (Journal ε) β}
    (hx : Bracketed x) (hf : ∀ a, Bracketed (f a)) : Bracketed (x >>= f) := by
  constructor
  · intro s t b checkpoints h
    obtain ⟨a, s₁, hrun, h₁⟩ := run_bind_eq_ok.mp h
    obtain ⟨ops, hops⟩ := hx.ok checkpoints hrun
    obtain ⟨ops', hops'⟩ := (hf a).ok checkpoints h₁
    exact ⟨_, hops.append hops'⟩
  · intro s t e checkpoints h
    rcases run_bind_eq_error.mp h with hrun | ⟨a, s₁, hrun, h₁⟩
    · exact hx.error checkpoints hrun
    · obtain ⟨ops, hops⟩ := hx.ok checkpoints hrun
      obtain ⟨ops', checkpoints', hops'⟩ := (hf a).error checkpoints h₁
      exact ⟨_, checkpoints', hops.append hops'⟩

/-- Converting errors. -/
theorem mapError {ε'' : Type} {x : EStateM ε' (Journal ε) α} (h : Bracketed x)
    (convert : ε' → ε'') : Bracketed (focus id (fun s _ => s) convert x) := by
  constructor
  · intro s t a checkpoints hrun
    obtain ⟨s', hx, rfl⟩ := run_focus_eq_ok.mp hrun
    exact h.ok checkpoints hx
  · intro s t e checkpoints hrun
    obtain ⟨e', s', hx, -, rfl⟩ := run_focus_eq_error.mp hrun
    exact h.error checkpoints hx

/-- Operations of a journal without open checkpoints. -/
theorem exits {x : EStateM ε' (Journal ε) α} (h : Bracketed x) (s : Journal ε) :
    ∃ ops checkpoints, FrameRun ops (s, []) (exitState (x.run s), checkpoints) := by
  cases hrun : x.run s with
  | ok a t =>
    obtain ⟨ops, hops⟩ := h.ok [] hrun
    exact ⟨ops, [], hops⟩
  | error e t => exact h.error [] hrun

end Bracketed

namespace ReferenceMainnet

/-- A frame: its changes are kept or reverted. -/
def inFrame (accepted : Bool) (body : EStateM (EVMError ε) (Journal ε) Unit) :
    EStateM (EVMError ε) (Journal ε) Unit := do
  let checkpoint ← database Journal.checkpoint
  body
  if accepted then database Journal.checkpointCommit
  else database (Journal.checkpointRevert checkpoint)

/-- A frame closes what it opens. -/
theorem bracketed_inFrame {body : EStateM (EVMError ε) (Journal ε) Unit} (accepted : Bool)
    (h : Bracketed body) : Bracketed (inFrame accepted body) := by
  constructor
  · intro s t _ checkpoints hrun
    obtain ⟨opened, s₁, hopen, h₁⟩ := run_bind_eq_ok.mp hrun
    obtain ⟨_, s₂, hbody, h₂⟩ := run_bind_eq_ok.mp h₁
    obtain ⟨ops, hops⟩ := h.ok (opened :: checkpoints) hbody
    have hstart := (FrameStep.checkpoint (database_ok hopen)).run.append hops
    cases accepted with
    | true => exact ⟨_, hstart.append (FrameStep.checkpointCommit (database_ok h₂)).run⟩
    | false => exact ⟨_, hstart.append (FrameStep.checkpointRevert (database_ok h₂)).run⟩
  · intro s t e checkpoints hrun
    rcases run_bind_eq_error.mp hrun with hopen | ⟨opened, s₁, hopen, h₁⟩
    · cases hopen
    have hstart : FrameRun [.checkpoint] (s, checkpoints) (s₁, opened :: checkpoints) :=
      (FrameStep.checkpoint (database_ok hopen)).run
    rcases run_bind_eq_error.mp h₁ with hbody | ⟨_, s₂, hbody, h₂⟩
    · obtain ⟨ops, checkpoints', hops⟩ := h.error (opened :: checkpoints) hbody
      exact ⟨_, checkpoints', hstart.append hops⟩
    · cases accepted <;> cases h₂

/-! ## The laws -/

variable {frames : Env → U64 → EStateM (EVMError ε) (Journal ε) (FrameResult ReferenceGas)}

theorem isQuiet_database {α : Type} {x : EStateM ε (Journal ε) α} {address : Address}
    (h : Journal.IsQuiet address x) : Journal.IsQuiet address (database x) :=
  Exits.focus h fun _ _ => rfl

theorem isQuiet_validateAgainstStateAndDeductCaller (address : Address) (env : Env) :
    Journal.IsQuiet address (validateAgainstStateAndDeductCaller (ε := ε) env) := by
  intro s
  have hload := isQuiet_database (Journal.isQuiet_loadAccountMut (ε := ε) address env.tx.caller)
  have hbump := isQuiet_database (Journal.isQuiet_bumpNonce (ε := ε) address env.tx.caller)
  cases hrun : (database (Journal.loadAccountMut env.tx.caller)).run s with
  | error e s₁ =>
    rw [validateAgainstStateAndDeductCaller, run_bind_of_error hrun]
    exact hload.error hrun
  | ok caller s₁ =>
    rw [validateAgainstStateAndDeductCaller, run_bind_of_ok hrun]
    refine (hload.ok hrun).trans ?_
    cases hrefusal : refusal env caller.info with
    | some e => exact .refl address s₁
    | none =>
      -- the sender was loaded, so its new balance is logged
      obtain ⟨hstate, -⟩ := Journal.loadAccountMut_ok (database_ok hrun)
      refine (Journal.quiet_setBalance hstate (caller.info.balance - gasFee env)).trans ?_
      cases env.tx.kind.isCall with
      | false => exact .refl address _
      | true => exact (hbump.bind fun _ => .pure ()) _

/-- Loading accounts warms addresses, which no entry undoes. -/
theorem isQuiet_loadAccounts (address : Address) (env : Env) :
    Journal.IsQuiet address (loadAccounts (ε := ε) env) := fun _ =>
  ⟨.of_eq rfl (List.append_nil _).symm (fun _ h => nomatch h) rfl rfl fun _ h => h, rfl⟩

/-- The handler obeys the law of storage where its frames close what they open. -/
theorem lawfulStorage (hframes : ∀ env gas, Bracketed (frames env gas)) :
    LawfulStorage (handler frames) where
  validateAgainstStateAndDeductCaller env := isQuiet_validateAgainstStateAndDeductCaller _ env
  loadAccounts env := isQuiet_loadAccounts _ env
  applyEip7702AuthList _ := Journal.IsQuiet.pure 0
  runExecLoop env gas := (hframes env gas).exits
  reimburseCaller _ _ := isQuiet_database (Journal.isQuiet_balanceIncr _ _ _)
  executionResult_error h := nomatch h

/-! ## A sample -/

/-- Sets a slot of the oracle. -/
def setOracle (key value : U256) : EStateM (EVMError ε) (Journal ε) Unit := do
  let convert : LoadError ε → EVMError ε
    | .coldLoadSkipped => .custom "cold load skipped"
    | .dbError e => .database e
  let _ ← focus id (fun s _ => s) convert
    (Journal.sstore l1GasPriceOracleAddress key value false)

/-- The frames of a call of the oracle, which sets the commit scalar to the calldata after a
first attempt that is reverted. -/
def oracleFrames (env : Env) (gas : U64) :
    EStateM (EVMError ε) (Journal ε) (FrameResult ReferenceGas) := do
  if env.tx.kind = .call l1GasPriceOracleAddress then
    inFrame true do
      let _ ← database (Journal.loadAccount l1GasPriceOracleAddress)
      inFrame false (setOracle l1CommitScalarSlot 0)
      setOracle l1CommitScalarSlot
        (env.tx.input.foldl (fun acc byte => acc * 256 + byte.setWidth 256) 0)
  return ⟨.stop, ⟨gas, gas, 0⟩⟩

theorem bracketed_setOracle (key value : U256) : Bracketed (setOracle (ε := ε) key value) :=
  ((Bracketed.sstore _ key value false).mapError _).bind fun _ => .pure ()

theorem bracketed_oracleFrames (env : Env) (gas : U64) :
    Bracketed (oracleFrames (ε := ε) env gas) := by
  have hload : Bracketed (database (Journal.loadAccount (ε := ε) l1GasPriceOracleAddress)) :=
    .of_quiet (isQuiet_database (Journal.isQuiet_loadAccount _ _))
  unfold oracleFrames
  split
  · refine (bracketed_inFrame true (hload.bind fun _ => ?_)).bind fun _ => .pure _
    exact (bracketed_inFrame false (bracketed_setOracle _ 0)).bind fun _ => bracketed_setOracle _ _
  · exact .pure _

/-- A handler with these frames. -/
def sampleOracleHandler :
    ScrollHandler (Journal Unit) Unit ReferenceGas ReferenceResultGas ReferenceResultGas where
  mainnet := handler oracleFrames

/-- The sample with another target, calldata and nonce. -/
def sampleOracleEnv (target : Address) (data : Bytes) (nonce : U64) : Env :=
  let env := sampleEnv .galileo (.call target) 200
  { env with tx := { env.tx with base := { env.tx.base with data, nonce } } }

end ReferenceMainnet

end ScrollRevm
