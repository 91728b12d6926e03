import ScrollRevm.Oracle.Reference
import ScrollRevm.Settlement.Replay

/-!
# Oracle freshness

The oracle values are held by the chain context, by the journal and by the database. A
history of one EVM says which storage its accepted transactions left; the journal shows that
storage between transactions, whatever it holds itself and whatever only the database does.
A fee-charged transaction is charged with the info of that storage.
-/

namespace ScrollRevm

open FixedWidth StateResult

variable {J ε G R X : Type} [JournalTr J ε] [GasTr G R] [ResultGasTr R]

/-! ## Histories -/

/-- An accepted transaction whose frames did the given operations. -/
inductive Accepted (self : ScrollHandler J ε G R X) (env : Env) (ops : List FrameOp)
    (c c' : Ctx J) : Prop
  | intro {init : InitialAndFloorGas} {refund : U64} {c₁ c₂ : Ctx J} {frame : FrameResult G}
      {checkpoints : List JournalCheckpoint} {x : X}
      (hvalid : self.validate (ε := ε) env = .ok init)
      (hpre : (self.preExecution env).run c = .ok refund c₁)
      (hframe : (mainnetStep (self.mainnet.runExecLoop env
        (env.tx.gasLimit - init.initialGas))).run c₁ = .ok frame c₂)
      (hops : FrameRun ops (c₁.view, []) (c₂.view, checkpoints))
      (hrun : (self.run env).run c = .ok x c')

variable (J ε) in
/-- `finalize`, and `commit` of the state it returns. -/
def finalizeAndCommit : Step J ε Unit := do
  let state ← journalMut JournalTr.finalize
  journalMut (JournalTr.commit state)

/-- A history of one EVM and the oracle storage that its accepted transactions left. It starts
between transactions and runs transactions of all kinds, one after the other. -/
inductive OracleHistory (self : ScrollHandler J ε G R X) : Ctx J → (U256 → U256) → Prop
  | start {c : Ctx J} (h : Journal.AtRest l1GasPriceOracleAddress c.view) :
    OracleHistory self c (c.view.storageAt l1GasPriceOracleAddress)
  | accepted {env : Env} {ops : List FrameOp} {storage : U256 → U256} {c c' : Ctx J}
      (history : OracleHistory self c storage) (h : Accepted self env ops c c') :
    OracleHistory self c' (storageAfter ops storage)
  | rejected {env : Env} {e : EVMError ε} {storage : U256 → U256} {c c' : Ctx J}
      (history : OracleHistory self c storage) (h : (self.run env).run c = .error e c') :
    OracleHistory self c' storage
  | committed {storage : U256 → U256} {c c' : Ctx J} (history : OracleHistory self c storage)
      (h : (finalizeAndCommit J ε).run c = .ok () c') :
    OracleHistory self c' storage

/-! ## One transaction -/

section Transactions

variable [LawfulJournal J] {self : ScrollHandler J ε G R X} {env : Env} {c c' : Ctx J}

omit [GasTr G R] [ResultGasTr R] [LawfulJournal J] in
/-- The frames of a transaction are logged, whether they return or fail. -/
theorem runExecLoop_logged (hs : LawfulStorage self.mainnet) (env : Env) (gas : U64) :
    Exits (fun c c' => Journal.Logged l1GasPriceOracleAddress c.view c'.view)
      (mainnetStep (self.mainnet.runExecLoop env gas)) := by
  have hframes : Exits (fun j j' : J => Journal.Logged l1GasPriceOracleAddress
      (JournalTr.view j) (JournalTr.view j')) (self.mainnet.runExecLoop env gas) := by
    intro j
    obtain ⟨ops, checkpoints, hops⟩ := hs.runExecLoop env gas j
    exact hops.storageAt.2
  exact Ctx.exits_focus hframes

/-- A transaction that fails has logged what it changed. -/
theorem runWithoutCatchError_error (hs : LawfulStorage self.mainnet) {e : EVMError ε}
    (h : (self.runWithoutCatchError env).run c = .error e c') :
    Journal.Logged l1GasPriceOracleAddress c.view c'.view := by
  unfold ScrollHandler.runWithoutCatchError at h
  cases hvalid : self.validate (ε := ε) env with
  | error e' =>
    rw [hvalid] at h
    cases h
    exact .refl _ c.view
  | ok init =>
    rw [hvalid] at h
    have hpre := ScrollHandler.quiet_preExecution env hs
    rcases run_bind_eq_error.mp h with hfail | ⟨refund, c₁, hpre₁, h₁⟩
    · exact (hpre.error hfail).toLogged
    have hlogged₁ := (hpre.ok hpre₁).toLogged
    have hexec := runExecLoop_logged hs env (env.tx.gasLimit - init.initialGas)
    rcases run_bind_eq_error.mp h₁ with hfail | ⟨executed, c₂, hexec₂, h₂⟩
    · rcases run_bind_eq_error.mp hfail with hframe | ⟨_, _, _, hret⟩
      · exact hlogged₁.trans (hexec.error hframe)
      · cases hret
    obtain ⟨frame, c₂', hframe, hret⟩ := run_bind_eq_ok.mp hexec₂
    cases hret
    have hlogged₂ := hlogged₁.trans (hexec.ok hframe)
    have hpost := ScrollHandler.quiet_postExecution env hs
      (ScrollHandler.lastFrameResult env frame) init refund
    rcases run_bind_eq_error.mp h₂ with hfail | ⟨settled, c₃, hpost₃, hresult⟩
    · exact hlogged₂.trans (hpost.error hfail).toLogged
    have hlogged₃ := hlogged₂.trans (hpost.ok hpost₃).toLogged
    obtain ⟨e', j, hrun, rfl, rfl⟩ := run_focus_eq_error.mp hresult
    exact hlogged₃.trans (hs.executionResult_error hrun).toLogged

/-- A run that fails discards what its steps did. -/
theorem run_error_steps {e : EVMError ε} (h : (self.run env).run c = .error e c') :
    ∃ c₁, (self.runWithoutCatchError env).run c = .error e c₁ ∧
      Journal.discardTx.run c₁.view = .ok () c'.view := by
  change self.run env c = .error e c' at h
  unfold ScrollHandler.run at h
  cases hresult : self.runWithoutCatchError env c with
  | ok x c₁ =>
    rw [hresult] at h
    cases h
  | error e₁ c₁ =>
    rw [hresult] at h
    dsimp only at h
    have hrun : Journal.discardTx.run c₁.view = .ok () _ := rfl
    obtain ⟨j, hj, -⟩ := (LawfulJournal.discardTx (J := J) (ε := ε)).exists_ok hrun
    have hdiscard : journalMut (JournalTr.discardTx (J := J)) c₁ = .ok () (c₁.withJournal j) :=
      run_focus_of_ok hj
    rw [hdiscard] at h
    cases h
    exact ⟨c₁, hresult, (LawfulJournal.discardTx (J := J) (ε := ε)).ok hj⟩

/-- A rejected transaction leaves the oracle storage of before. -/
theorem run_error_atRest (hs : LawfulStorage self.mainnet) {e : EVMError ε}
    (hrest : Journal.AtRest l1GasPriceOracleAddress c.view)
    (h : (self.run env).run c = .error e c') :
    Journal.AtRest l1GasPriceOracleAddress c'.view ∧
      c'.view.storageAt l1GasPriceOracleAddress = c.view.storageAt l1GasPriceOracleAddress := by
  obtain ⟨c₁, hsteps, hdiscard⟩ := run_error_steps h
  exact hrest.discardTx oracle_ne_precompile3 (runWithoutCatchError_error hs hsteps) hdiscard

/-- An accepted transaction leaves what the frames it did not revert wrote. -/
theorem Accepted.atRest {ops : List FrameOp} (hm : LawfulMainnet self.mainnet)
    (hs : LawfulStorage self.mainnet) (h : Accepted self env ops c c')
    (hrest : Journal.AtRest l1GasPriceOracleAddress c.view) :
    Journal.AtRest l1GasPriceOracleAddress c'.view ∧
      c'.view.storageAt l1GasPriceOracleAddress =
        storageAfter ops (c.view.storageAt l1GasPriceOracleAddress) := by
  obtain ⟨hvalid, hpre, hframe, hops, hrun⟩ := h
  obtain ⟨init, refund, c₁, frame, c₂, settled, c₃, hvalid', hpre', hframe', hpost, hresult⟩ :=
    run_ok_steps hrun
  cases hvalid.symm.trans hvalid'
  cases hpre.symm.trans hpre'
  cases hframe.symm.trans hframe'
  have hquiet₁ := (ScrollHandler.quiet_preExecution env hs).ok hpre
  obtain ⟨hstorage₂, hlogged₂⟩ := hops.storageAt
  have hquiet₃ := (ScrollHandler.quiet_postExecution env hs _ _ _).ok hpost
  obtain ⟨j, hbuilt, rfl⟩ := run_focus_eq_ok.mp hresult
  have hlogged := (hquiet₁.toLogged.trans hlogged₂).trans hquiet₃.toLogged
  obtain ⟨hrest', hstorage⟩ := hrest.commitTx hlogged (hm.executionResult_ok hbuilt).2
  refine ⟨hrest', hstorage.trans ?_⟩
  rw [hquiet₃.storageAt_eq, hstorage₂, hquiet₁.storageAt_eq]

omit [LawfulJournal J] in
/-- Every transaction that returns is accepted with some operations of its frames. -/
theorem accepted_of_run (hs : LawfulStorage self.mainnet) {x : X}
    (h : (self.run env).run c = .ok x c') : ∃ ops, Accepted self env ops c c' := by
  obtain ⟨init, refund, c₁, frame, c₂, settled, c₃, hvalid, hpre, hframe, -, -⟩ := run_ok_steps h
  obtain ⟨j, hloop, rfl⟩ := run_focus_eq_ok.mp hframe
  obtain ⟨ops, checkpoints, hops⟩ :=
    hs.runExecLoop env (env.tx.gasLimit - init.initialGas) c₁.journal
  rw [hloop] at hops
  exact ⟨ops, ⟨hvalid, hpre, hframe, hops, h⟩⟩

omit [GasTr G R] [ResultGasTr R] in
/-- The state is committed without an error. -/
theorem finalizeAndCommit_total (c : Ctx J) : ∃ c', (finalizeAndCommit J ε).run c = .ok () c' := by
  have hfinal : Journal.finalize.run c.view = .ok c.view.inner.state _ := rfl
  obtain ⟨j₁, hfinalize, -⟩ := (LawfulJournal.finalize (J := J) (ε := ε)).exists_ok hfinal
  have hwrite : (Journal.commit c.view.inner.state).run (JournalTr.view j₁) = .ok () _ := rfl
  obtain ⟨j₂, hcommit, -⟩ :=
    (LawfulJournal.commit (J := J) (ε := ε) c.view.inner.state).exists_ok hwrite
  have hfinalizeStep : (journalMut (JournalTr.finalize (J := J))).run c =
      .ok c.view.inner.state (c.withJournal j₁) := run_focus_of_ok hfinalize
  have hcommitStep : (journalMut (JournalTr.commit (J := J) c.view.inner.state)).run
      (c.withJournal j₁) = .ok () (c.withJournal j₂) := run_focus_of_ok hcommit
  exact ⟨c.withJournal j₂, (run_bind_of_ok hfinalizeStep).trans hcommitStep⟩

omit [GasTr G R] [ResultGasTr R] in
/-- Committing the state keeps the oracle storage. -/
theorem finalizeAndCommit_atRest (hrest : Journal.AtRest l1GasPriceOracleAddress c.view)
    (h : (finalizeAndCommit J ε).run c = .ok () c') :
    Journal.AtRest l1GasPriceOracleAddress c'.view ∧
      c'.view.storageAt l1GasPriceOracleAddress = c.view.storageAt l1GasPriceOracleAddress := by
  obtain ⟨state, c₁, hfinalize, hcommit⟩ := run_bind_eq_ok.mp h
  obtain ⟨j₁, hfinalize₁, rfl⟩ := run_focus_eq_ok.mp hfinalize
  obtain ⟨j₂, hcommit₂, rfl⟩ := run_focus_eq_ok.mp hcommit
  exact hrest.commit (LawfulJournal.finalize.ok hfinalize₁)
    ((LawfulJournal.commit state).ok hcommit₂)

end Transactions

/-! ## Whole histories -/

section Histories

variable [LawfulJournal J] {self : ScrollHandler J ε G R X} {storage : U256 → U256} {c : Ctx J}

/-- Between transactions the journal shows the oracle storage that the accepted ones left. -/
theorem OracleHistory.shows (hm : LawfulMainnet self.mainnet) (hs : LawfulStorage self.mainnet)
    (history : OracleHistory self c storage) :
    Journal.AtRest l1GasPriceOracleAddress c.view ∧
      c.view.storageAt l1GasPriceOracleAddress = storage := by
  induction history with
  | start h => exact ⟨h, rfl⟩
  | accepted _ h ih =>
    obtain ⟨hrest, hstorage⟩ := h.atRest hm hs ih.1
    exact ⟨hrest, hstorage.trans (congrArg _ ih.2)⟩
  | rejected _ h ih =>
    obtain ⟨hrest, hstorage⟩ := run_error_atRest hs ih.1 h
    exact ⟨hrest, hstorage.trans ih.2⟩
  | committed _ h ih =>
    obtain ⟨hrest, hstorage⟩ := finalizeAndCommit_atRest ih.1 h
    exact ⟨hrest, hstorage.trans ih.2⟩

/-- What a caller does with one EVM. -/
inductive EvmCall where
  | transactOne (env : Env)
  | finalizeAndCommit

/-- The context a call leaves, whether it returns or fails. -/
def ScrollHandler.call (self : ScrollHandler J ε G R X) (c : Ctx J) : EvmCall → Ctx J
  | .transactOne env => exitState ((self.run env).run c)
  | .finalizeAndCommit => exitState ((ScrollRevm.finalizeAndCommit J ε).run c)

/-- Every sequence of calls continues a history. -/
theorem OracleHistory.calls (hs : LawfulStorage self.mainnet)
    (history : OracleHistory self c storage) (calls : List EvmCall) :
    ∃ storage', OracleHistory self (calls.foldl self.call c) storage' := by
  induction calls generalizing c storage with
  | nil => exact ⟨storage, history⟩
  | cons call rest ih =>
    rw [List.foldl_cons]
    cases call with
    | transactOne env =>
      cases hrun : (self.run env).run c with
      | ok x c' =>
        obtain ⟨ops, haccepted⟩ := accepted_of_run hs hrun
        have hcall : self.call c (.transactOne env) = c' := congrArg exitState hrun
        rw [hcall]
        exact ih (history.accepted haccepted)
      | error e c' =>
        have hcall : self.call c (.transactOne env) = c' := congrArg exitState hrun
        rw [hcall]
        exact ih (history.rejected hrun)
    | finalizeAndCommit =>
      obtain ⟨c', hrun⟩ := finalizeAndCommit_total (ε := ε) c
      have hcall : self.call c .finalizeAndCommit = c' := congrArg exitState hrun
      rw [hcall]
      exact ih (history.committed hrun)

end Histories

/-! ## The info a transaction is charged with -/

section Freshness

/-- The chain context holds the info of an oracle storage: what `try_fetch` reads from every
database that holds this storage. -/
structure FetchedFrom (J : Type) {ε : Type} [JournalTr J ε] (storage : U256 → U256)
    (spec : ScrollSpecId) (chain : ScrollChainContext) : Prop where
  l1BlockInfo_eq : chain.l1BlockInfo = oracleInfo storage spec
  tryFetch_eq (j : J)
    (h : ∀ slot, (JournalTr.view j).database.storage l1GasPriceOracleAddress slot =
      .ok (storage slot)) :
    ∃ j', (L1BlockInfo.tryFetch spec).run j = .ok chain.l1BlockInfo j'

variable [LawfulJournal J] {self : ScrollHandler J ε G R X} {storage : U256 → U256} {env : Env}
  {c c₁ : Ctx J}

omit [GasTr G R] [ResultGasTr R] in
theorem fetchedFrom_oracleInfo {spec : ScrollSpecId} {chain : ScrollChainContext}
    (h : chain.l1BlockInfo = oracleInfo storage spec) : FetchedFrom J storage spec chain := by
  refine ⟨h, fun j hdatabase => ?_⟩
  have hread (slot : U256) : Yields (fun k : J => JournalTr.view k = JournalTr.view j)
      (JournalTr.databaseStorage (ε := ε) l1GasPriceOracleAddress slot) (storage slot) := by
    intro k hk
    have hrun : (Journal.databaseStorage l1GasPriceOracleAddress slot).run (JournalTr.view k) =
        .ok (storage slot) (JournalTr.view k) := by
      change Journal.databaseStorage _ _ _ = _
      unfold Journal.databaseStorage
      rw [hk, hdatabase slot]
    obtain ⟨k', hk', hview⟩ :=
      (LawfulJournal.databaseStorage (J := J) l1GasPriceOracleAddress slot).exists_ok hrun
    exact ⟨k', hk', hview.trans hk⟩
  obtain ⟨j', hrun, -⟩ := tryFetchWith_yields hread spec j rfl
  rw [h]
  exact ⟨j', hrun⟩

omit [GasTr G R] [ResultGasTr R] in
/-- A refresh over a database that answers returns. -/
theorem refreshL1BlockInfo_total (hanswers : c.view.database.Answers) :
    ∃ c', (ScrollHandler.refreshL1BlockInfo (ε := ε) env).run c = .ok () c' := by
  have hread (slot : U256) : Yields (fun j : J => JournalTr.view j = c.view)
      (oracleStorage (ε := ε) slot) (c.view.storageAt l1GasPriceOracleAddress slot) := by
    intro j hj
    have hrun := oracleStorage_run (ε := ε) slot j
    cases hresult : (oracleStorage (ε := ε) slot).run j with
    | ok value j' =>
      rw [hresult] at hrun
      rw [← hj, ← hrun.2]
      exact ⟨j', rfl, hrun.1⟩
    | error e j' =>
      rw [hresult] at hrun
      obtain ⟨value, hvalue⟩ := hanswers.storage l1GasPriceOracleAddress slot
      rw [← hj, hrun.2.2] at hvalue
      cases hvalue
  obtain ⟨j, hfetch, -⟩ := tryFetchWith_yields hread env.cfg.spec c.journal rfl
  have hstep : (journalMut (L1BlockInfo.tryFetchFromJournal (J := J) env.cfg.spec)).run c =
      .ok _ (c.withJournal j) := run_focus_of_ok hfetch
  unfold ScrollHandler.refreshL1BlockInfo
  split
  · exact ⟨_, run_bind_of_ok hstep⟩
  · exact ⟨c, rfl⟩

omit [GasTr G R] [ResultGasTr R] [LawfulJournal J] in
theorem l1BlockInfo_refreshedChain (hcharged : env.tx.isFeeCharged = true)
    (hstorage : c.view.storageAt l1GasPriceOracleAddress = storage) :
    (refreshedChain env c).l1BlockInfo = oracleInfo storage env.cfg.spec := by
  rw [refreshedChain, if_pos hcharged, hstorage]

/-- **Oracle freshness.** After any history a fee-charged transaction is charged, and rewards
the beneficiary, with the info of the oracle storage that the accepted transactions left.
Fetching it shows no change of the journal, whether it returns or fails. -/
theorem oracle_freshness (hm : LawfulMainnet self.mainnet) (hs : LawfulStorage self.mainnet)
    (history : OracleHistory self c storage) (hcharged : env.tx.isFeeCharged = true) :
    (exitState ((ScrollHandler.refreshL1BlockInfo (ε := ε) env).run c)).view = c.view ∧
      (c.view.database.Answers →
        ∃ c₁, (ScrollHandler.refreshL1BlockInfo (ε := ε) env).run c = .ok () c₁) ∧
      (∀ c₁, (ScrollHandler.refreshL1BlockInfo (ε := ε) env).run c = .ok () c₁ →
        FetchedFrom J storage env.cfg.spec c₁.chain) ∧
      ∀ x c', (self.run env).run c = .ok x c' → ∃ refund c₁ l1Cost,
        (self.preExecution env).run c = .ok refund c₁ ∧
          FetchedFrom J storage env.cfg.spec c₁.chain ∧
          PreExecuted self.mainnet env c c₁ l1Cost ∧ c'.chain = c₁.chain := by
  obtain ⟨-, hstorage⟩ := history.shows hm hs
  have hinfo := l1BlockInfo_refreshedChain hcharged hstorage
  refine ⟨ScrollHandler.refreshL1BlockInfo_exits env c, refreshL1BlockInfo_total, ?_, ?_⟩
  · intro c₁ hrefresh
    obtain ⟨-, hchain⟩ := refreshL1BlockInfo_ok hrefresh
    exact fetchedFrom_oracleInfo ((congrArg _ hchain).trans hinfo)
  · intro x c' hrun
    obtain ⟨init, refund, c₁, frame, c₂, settled, c₃, hvalid, hpre, hframe, hpost, hresult⟩ :=
      run_ok_steps hrun
    obtain ⟨hmsg, -⟩ := ScrollTransaction.isFeeCharged_iff.mp hcharged
    obtain ⟨l1Cost, hexecuted⟩ := preExecution_ok hm (validate_ok hm hvalid).1 hmsg hpre
    refine ⟨refund, c₁, l1Cost, hpre,
      fetchedFrom_oracleInfo ((congrArg _ hexecuted.chain_eq).trans hinfo), hexecuted, ?_⟩
    obtain ⟨j₂, -, rfl⟩ := run_focus_eq_ok.mp hframe
    obtain ⟨-, c₄, hreimburse, hreward⟩ := ScrollHandler.postExecution_split hpost
    have hchain₄ := (ScrollHandler.reimburseCaller_ok hm hmsg hreimburse).chain_eq
    have hcost : L1CostIs env c₄.chain l1Cost := by
      rw [hchain₄]
      exact hexecuted.l1Cost_is
    rw [ScrollHandler.rewardBeneficiary_eq hmsg hcost] at hreward
    obtain ⟨j₅, -, rfl⟩ := run_focus_eq_ok.mp hreward
    obtain ⟨j₆, -, rfl⟩ := run_focus_eq_ok.mp hresult
    exact hchain₄

end Freshness

section Sample

open ReferenceMainnet

/-- A call that raises the commit scalar, after which a transaction with a used nonce is
rejected. -/
def sampleUpdates : List EvmCall :=
  [.transactOne (sampleOracleEnv l1GasPriceOracleAddress [0x17, 0x48, 0x76, 0xe8, 0x00] 7),
    .transactOne (sampleOracleEnv 5 [] 7)]

/-- The context these calls leave. -/
def sampleUpdated : Ctx (Journal Unit) :=
  sampleUpdates.foldl sampleOracleHandler.call ⟨sampleJournal 1000000, {}⟩

/-- The next transaction is charged with the new scalar, which the database does not hold. -/
theorem oracle_freshness_updated : ∃ storage x c' refund c₁ l1Cost,
    OracleHistory sampleOracleHandler sampleUpdated storage ∧
      storage l1CommitScalarSlot = 100000000000 ∧
      sampleUpdated.view.database.slot l1GasPriceOracleAddress l1CommitScalarSlot =
        50000000000 ∧
      (sampleOracleHandler.run (sampleOracleEnv 5 [] 8)).run sampleUpdated = .ok x c' ∧
      (sampleOracleHandler.preExecution (sampleOracleEnv 5 [] 8)).run sampleUpdated =
        .ok refund c₁ ∧
      FetchedFrom (Journal Unit) storage .galileo c₁.chain ∧
      PreExecuted sampleOracleHandler.mainnet (sampleOracleEnv 5 [] 8) sampleUpdated c₁ l1Cost := by
  have hlawful : LawfulMainnet sampleOracleHandler.mainnet := lawful
  have hstorage : LawfulStorage sampleOracleHandler.mainnet := lawfulStorage bracketed_oracleFrames
  have hrest : Journal.AtRest l1GasPriceOracleAddress
      (Ctx.view ⟨sampleJournal 1000000, {}⟩ : Journal Unit) := ⟨rfl, fun _ => rfl⟩
  obtain ⟨storage, history⟩ := (OracleHistory.start hrest).calls hstorage sampleUpdates
  have hshows := congrFun (history.shows hlawful hstorage).2 l1CommitScalarSlot
  have hvalue : sampleUpdated.view.storageAt l1GasPriceOracleAddress l1CommitScalarSlot =
      100000000000 := by decide +kernel
  obtain ⟨x, c', hrun⟩ : ∃ x c', (sampleOracleHandler.run (sampleOracleEnv 5 [] 8)).run
      sampleUpdated = .ok x c' := ⟨_, _, rfl⟩
  have hcharged : (sampleOracleEnv 5 [] 8).tx.isFeeCharged = true := rfl
  obtain ⟨-, -, -, hfresh⟩ := oracle_freshness hlawful hstorage history hcharged
  obtain ⟨refund, c₁, l1Cost, hpre, hfetched, hexecuted, -⟩ := hfresh x c' hrun
  exact ⟨storage, x, c', refund, c₁, l1Cost, history, hshows.symm.trans hvalue, by decide +kernel,
    hrun, hpre, hfetched, hexecuted⟩

end Sample

end ScrollRevm
