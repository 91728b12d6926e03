import ScrollRevm.Fee.Fetch
import ScrollRevm.Settlement.Charge

/-!
# What precedes execution

Reading the oracle shows no change of the journal, and an accepted transaction that is
no L1 message leaves pre-execution with exactly the charge: the steps after the deduction
move no balance and lower no nonce.
-/

namespace ScrollRevm

open FixedWidth StateResult

variable {J ε G R X : Type} [JournalTr J ε]

/-! ## Validated transactions -/

section Validated

variable [GasTr G R] {self : ScrollHandler J ε G R X} {env : Env}

omit [JournalTr J ε] [GasTr G R] in
/-- Every Scroll hardfork maps to Shanghai, which has no blob transactions. -/
theorem validateTxType_eip4844 (self : ScrollHandler J ε G R X) (env : Env)
    (baseFee : Option U128) :
    self.validateTxType env .eip4844 baseFee = .error .eip4844NotSupported := by
  simp only [ScrollHandler.validateTxType, ScrollSpecId.intoEthSpecId_eq]
  rfl

/-- A validated transaction is no blob transaction. -/
theorem validateEnv_ok (hm : LawfulMainnet self.mainnet)
    (h : self.validateEnv (ε := ε) env = .ok ()) :
    TransactionType.ofU8 env.tx.txType ≠ .eip4844 := by
  intro htype
  unfold ScrollHandler.validateEnv at h
  split at h
  · cases h
  split at h
  · cases h
  rename_i htx
  unfold ScrollHandler.validateTxEnv at htx
  rw [hm.transactionType, htype] at htx
  simp only [validateTxType_eip4844, bind, Except.bind, throw, throwThe, MonadExceptOf.throw]
    at htx
  split at htx
  · cases htx
  · split at htx
    · split at htx <;> cases htx
    · cases htx

theorem validate_ok {init : InitialAndFloorGas} (hm : LawfulMainnet self.mainnet)
    (h : self.validate (ε := ε) env = .ok init) :
    TransactionType.ofU8 env.tx.txType ≠ .eip4844 ∧
      ScrollHandler.validateInitialTxGas env = .ok init := by
  unfold ScrollHandler.validate at h
  split at h
  · cases h
  · rename_i henv
    refine ⟨validateEnv_ok hm henv, ?_⟩
    split at h
    · cases h
    · rename_i hgas
      cases h
      exact hgas

end Validated

/-! ## Reading the oracle -/

section Oracle

variable [LawfulJournal J] {env : Env} {c c' : Ctx J}

/-- Reading an oracle slot returns the value the journal shows and changes nothing. -/
theorem oracleStorage_run (slot : U256) (j : J) :
    match (oracleStorage slot).run j with
    | .ok value j' => JournalTr.view j' = JournalTr.view j ∧
        value = (JournalTr.view j).storageAt l1GasPriceOracleAddress slot
    | .error e j' => JournalTr.view j' = JournalTr.view j ∧
        (JournalTr.view j).journaled l1GasPriceOracleAddress slot = none ∧
        (JournalTr.view j).database.storage l1GasPriceOracleAddress slot = .error e := by
  have hjournaled := LawfulJournal.journaled (ε := ε) j l1GasPriceOracleAddress slot
  have hdatabase := LawfulJournal.databaseStorage (J := J) (ε := ε) l1GasPriceOracleAddress slot
  have hget : (get : EStateM ε J J).run j = .ok j j := rfl
  cases hvalue : (JournalTr.view j).journaled l1GasPriceOracleAddress slot with
  | some value =>
    have hrun : (oracleStorage slot).run j = .ok value j := by
      rw [oracleStorage, run_bind_of_ok hget, hjournaled, hvalue]
      rfl
    rw [hrun]
    exact ⟨rfl, by rw [Journal.storageAt, hvalue, Option.getD_some]⟩
  | none =>
    have hrun : (oracleStorage slot).run j =
        (JournalTr.databaseStorage l1GasPriceOracleAddress slot).run j := by
      rw [oracleStorage, run_bind_of_ok hget, hjournaled, hvalue]
    rw [hrun]
    cases hread : (JournalTr.databaseStorage l1GasPriceOracleAddress slot).run j with
    | ok value j' =>
      have href := hdatabase.ok hread
      change Journal.databaseStorage _ _ _ = _ at href
      unfold Journal.databaseStorage at href
      split at href
      · rename_i value' hstorage
        injection href with hvalue' hview
        subst hvalue'
        refine ⟨hview.symm, ?_⟩
        rw [Journal.storageAt, hvalue, Option.getD_none, Database.slot, hstorage]
      · cases href
    | error e j' =>
      have href := hdatabase.error hread
      change Journal.databaseStorage _ _ _ = _ at href
      unfold Journal.databaseStorage at href
      split at href
      · cases href
      · rename_i e' hstorage
        injection href with he hview
        subst he
        exact ⟨hview.symm, rfl, hstorage⟩

/-- A fetch through the journal returns the info of the storage the journal shows, and
shows no change. -/
theorem tryFetchFromJournal_ok {spec : ScrollSpecId} {j j' : J} {info : L1BlockInfo}
    (h : (L1BlockInfo.tryFetchFromJournal (ε := ε) spec).run j = .ok info j') :
    info = oracleInfo ((JournalTr.view j).storageAt l1GasPriceOracleAddress) spec ∧
      JournalTr.view j' = JournalTr.view j := by
  refine tryFetchWith_ok (fun k => JournalTr.view k = JournalTr.view j) ?_ rfl h
  intro slot k value k' hk hread
  have hrun := oracleStorage_run (ε := ε) slot k
  rw [hread] at hrun
  exact ⟨hk ▸ hrun.2, hrun.1.trans hk⟩

/-- A fetch through the journal that fails shows no change. -/
theorem tryFetchFromJournal_exits (spec : ScrollSpecId) :
    Exits (fun j j' : J => JournalTr.view j' = JournalTr.view j)
      (L1BlockInfo.tryFetchFromJournal (ε := ε) spec) := by
  refine tryFetchWith_exits (r := fun j j' : J => JournalTr.view j' = JournalTr.view j)
    (fun _ => rfl) (fun _ _ _ hab hbc => hbc.trans hab) (fun slot j => ?_) spec
  have h := oracleStorage_run (ε := ε) slot j
  cases hrun : (oracleStorage slot).run j with
  | ok value j' =>
    rw [hrun] at h
    exact h.1
  | error e j' =>
    rw [hrun] at h
    exact h.1

/-- The chain context a refresh leaves: a fee-charged transaction reads the oracle storage
that the journal shows. -/
def refreshedChain (env : Env) (c : Ctx J) : ScrollChainContext :=
  if env.tx.isFeeCharged then
    { l1BlockInfo := oracleInfo (c.view.storageAt l1GasPriceOracleAddress) env.cfg.spec }
  else c.chain

/-- Refreshing the L1 block info shows no change of the journal. -/
theorem refreshL1BlockInfo_ok
    (h : (ScrollHandler.refreshL1BlockInfo (ε := ε) env).run c = .ok () c') :
    c'.view = c.view ∧ c'.chain = refreshedChain env c := by
  have hcharged : env.tx.isFeeCharged = (!env.tx.isL1Msg && !env.tx.isSystemTx) := rfl
  unfold ScrollHandler.refreshL1BlockInfo at h
  rw [← hcharged] at h
  unfold refreshedChain
  split at h
  · rename_i hc
    obtain ⟨info, c₁, hfetch, hmodify⟩ := run_bind_eq_ok.mp h
    obtain ⟨j, hrun, rfl⟩ := run_focus_eq_ok.mp hfetch
    obtain ⟨hinfo, hview⟩ := tryFetchFromJournal_ok hrun
    cases hmodify
    rw [if_pos hc, hinfo]
    exact ⟨hview, rfl⟩
  · rename_i hc
    cases h
    rw [if_neg hc]
    exact ⟨rfl, rfl⟩

end Oracle

/-! ## Pre-execution -/

/-- A run from `c` to `c'` accepted the sender and charged it the gas fee and the L1 fee
of the chain context it left. -/
structure PreExecuted (mainnet : MainnetHandler J ε G R X) (env : Env) (c c' : Ctx J)
    (l1Cost : U256) : Prop where
  chain_eq : c'.chain = refreshedChain env c
  accepts : mainnet.Accepts env (c.view.info env.tx.caller)
  l1Cost_is : L1CostIs env c'.chain l1Cost
  covers : mainnet.gasFee env + l1Cost.toNat ≤ (c.view.info env.tx.caller).balance.toNat
  balance_eq : c'.view.balance = Function.update c.view.balance env.tx.caller
    (mainnet.charged env l1Cost (c.view.info env.tx.caller)).balance
  nonce_le : ∀ a, (Function.update c.view.info env.tx.caller
    (mainnet.charged env l1Cost (c.view.info env.tx.caller)) a).nonce ≤ c'.view.nonce a
  /-- Authorizations aside, the charge is all that changed. -/
  info_eq : TransactionType.ofU8 env.tx.txType ≠ .eip7702 →
    c'.view.info = Function.update c.view.info env.tx.caller
      (mainnet.charged env l1Cost (c.view.info env.tx.caller))
  /-- From TsukiV2 on the balance covered the value and the largest gas fee, too. -/
  covers_tsukiV2 : env.cfg.spec.isEnabledIn .tsukiV2 = true →
    mainnet.maxGasFee env + env.tx.value.toNat + l1Cost.toNat ≤
      (c.view.info env.tx.caller).balance.toNat

section PreExecution

variable [GasTr G R] [LawfulJournal J] {self : ScrollHandler J ε G R X} {env : Env}
  {c c' : Ctx J}

omit [JournalTr J ε] [LawfulJournal J] in
theorem balance_update (s : Journal ε) (a : Address) (info : AccountInfo) :
    (fun b => (Function.update s.info a info b).balance) =
      Function.update s.balance a info.balance := by
  funext b
  by_cases h : b = a
  · subst h
    simp only [Function.update_self]
  · simp only [Function.update_of_ne h]
    rfl

/-- Pre-execution of a transaction that is no L1 message charges its sender. -/
theorem preExecution_ok (hm : LawfulMainnet self.mainnet)
    (htype : TransactionType.ofU8 env.tx.txType ≠ .eip4844) (hmsg : env.tx.isL1Msg = false)
    {refund : U64} (h : (self.preExecution env).run c = .ok refund c') :
    ∃ l1Cost, PreExecuted self.mainnet env c c' l1Cost := by
  obtain ⟨_, c₁, hrefresh, h₁⟩ := run_bind_eq_ok.mp h
  obtain ⟨_, c₂, hdeduct, h₂⟩ := run_bind_eq_ok.mp h₁
  obtain ⟨_, c₃, hloadStep, hauthStep⟩ := run_bind_eq_ok.mp h₂
  obtain ⟨hview, hchain⟩ := refreshL1BlockInfo_ok hrefresh
  obtain ⟨cost, hcharged, htsukiV2⟩ :=
    ScrollHandler.validateAgainstStateAndDeductCaller_ok hm htype hmsg hdeduct
  obtain ⟨j₃, hload, rfl⟩ := run_focus_eq_ok.mp hloadStep
  obtain ⟨j₄, hauth, rfl⟩ := run_focus_eq_ok.mp hauthStep
  have hinfo : (JournalTr.view j₃).info = Function.update c.view.info env.tx.caller
      (self.mainnet.charged env cost (c.view.info env.tx.caller)) := by
    rw [hm.loadAccounts_ok hload, ← hview]
    exact hcharged.info_eq
  have haccepts := hcharged.accepts
  have hcovers := hcharged.covers
  rw [hview] at haccepts hcovers htsukiV2
  refine ⟨cost, hcharged.chain_eq.trans hchain, haccepts, ?_, hcovers, ?_, ?_, ?_, htsukiV2⟩
  · have hcost := hcharged.l1Cost_is
    rwa [← hcharged.chain_eq] at hcost
  · funext a
    have hbalance := (hm.applyEip7702AuthList_ok hauth a).1
    rw [← balance_update, ← hinfo]
    exact hbalance
  · intro a
    rw [← hinfo]
    exact (hm.applyEip7702AuthList_ok hauth a).2
  · intro hne
    have hsame := hm.applyEip7702AuthList_of_ne j₃ hne
    cases hsame.symm.trans hauth
    exact hinfo

end PreExecution

end ScrollRevm
