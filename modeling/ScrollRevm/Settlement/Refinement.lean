import ScrollRevm.L1Message.Steps
import ScrollRevm.Settlement.Upfront

/-!
# TsukiV2 refines Tsuki

The two hardforks charge the same and check in another order, against other balances. What
TsukiV2 accepts Tsuki accepts with the same accounts left; what only Tsuki accepts is a
fee-charged transaction whose balance lies between what is charged and what may be spent.
-/

namespace ScrollRevm

open FixedWidth StateResult

/-- The environment under another hardfork. -/
def Env.withSpec (env : Env) (spec : ScrollSpecId) : Env :=
  { env with cfg := { env.cfg with spec := spec } }

theorem Env.sameMainnet_withSpec (env : Env) (spec spec' : ScrollSpecId) :
    SameMainnet (env.withSpec spec) (env.withSpec spec') := by
  refine ⟨rfl, rfl, rfl, ?_⟩
  rw [ScrollSpecId.intoEthSpecId_eq, ScrollSpecId.intoEthSpecId_eq]

/-- A refusal of the upfront check for want of funds. -/
def EVMError.IsLackOfFunds {ε : Type} (e : EVMError ε) : Prop :=
  e = .transaction .overflowPaymentInTransaction ∨
    ∃ fee balance, e = .transaction (.lackOfFundForMaxFee fee balance)

variable {J ε G R X : Type} [JournalTr J ε]

omit [JournalTr J ε] in
/-- The mainnet checks do not depend on the hardfork. -/
theorem MainnetHandler.Accepts.withSpec {mainnet : MainnetHandler J ε G R X} {env : Env}
    {spec : ScrollSpecId} {caller : AccountInfo} (h : mainnet.Accepts (env.withSpec spec) caller)
    (spec' : ScrollSpecId) : mainnet.Accepts (env.withSpec spec') caller :=
  ⟨h.nonce, h.code, h.balance⟩

namespace ScrollHandler

variable [LawfulJournal J] {self : ScrollHandler J ε G R X} {env : Env} {c c' : Ctx J}

/-! ## Why the checks fail -/

/-- With a computable L1 fee and spending, the check of the total refuses only a balance
below their sum. -/
theorem checkTotalSpending_refused {cost spending : U256} {e : EVMError ε}
    (hcost : txL1Cost c.chain env.tx env.cfg.spec = .ok cost)
    (hmax : self.mainnet.maxBalanceSpending env.tx.base = .ok spending)
    (h : (self.checkTotalSpending env).run c = .error e c') :
    (∃ d, e = .database d) ∨ e.IsLackOfFunds ∧
      (c.view.info env.tx.caller).balance.toNat < spending.toNat + cost.toNat := by
  rcases run_bind_eq_error.mp h with hload | ⟨account, c₁, hload, h₁⟩
  · obtain ⟨-, -, -, hdb⟩ := loadAccountMut_step_error hload
    exact Or.inl hdb
  obtain ⟨hchain, -, hinfo, -⟩ := loadAccountMut_step_ok hload
  have hfee : (stepL1Cost env).run c₁ = (.ok cost c₁ : EStateM.Result (EVMError ε) _ _) :=
    stepL1Cost_run_eq_ok.mpr ⟨hchain ▸ hcost, rfl⟩
  have hvalid : (validated (self.mainnet.maxBalanceSpending env.tx.base)).run c₁ =
      (.ok spending c₁ : EStateM.Result (EVMError ε) _ _) := validated_run_eq_ok.mpr ⟨hmax, rfl⟩
  rw [run_bind_of_ok hfee, run_bind_of_ok hvalid] at h₁
  rw [← hinfo]
  cases hadd : checkedAdd spending cost with
  | none =>
    rw [hadd] at h₁
    cases h₁
    have hlt := account.info.balance.isLt
    have hge := checkedAdd_eq_none.mp hadd
    exact Or.inr ⟨Or.inl rfl, hlt.trans_le hge⟩
  | some required =>
    rw [hadd] at h₁
    rcases run_guard_eq_error.mp h₁ with ⟨hlt, rfl, -⟩ | ⟨-, hret⟩
    · refine Or.inr ⟨Or.inr ⟨required, account.info.balance, rfl⟩, ?_⟩
      rw [← checkedAdd_eq_some.mp hadd]
      exact BitVec.lt_def.mp hlt
    · cases hret

/-- A computable L1 fee that the balance covers is refused by the database only. -/
theorem deductL1Fee_error {cost : U256} {e : EVMError ε}
    (hcost : txL1Cost c.chain env.tx env.cfg.spec = .ok cost)
    (hle : cost ≤ (c.view.info env.tx.caller).balance)
    (h : (deductL1Fee (ε := ε) env).run c = .error e c') : ∃ d, e = .database d := by
  have hfee : (stepL1Cost env).run c = (.ok cost c : EStateM.Result (EVMError ε) _ _) :=
    stepL1Cost_run_eq_ok.mpr ⟨hcost, rfl⟩
  unfold deductL1Fee at h
  rw [run_bind_of_ok hfee] at h
  rcases run_bind_eq_error.mp h with hload | ⟨account, c₁, hload, h₁⟩
  · obtain ⟨-, -, -, hdb⟩ := loadAccountMut_step_error hload
    exact hdb
  obtain ⟨-, hstate, hinfo, -⟩ := loadAccountMut_step_ok hload
  rw [← hinfo] at hle
  rcases run_guard_eq_error.mp h₁ with ⟨hlt, -, -⟩ | ⟨-, h₂⟩
  · exact absurd hlt (BitVec.not_lt.mpr hle)
  · obtain ⟨c₂, hdecr, -⟩ := decrBalance_step hstate hle
    rw [run_bind_of_ok hdecr] at h₂
    cases h₂

variable [GasTr G R]

/-- Before TsukiV2, a fee-charged transaction that the mainnet step accepts and whose
balance covers the charge is refused by the database only. -/
theorem deductCallerBeforeTsukiV2_error (hm : LawfulMainnet self.mainnet)
    (htype : TransactionType.ofU8 env.tx.txType ≠ .eip4844)
    (hmsg : env.tx.isL1Msg = false) (hsystem : env.tx.isSystemTx = false) {cost : U256}
    {e : EVMError ε} (haccepts : self.mainnet.Accepts env (c.view.info env.tx.caller))
    (hcost : txL1Cost c.chain env.tx env.cfg.spec = .ok cost)
    (hcovers : self.mainnet.gasFee env + cost.toNat ≤
      (c.view.info env.tx.caller).balance.toNat)
    (h : (self.deductCallerBeforeTsukiV2 env).run c = .error e c') : ∃ d, e = .database d := by
  unfold deductCallerBeforeTsukiV2 at h
  simp only [hmsg, hsystem, Bool.not_false, if_true, Bool.and_self] at h
  rcases run_bind_eq_error.mp h with hdeduct | ⟨_, c₁, hdeduct, h₁⟩
  · obtain ⟨-, -, hdb | hno⟩ := mainnetDeduct_error hm hdeduct
    · exact hdb
    · exact absurd haccepts hno
  obtain ⟨hchain, -, -, hinfo⟩ := mainnetDeduct_ok hm htype hdeduct
  refine deductL1Fee_error (hchain ▸ hcost) ?_ h₁
  rw [hinfo, Function.update_self, BitVec.le_def, toNat_deducted_balance (by omega)]
  omega

/-- From TsukiV2 on, a fee-charged transaction that the mainnet step accepts is refused by
the database, or for a balance below the total spending. -/
theorem deductCallerTsukiV2_refused (hm : LawfulMainnet self.mainnet)
    (htype : TransactionType.ofU8 env.tx.txType ≠ .eip4844)
    (hmsg : env.tx.isL1Msg = false) (hsystem : env.tx.isSystemTx = false) {cost : U256}
    {e : EVMError ε} (haccepts : self.mainnet.Accepts env (c.view.info env.tx.caller))
    (hcost : txL1Cost c.chain env.tx env.cfg.spec = .ok cost)
    (h : (self.deductCallerTsukiV2 env).run c = .error e c') :
    (∃ d, e = .database d) ∨ e.IsLackOfFunds ∧
      (c.view.info env.tx.caller).balance.toNat <
        self.mainnet.maxGasFee env + env.tx.value.toNat + cost.toNat := by
  obtain ⟨spending, hmax, -⟩ := haccepts.balance
  have hspending := ((hm.maxBalanceSpending_eq_ok htype).mp hmax).2
  have hfull := h
  unfold deductCallerTsukiV2 at h
  simp only [hmsg, hsystem, Bool.not_false, if_true, Bool.and_self] at h
  rcases run_bind_eq_error.mp h with hcheck | ⟨cost', c₁, hcheck, -⟩
  · rw [← hspending]
    exact checkTotalSpending_refused hcost hmax hcheck
  · -- past the check of the total, nothing but the database is left to fail
    obtain ⟨-, -, hcost', hpasses⟩ := checkTotalSpending_ok hcheck
    obtain ⟨-, hdb | hno | hno⟩ := deductCallerTsukiV2_error hm hmsg hsystem htype hfull
    · exact Or.inl hdb
    · exact absurd haccepts hno
    · exact absurd ⟨cost', hpasses.choose, hcost', hpasses.choose_spec⟩ hno

/-! ## The two hardforks -/

omit [LawfulJournal J] [GasTr G R] in
/-- Before TsukiV2, the deduction of a transaction that is no L1 message. -/
theorem validateAgainstStateAndDeductCaller_tsuki (hmsg : env.tx.isL1Msg = false) :
    self.validateAgainstStateAndDeductCaller (env.withSpec .tsuki) =
      self.deductCallerBeforeTsukiV2 (env.withSpec .tsuki) := by
  have hmsg' : (env.withSpec .tsuki).tx.isL1Msg = false := hmsg
  have hspec : (env.withSpec .tsuki).cfg.spec.isEnabledIn .tsukiV2 = false := rfl
  unfold validateAgainstStateAndDeductCaller
  simp only [hspec, hmsg', Bool.not_false, if_true, Bool.false_eq_true, if_false, bind_pure_unit]

omit [LawfulJournal J] [GasTr G R] in
/-- A transaction that pays no L1 fee takes one and the same step. -/
theorem validateAgainstStateAndDeductCaller_of_not_feeCharged (hr : DeductionReads self.mainnet)
    (hfree : env.tx.isFeeCharged = false) :
    self.validateAgainstStateAndDeductCaller (env.withSpec .tsuki) =
      self.validateAgainstStateAndDeductCaller (env.withSpec .tsukiV2) := by
  cases hmsg : env.tx.isL1Msg with
  | true =>
    have hmsg₁ : (env.withSpec .tsuki).tx.isL1Msg = true := hmsg
    have hmsg₂ : (env.withSpec .tsukiV2).tx.isL1Msg = true := hmsg
    rw [validateAgainstStateAndDeductCaller_isL1Msg hmsg₁,
      validateAgainstStateAndDeductCaller_isL1Msg hmsg₂]
    rfl
  | false =>
    have hsystem : env.tx.isSystemTx = true := by
      rwa [ScrollTransaction.isFeeCharged, hmsg, Bool.not_false, Bool.true_and,
        Bool.not_eq_false'] at hfree
    have hspec : (env.withSpec .tsukiV2).cfg.spec.isEnabledIn .tsukiV2 = true := rfl
    have hmsg₂ : (env.withSpec .tsukiV2).tx.isL1Msg = false := hmsg
    rw [validateAgainstStateAndDeductCaller_tsuki hmsg,
      validateAgainstStateAndDeductCaller_tsukiV2 hspec hmsg₂]
    have hmsg₁ : (env.withSpec .tsuki).tx.isL1Msg = false := hmsg
    have hsystem₁ : (env.withSpec .tsuki).tx.isSystemTx = true := hsystem
    have hsystem₂ : (env.withSpec .tsukiV2).tx.isSystemTx = true := hsystem
    unfold deductCallerBeforeTsukiV2 deductCallerTsukiV2
    rw [hr.validateAgainstStateAndDeductCaller (env.sameMainnet_withSpec .tsuki .tsukiV2)]
    simp only [hmsg₁, hmsg₂, hsystem₁, hsystem₂, Bool.not_true, Bool.and_false,
      Bool.false_eq_true, if_false, pure_bind]

omit [LawfulJournal J] [GasTr G R] in
theorem txL1Cost_of_l1CostIs {spec : ScrollSpecId} {chain : ScrollChainContext} {cost : U256}
    (hsystem : env.tx.isSystemTx = false) (h : L1CostIs (env.withSpec spec) chain cost) :
    txL1Cost chain env.tx spec = .ok cost := by
  have hsystem' : (env.withSpec spec).tx.isSystemTx = false := hsystem
  rwa [L1CostIs, hsystem', if_neg Bool.false_ne_true] at h

/-- A fee-charged transaction that TsukiV2 accepts is accepted by Tsuki, unless the
database fails, and leaves the same accounts. -/
theorem tsuki_accepts (hm : LawfulMainnet self.mainnet)
    (htype : TransactionType.ofU8 env.tx.txType ≠ .eip4844) (hmsg : env.tx.isL1Msg = false)
    (hsystem : env.tx.isSystemTx = false) {c₂ : Ctx J}
    (h : (self.deductCallerTsukiV2 (env.withSpec .tsukiV2)).run c = .ok () c₂) :
    (∃ d c₁, (self.deductCallerBeforeTsukiV2 (env.withSpec .tsuki)).run c =
        .error (.database d) c₁) ∨
      ∃ c₁, (self.deductCallerBeforeTsukiV2 (env.withSpec .tsuki)).run c = .ok () c₁ ∧
        c₁.chain = c₂.chain ∧ c₁.view.info = c₂.view.info := by
  have hmsg₁ : (env.withSpec .tsuki).tx.isL1Msg = false := hmsg
  have hmsg₂ : (env.withSpec .tsukiV2).tx.isL1Msg = false := hmsg
  have htype₁ : TransactionType.ofU8 (env.withSpec .tsuki).tx.txType ≠ .eip4844 := htype
  have htype₂ : TransactionType.ofU8 (env.withSpec .tsukiV2).tx.txType ≠ .eip4844 := htype
  obtain ⟨cost, hcharged, -⟩ := deductCallerTsukiV2_ok hm htype₂ hmsg₂ h
  have hcost := txL1Cost_of_l1CostIs hsystem hcharged.l1Cost_is
  cases hrun : (self.deductCallerBeforeTsukiV2 (env.withSpec .tsuki)).run c with
  | error e c₁ =>
    obtain ⟨d, rfl⟩ := deductCallerBeforeTsukiV2_error hm htype₁ hmsg₁ hsystem
      (hcharged.accepts.withSpec .tsuki) hcost hcharged.covers hrun
    exact Or.inl ⟨d, c₁, rfl⟩
  | ok _ c₁ =>
    obtain ⟨cost', hcharged'⟩ := deductCallerBeforeTsukiV2_ok hm htype₁ hmsg₁ hrun
    have hcost' := txL1Cost_of_l1CostIs hsystem hcharged'.l1Cost_is
    cases hcost.symm.trans hcost'
    exact Or.inr ⟨c₁, rfl, hcharged'.chain_eq.trans hcharged.chain_eq.symm,
      hcharged'.info_eq.trans hcharged.info_eq.symm⟩

/-- A fee-charged transaction that only Tsuki accepts is refused for want of funds, in the
band between what is charged and what may be spent. -/
theorem tsukiV2_refuses (hm : LawfulMainnet self.mainnet)
    (htype : TransactionType.ofU8 env.tx.txType ≠ .eip4844) (hmsg : env.tx.isL1Msg = false)
    (hsystem : env.tx.isSystemTx = false) {c₁ c₂ : Ctx J} {e : EVMError ε}
    (hok : (self.deductCallerBeforeTsukiV2 (env.withSpec .tsuki)).run c = .ok () c₁)
    (herror : (self.deductCallerTsukiV2 (env.withSpec .tsukiV2)).run c = .error e c₂) :
    (∃ d, e = .database d) ∨ e.IsLackOfFunds ∧
      ∃ l1Cost, txL1Cost c.chain env.tx .tsukiV2 = .ok l1Cost ∧
        self.mainnet.gasFee env + l1Cost.toNat ≤ (c.view.balance env.tx.caller).toNat ∧
        (c.view.balance env.tx.caller).toNat <
          self.mainnet.maxGasFee env + env.tx.value.toNat + l1Cost.toNat := by
  have hmsg₁ : (env.withSpec .tsuki).tx.isL1Msg = false := hmsg
  have hmsg₂ : (env.withSpec .tsukiV2).tx.isL1Msg = false := hmsg
  have htype₁ : TransactionType.ofU8 (env.withSpec .tsuki).tx.txType ≠ .eip4844 := htype
  have htype₂ : TransactionType.ofU8 (env.withSpec .tsukiV2).tx.txType ≠ .eip4844 := htype
  obtain ⟨cost, hcharged⟩ := deductCallerBeforeTsukiV2_ok hm htype₁ hmsg₁ hok
  have hcost := txL1Cost_of_l1CostIs hsystem hcharged.l1Cost_is
  have hrefused := deductCallerTsukiV2_refused hm htype₂ hmsg₂ hsystem
    (hcharged.accepts.withSpec .tsukiV2) hcost herror
  exact hrefused.imp_right fun ⟨hlack, hlt⟩ => ⟨hlack, cost, hcost, hcharged.covers, hlt⟩

end ScrollHandler

open ScrollHandler in
/-- What TsukiV2 accepts, Tsuki accepts with the same accounts left. What only Tsuki accepts
is a fee-charged transaction, refused for want of funds, whose balance covers the charge but
not the largest gas fee, the value and the L1 fee together. Every other transaction takes
the same step under both. -/
theorem tsukiV2_refines_tsuki [LawfulJournal J] [GasTr G R] (self : ScrollHandler J ε G R X)
    (hm : LawfulMainnet self.mainnet) (hr : DeductionReads self.mainnet) (env : Env) (c : Ctx J)
    (htype : TransactionType.ofU8 env.tx.txType ≠ .eip4844) :
    let tsuki := (self.validateAgainstStateAndDeductCaller (env.withSpec .tsuki)).run c
    let tsukiV2 := (self.validateAgainstStateAndDeductCaller (env.withSpec .tsukiV2)).run c
    let balance := (c.view.balance env.tx.caller).toNat
    (∀ c₂, tsukiV2 = .ok () c₂ →
      (∃ d c₁, tsuki = .error (.database d) c₁) ∨
        ∃ c₁, tsuki = .ok () c₁ ∧ c₁.chain = c₂.chain ∧
          ∀ a, c₁.view.balance a = c₂.view.balance a ∧ c₁.view.nonce a = c₂.view.nonce a) ∧
      (∀ c₁ e c₂, tsuki = .ok () c₁ → tsukiV2 = .error e c₂ →
        (∃ d, e = .database d) ∨
          env.tx.isFeeCharged = true ∧ e.IsLackOfFunds ∧
            ∃ l1Cost, txL1Cost c.chain env.tx .tsukiV2 = .ok l1Cost ∧
              self.mainnet.gasFee env + l1Cost.toNat ≤ balance ∧
              balance < self.mainnet.maxGasFee env + env.tx.value.toNat + l1Cost.toNat) ∧
      (env.tx.isFeeCharged = false → tsuki = tsukiV2) := by
  intro tsuki tsukiV2 balance
  cases hfee : env.tx.isFeeCharged with
  | false =>
    have hsame : tsuki = tsukiV2 := by
      change (self.validateAgainstStateAndDeductCaller (env.withSpec .tsuki)).run c = _
      rw [validateAgainstStateAndDeductCaller_of_not_feeCharged hr hfee]
    refine ⟨fun c₂ hok => Or.inr ⟨c₂, hsame.trans hok, rfl, fun _ => ⟨rfl, rfl⟩⟩, ?_,
      fun _ => hsame⟩
    intro c₁ e c₂ hok herror
    rw [← hsame, hok] at herror
    cases herror
  | true =>
    obtain ⟨hmsg, hsystem⟩ := ScrollTransaction.isFeeCharged_iff.mp hfee
    have hmsg₂ : (env.withSpec .tsukiV2).tx.isL1Msg = false := hmsg
    have htsuki : tsuki = (self.deductCallerBeforeTsukiV2 (env.withSpec .tsuki)).run c := by
      change (self.validateAgainstStateAndDeductCaller (env.withSpec .tsuki)).run c = _
      rw [validateAgainstStateAndDeductCaller_tsuki hmsg]
    have htsukiV2 : tsukiV2 = (self.deductCallerTsukiV2 (env.withSpec .tsukiV2)).run c := by
      change (self.validateAgainstStateAndDeductCaller (env.withSpec .tsukiV2)).run c = _
      rw [validateAgainstStateAndDeductCaller_tsukiV2 rfl hmsg₂]
    rw [htsuki, htsukiV2]
    refine ⟨fun c₂ hok => ?_, fun c₁ e c₂ hok herror => ?_, fun h => ?_⟩
    · rcases tsuki_accepts hm htype hmsg hsystem hok with hdb | ⟨c₁, hrun, hchain, hinfo⟩
      · exact Or.inl hdb
      · refine Or.inr ⟨c₁, hrun, hchain, fun a => ?_⟩
        rw [Journal.balance, Journal.balance, Journal.nonce, Journal.nonce, hinfo]
        exact ⟨rfl, rfl⟩
    · exact (tsukiV2_refuses hm htype hmsg hsystem hok herror).imp_right fun hband =>
        ⟨rfl, hband⟩
    · cases h

open ReferenceMainnet in
/-- A balance of the gas fee and the L1 fee that is one wei short of the value, too, is
accepted under Tsuki and refused under TsukiV2. -/
theorem tsukiV2_refines_tsuki_boundary :
    ∃ e c₁ c₂, (sampleHandler.validateAgainstStateAndDeductCaller
          ((sampleEnv .tsuki (.call 5) 200).withSpec .tsuki)).run
            ⟨sampleJournal 60299, sampleChain⟩ = .ok () c₁ ∧
      (sampleHandler.validateAgainstStateAndDeductCaller
          ((sampleEnv .tsuki (.call 5) 200).withSpec .tsukiV2)).run
            ⟨sampleJournal 60299, sampleChain⟩ = .error e c₂ ∧
      e.IsLackOfFunds := by
  have htsuki : ∃ c₁, (sampleHandler.validateAgainstStateAndDeductCaller
      ((sampleEnv .tsuki (.call 5) 200).withSpec .tsuki)).run
        ⟨sampleJournal 60299, sampleChain⟩ = .ok () c₁ := ⟨_, rfl⟩
  have htsukiV2 : ∃ c₂, (sampleHandler.validateAgainstStateAndDeductCaller
      ((sampleEnv .tsuki (.call 5) 200).withSpec .tsukiV2)).run
        ⟨sampleJournal 60299, sampleChain⟩ =
          .error (.transaction (.lackOfFundForMaxFee 60300 60299)) c₂ := ⟨_, rfl⟩
  obtain ⟨c₁, hok⟩ := htsuki
  obtain ⟨c₂, herror⟩ := htsukiV2
  have hband := (tsukiV2_refines_tsuki sampleHandler lawful deductionReads
    (sampleEnv .tsuki (.call 5) 200) ⟨sampleJournal 60299, sampleChain⟩ (by decide)).2.1
      c₁ _ c₂ hok herror
  rcases hband with ⟨d, hdb⟩ | ⟨-, hlack, -⟩
  · cases hdb
  · exact ⟨_, c₁, c₂, hok, herror, hlack⟩

end ScrollRevm
