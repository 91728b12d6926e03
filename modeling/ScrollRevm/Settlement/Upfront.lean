import ScrollRevm.Revm.Reference
import ScrollRevm.Settlement.Charge

/-!
# The upfront check of TsukiV2

From TsukiV2 on the largest gas fee, the value and the L1 fee are checked together
against the original balance. The check accepts exactly the senders that can pay all
three, charges what is due, and leaves the value in the balance; a refusal leaves every
balance and nonce as it was.
-/

namespace ScrollRevm

open FixedWidth StateResult

variable {J ε G R X : Type} [JournalTr J ε] [GasTr G R]

/-- The exact condition of the upfront check on the sender. -/
structure UpfrontAccepted (mainnet : MainnetHandler J ε G R X) (env : Env)
    (chain : ScrollChainContext) (caller : AccountInfo) (l1Cost : U256) : Prop where
  l1Cost_eq : txL1Cost chain env.tx env.cfg.spec = .ok l1Cost
  maxGasFee_lt : mainnet.maxGasFee env < 2 ^ 128
  total_lt : mainnet.maxGasFee env + env.tx.value.toNat + l1Cost.toNat < 2 ^ 256
  total_le : mainnet.maxGasFee env + env.tx.value.toNat + l1Cost.toNat ≤ caller.balance.toNat
  nonce : caller.nonce = env.tx.nonce
  code : env.cfg.isEip3607Disabled = true ∨ caller.code.rejectsCaller = false

/-- What an accepted upfront check leaves: the charge is deducted, the value is covered,
the nonce of a call is bumped, and no other account changes. -/
structure UpfrontCharged (mainnet : MainnetHandler J ε G R X) (env : Env) (s s' : Journal ε)
    (l1Cost : U256) : Prop where
  balance : (s'.balance env.tx.caller).toNat =
    (s.balance env.tx.caller).toNat - mainnet.gasFee env - l1Cost.toNat
  covers : mainnet.gasFee env + l1Cost.toNat ≤ (s.balance env.tx.caller).toNat
  value_le : env.tx.value ≤ s'.balance env.tx.caller
  nonce : s'.nonce env.tx.caller =
    if env.tx.kind.isCall then ((s.info env.tx.caller).bump).nonce else s.nonce env.tx.caller
  other : ∀ a, a ≠ env.tx.caller → s'.info a = s.info a

/-- The conditions of the upfront check, from the checks of the source. -/
theorem upfrontAccepted_iff {mainnet : MainnetHandler J ε G R X} (hm : LawfulMainnet mainnet)
    {env : Env} (htype : TransactionType.ofU8 env.tx.txType ≠ .eip4844)
    {chain : ScrollChainContext} {caller : AccountInfo} :
    (∃ l1Cost, UpfrontAccepted mainnet env chain caller l1Cost) ↔
      mainnet.Accepts env caller ∧
        ∃ cost spending, txL1Cost chain env.tx env.cfg.spec = .ok cost ∧
          mainnet.maxBalanceSpending env.tx.base = .ok spending ∧
          spending.toNat + cost.toNat ≤ caller.balance.toNat := by
  have hlt := caller.balance.isLt
  constructor
  · rintro ⟨cost, h⟩
    have htotal := h.total_le
    have hsum : mainnet.maxGasFee env + env.tx.value.toNat < 2 ^ 256 := by omega
    have hspending : (BitVec.ofNat 256 (mainnet.maxGasFee env + env.tx.value.toNat)).toNat =
        mainnet.maxGasFee env + env.tx.value.toNat := by
      rw [BitVec.toNat_ofNat]
      exact Nat.mod_eq_of_lt hsum
    have hmax := (hm.maxBalanceSpending_eq_ok htype).mpr ⟨h.maxGasFee_lt, hspending⟩
    refine ⟨⟨h.nonce, h.code, _, hmax, ?_⟩, cost, _, h.l1Cost_eq, hmax, ?_⟩
    · rw [BitVec.le_def, hspending]
      omega
    · rwa [hspending]
  · rintro ⟨haccepts, cost, spending, hcost, hmax, hle⟩
    obtain ⟨hfee, hspending⟩ := (hm.maxBalanceSpending_eq_ok htype).mp hmax
    rw [hspending] at hle
    exact ⟨cost, hcost, hfee, hle.trans_lt hlt, hle, haccepts.nonce, haccepts.code⟩

variable [LawfulJournal J]

namespace ScrollHandler

variable {self : ScrollHandler J ε G R X} {env : Env} {c c' : Ctx J}

omit [GasTr G R] [LawfulJournal J] in
/-- From TsukiV2 on, the deduction of a transaction that is no L1 message. -/
theorem validateAgainstStateAndDeductCaller_tsukiV2
    (hspec : env.cfg.spec.isEnabledIn .tsukiV2 = true) (hmsg : env.tx.isL1Msg = false) :
    self.validateAgainstStateAndDeductCaller env = self.deductCallerTsukiV2 env := by
  unfold validateAgainstStateAndDeductCaller
  simp only [hspec, hmsg, Bool.not_true, Bool.false_eq_true, if_false, bind_pure_unit]

/-- An accepted upfront check leaves the exact charge. -/
theorem upfrontCharged_of_ok (hm : LawfulMainnet self.mainnet)
    (htype : TransactionType.ofU8 env.tx.txType ≠ .eip4844) (hmsg : env.tx.isL1Msg = false)
    (hsystem : env.tx.isSystemTx = false)
    (h : (self.deductCallerTsukiV2 env).run c = .ok () c') :
    ∃ l1Cost, UpfrontAccepted self.mainnet env c.chain (c.view.info env.tx.caller) l1Cost ∧
      UpfrontCharged self.mainnet env c.view c'.view l1Cost := by
  obtain ⟨cost, hcharged, hle⟩ := deductCallerTsukiV2_ok hm htype hmsg h
  have hlt := (c.view.info env.tx.caller).balance.isLt
  have hfee := hm.gasFee_le env
  have hcost := hcharged.l1Cost_is
  rw [L1CostIs, hsystem, if_neg Bool.false_ne_true] at hcost
  have hself : c'.view.info env.tx.caller =
      self.mainnet.charged env cost (c.view.info env.tx.caller) := by
    rw [hcharged.info_eq, Function.update_self]
  have hbalance : (c'.view.balance env.tx.caller).toNat =
      (c.view.balance env.tx.caller).toNat - self.mainnet.gasFee env - cost.toNat := by
    rw [Journal.balance, hself, toNat_charged_balance hcharged.covers, Journal.balance]
  refine ⟨cost, ⟨hcost, (hm.accepts_covers htype hcharged.accepts).1, hle.trans_lt hlt, hle,
    hcharged.accepts.nonce, hcharged.accepts.code⟩, hbalance, hcharged.covers, ?_, ?_, ?_⟩
  · rw [BitVec.le_def, hbalance, Journal.balance]
    omega
  · rw [Journal.nonce, hself, charged_nonce, Journal.nonce]
  · intro a ha
    rw [hcharged.info_eq, Function.update_of_ne ha]

end ScrollHandler

/-- The upfront check of TsukiV2 is exact and atomic. -/
theorem tsukiV2_upfront_exact (self : ScrollHandler J ε G R X) (hm : LawfulMainnet self.mainnet)
    (env : Env) (c : Ctx J) (hspec : env.cfg.spec.isEnabledIn .tsukiV2 = true)
    (hcharged : env.tx.isFeeCharged = true)
    (htype : TransactionType.ofU8 env.tx.txType ≠ .eip4844) :
    let run := (self.validateAgainstStateAndDeductCaller env).run c
    let accepted := ∃ l1Cost,
      UpfrontAccepted self.mainnet env c.chain (c.view.info env.tx.caller) l1Cost
    ((∃ c', run = .ok () c') → accepted) ∧
      (accepted → (∃ c', run = .ok () c') ∨ ∃ d c', run = .error (.database d) c') ∧
      (∀ c', run = .ok () c' →
        ∃ l1Cost, txL1Cost c.chain env.tx env.cfg.spec = .ok l1Cost ∧
          UpfrontCharged self.mainnet env c.view c'.view l1Cost ∧
          ((c.view.nonce env.tx.caller).toNat < 2 ^ 64 - 1 →
            c'.view.nonce env.tx.caller =
              if env.tx.kind.isCall then c.view.nonce env.tx.caller + 1
              else c.view.nonce env.tx.caller)) ∧
      ∀ e c', run = .error e c' →
        ∀ a, c'.view.balance a = c.view.balance a ∧ c'.view.nonce a = c.view.nonce a := by
  intro run accepted
  obtain ⟨hmsg, hsystem⟩ := ScrollTransaction.isFeeCharged_iff.mp hcharged
  have hrun : run = (self.deductCallerTsukiV2 env).run c := by
    change (self.validateAgainstStateAndDeductCaller env).run c = _
    rw [ScrollHandler.validateAgainstStateAndDeductCaller_tsukiV2 hspec hmsg]
  refine ⟨?_, ?_, ?_, ?_⟩
  · rintro ⟨c', hok⟩
    obtain ⟨cost, haccepted, -⟩ :=
      ScrollHandler.upfrontCharged_of_ok hm htype hmsg hsystem (hrun.symm.trans hok)
    exact ⟨cost, haccepted⟩
  · intro haccepted
    obtain ⟨haccepts, hfunds⟩ := (upfrontAccepted_iff hm htype).mp haccepted
    cases hresult : run with
    | ok u c' => exact Or.inl ⟨c', rfl⟩
    | error e c' =>
      obtain ⟨-, ⟨d, rfl⟩ | hno | hno⟩ := ScrollHandler.deductCallerTsukiV2_error hm hmsg hsystem
        htype (hrun.symm.trans hresult)
      · exact Or.inr ⟨d, c', rfl⟩
      · exact absurd haccepts hno
      · exact absurd hfunds hno
  · intro c' hok
    obtain ⟨cost, haccepted, hcharge⟩ :=
      ScrollHandler.upfrontCharged_of_ok hm htype hmsg hsystem (hrun.symm.trans hok)
    refine ⟨cost, haccepted.l1Cost_eq, hcharge, fun hnonce => ?_⟩
    rw [hcharge.nonce, AccountInfo.bump_nonce hnonce]
    rfl
  · intro e c' herror a
    obtain ⟨hsame, -⟩ := ScrollHandler.deductCallerTsukiV2_error hm hmsg hsystem htype
      (hrun.symm.trans herror)
    rw [Journal.balance, Journal.balance, Journal.nonce, Journal.nonce, hsame]
    exact ⟨rfl, rfl⟩

open ReferenceMainnet in
/-- A balance of the gas fee, the value and the L1 fee together is accepted, and keeps the
value. -/
theorem tsukiV2_upfront_boundary :
    ∃ c' l1Cost, (sampleHandler.validateAgainstStateAndDeductCaller
          (sampleEnv .tsukiV2 (.call 5) 200)).run ⟨sampleJournal 60300, sampleChain⟩ =
        .ok () c' ∧
      UpfrontCharged sampleHandler.mainnet (sampleEnv .tsukiV2 (.call 5) 200)
        (sampleJournal 60300) c'.view l1Cost := by
  obtain ⟨c', hrun⟩ : ∃ c', (sampleHandler.validateAgainstStateAndDeductCaller
      (sampleEnv .tsukiV2 (.call 5) 200)).run ⟨sampleJournal 60300, sampleChain⟩ =
        .ok () c' := ⟨_, rfl⟩
  obtain ⟨-, -, hok, -⟩ := tsukiV2_upfront_exact sampleHandler lawful
    (sampleEnv .tsukiV2 (.call 5) 200) ⟨sampleJournal 60300, sampleChain⟩ rfl rfl (by decide)
  obtain ⟨l1Cost, -, hcharged, -⟩ := hok c' hrun
  exact ⟨c', l1Cost, hrun, hcharged⟩

end ScrollRevm
