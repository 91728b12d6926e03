import ScrollRevm.Handler
import ScrollRevm.Journal.Views

/-!
# What the sender is charged

The deduction steps of the handler, one specification each: what a successful run shows
of the accounts, and what a failed run leaves unchanged. Both orders of the checks end
in the same charge, the gas fee at the effective price and the L1 fee.
-/

namespace ScrollRevm

open FixedWidth StateResult

variable {J ε G R X : Type} [JournalTr J ε]

/-- The journaled records of a context. -/
def Ctx.view (c : Ctx J) : Journal ε := JournalTr.view c.journal

@[simp] theorem Ctx.view_withJournal (j : J) (c : Ctx J) :
    (c.withJournal j).view = JournalTr.view j := rfl

/-! ## Journal operations of a step -/

section Operations

variable [LawfulJournal J] {c c' : Ctx J} {address : Address}

theorem loadAccountMut_step_ok {account : Account}
    (h : (journalMut (JournalTr.loadAccountMut address)).run c = .ok account c') :
    c'.chain = c.chain ∧ c'.view.inner.state address = some account ∧
      account.info = c.view.info address ∧ c'.view.info = c.view.info := by
  obtain ⟨j, hrun, rfl⟩ := run_focus_eq_ok.mp h
  obtain ⟨hstate, hinfo, hsame, -⟩ :=
    Journal.loadAccountMut_ok ((LawfulJournal.loadAccountMut address).ok hrun)
  exact ⟨rfl, hstate, hinfo, hsame⟩

theorem loadAccountMut_step_error {e : EVMError ε}
    (h : (journalMut (JournalTr.loadAccountMut address)).run c = .error e c') :
    c'.chain = c.chain ∧ c'.view = c.view ∧ c.view.inner.state address = none ∧
      ∃ d, e = .database d := by
  obtain ⟨d, j, hrun, rfl, rfl⟩ := run_focus_eq_error.mp h
  obtain ⟨hsame, hstate⟩ :=
    Journal.loadAccountMut_error ((LawfulJournal.loadAccountMut address).error hrun)
  exact ⟨rfl, hsame, hstate, d, rfl⟩

/-- A deduction from a loaded account that covers it succeeds. -/
theorem decrBalance_step {account : Account} {amount : U256}
    (hstate : c.view.inner.state address = some account) (hle : amount ≤ account.info.balance) :
    ∃ c', (journalMut (JournalTr.decrBalance address amount)).run c = .ok true c' ∧
      c'.chain = c.chain ∧
      c'.view.info = Function.update c.view.info address
        { account.info with balance := account.info.balance - amount } := by
  obtain ⟨s', hrun, -, hinfo⟩ := Journal.decrBalance_run hstate amount
  obtain ⟨j, hj, rfl⟩ := (LawfulJournal.decrBalance address amount).exists_ok hrun
  rw [decide_eq_true hle] at hj
  rw [if_pos hle] at hinfo
  exact ⟨c.withJournal j, run_focus_of_ok hj, rfl, hinfo⟩

end Operations

/-! ## The L1 fee of a step -/

omit [JournalTr J ε] in
theorem stepL1Cost_run_eq_ok {env : Env} {c c' : Ctx J} {cost : U256} :
    (stepL1Cost (ε := ε) env).run c = .ok cost c' ↔
      txL1Cost c.chain env.tx env.cfg.spec = .ok cost ∧ c' = c := by
  change stepL1Cost env c = _ ↔ _
  unfold stepL1Cost
  cases txL1Cost c.chain env.tx env.cfg.spec with
  | ok cost' =>
    constructor
    · intro h
      cases h
      exact ⟨rfl, rfl⟩
    · rintro ⟨h, rfl⟩
      cases h
      rfl
  | error e =>
    constructor
    · intro h
      cases h
    · rintro ⟨h, -⟩
      cases h

omit [JournalTr J ε] in
theorem stepL1Cost_run_eq_error {env : Env} {c c' : Ctx J} {e : EVMError ε} :
    (stepL1Cost env).run c = .error e c' ↔
      (∃ text, txL1Cost c.chain env.tx env.cfg.spec = .error text ∧ e = .custom text) ∧
        c' = c := by
  change stepL1Cost env c = _ ↔ _
  unfold stepL1Cost
  cases txL1Cost c.chain env.tx env.cfg.spec with
  | ok cost' =>
    constructor
    · intro h
      cases h
    · rintro ⟨⟨_, h, -⟩, -⟩
      cases h
  | error text =>
    constructor
    · intro h
      cases h
      exact ⟨⟨text, rfl, rfl⟩, rfl⟩
    · rintro ⟨⟨_, h, rfl⟩, rfl⟩
      cases h
      rfl

omit [JournalTr J ε] in
theorem validated_run_eq_ok {α : Type} {x : Except InvalidTransaction α} {c c' : Ctx J} {a : α} :
    (validated (ε := ε) x).run c = .ok a c' ↔ x = .ok a ∧ c' = c := by
  unfold validated
  cases x with
  | ok b =>
    constructor
    · intro h
      cases h
      exact ⟨rfl, rfl⟩
    · rintro ⟨h, rfl⟩
      cases h
      rfl
  | error e =>
    constructor
    · intro h
      cases h
    · rintro ⟨h, -⟩
      cases h

omit [JournalTr J ε] in
theorem validated_run_eq_error {α : Type} {x : Except InvalidTransaction α} {c c' : Ctx J}
    {e : EVMError ε} :
    (validated (ε := ε) x).run c = .error e c' ↔
      (∃ e', x = .error e' ∧ e = .transaction e') ∧ c' = c := by
  unfold validated
  cases x with
  | ok b =>
    constructor
    · exact fun h => nomatch h
    · rintro ⟨⟨_, h, -⟩, -⟩
      cases h
  | error e' =>
    constructor
    · intro h
      cases h
      exact ⟨⟨e', rfl, rfl⟩, rfl⟩
    · rintro ⟨⟨_, h, rfl⟩, rfl⟩
      cases h
      rfl

/-! ## Amounts -/

namespace LawfulMainnet

variable [GasTr G R] {mainnet : MainnetHandler J ε G R X}

/-- The gas fee is at most the largest one the sender agrees to. -/
theorem gasFee_le (h : LawfulMainnet mainnet) (env : Env) :
    mainnet.gasFee env ≤ mainnet.maxGasFee env :=
  Nat.mul_le_mul_left _ (h.effectiveGasPrice_le env.tx.base _)

/-- The largest spending of a transaction, taken exactly. -/
theorem maxBalanceSpending_eq_ok (h : LawfulMainnet mainnet) {env : Env}
    (htype : TransactionType.ofU8 env.tx.txType ≠ .eip4844) {spending : U256} :
    mainnet.maxBalanceSpending env.tx.base = .ok spending ↔
      mainnet.maxGasFee env < 2 ^ 128 ∧
        spending.toNat = mainnet.maxGasFee env + env.tx.value.toNat := by
  have hlimit : (env.tx.base.gasLimit.setWidth 128).toNat = env.tx.gasLimit.toNat :=
    BitVec.toNat_setWidth_of_le (by decide)
  rw [h.maxBalanceSpending _ htype]
  cases hmul : checkedMul (env.tx.base.gasLimit.setWidth 128)
    (mainnet.maxFeePerGas env.tx.base) with
  | none =>
    have hge : 2 ^ 128 ≤ mainnet.maxGasFee env := by
      rw [MainnetHandler.maxGasFee, ← hlimit]
      exact checkedMul_eq_none.mp hmul
    simp only [reduceCtorEq, false_iff]
    omega
  | some fee =>
    have hfee : fee.toNat = mainnet.maxGasFee env := by
      rw [MainnetHandler.maxGasFee, ← hlimit]
      exact checkedMul_eq_some.mp hmul
    have hlt := fee.isLt
    have hwide : (fee.setWidth 256).toNat = mainnet.maxGasFee env :=
      (BitVec.toNat_setWidth_of_le (by decide)).trans hfee
    dsimp only
    cases hadd : checkedAdd (fee.setWidth 256) env.tx.base.value with
    | none =>
      have hge := checkedAdd_eq_none.mp hadd
      have hspending := spending.isLt
      rw [hwide] at hge
      simp only [reduceCtorEq, false_iff]
      rintro ⟨-, heq⟩
      exact absurd (heq ▸ hspending) (not_lt.mpr hge)
    | some sum =>
      have hsum := checkedAdd_eq_some.mp hadd
      rw [hwide] at hsum
      simp only [Except.ok.injEq]
      constructor
      · rintro rfl
        exact ⟨hfee ▸ hlt, hsum⟩
      · rintro ⟨-, heq⟩
        exact BitVec.eq_of_toNat_eq (hsum.trans heq.symm)

/-- An accepted sender can pay the largest gas fee and the value. -/
theorem accepts_covers (h : LawfulMainnet mainnet) {env : Env} {caller : AccountInfo}
    (htype : TransactionType.ofU8 env.tx.txType ≠ .eip4844) (ha : mainnet.Accepts env caller) :
    mainnet.maxGasFee env < 2 ^ 128 ∧
      mainnet.maxGasFee env + env.tx.value.toNat ≤ caller.balance.toNat := by
  obtain ⟨spending, hok, hle⟩ := ha.balance
  obtain ⟨hfee, hspending⟩ := (h.maxBalanceSpending_eq_ok htype).mp hok
  exact ⟨hfee, hspending ▸ hle⟩

end LawfulMainnet

/-! ## The deduction steps -/

namespace ScrollHandler

section DeductL1Fee

variable [LawfulJournal J] {env : Env} {c c' : Ctx J}

/-- The L1 fee is deducted from a balance that covers it. -/
theorem deductL1Fee_ok (h : (deductL1Fee (ε := ε) env).run c = .ok () c') :
    ∃ cost, txL1Cost c.chain env.tx env.cfg.spec = .ok cost ∧
      cost ≤ (c.view.info env.tx.caller).balance ∧ c'.chain = c.chain ∧
      c'.view.info = Function.update c.view.info env.tx.caller
        { c.view.info env.tx.caller with
          balance := (c.view.info env.tx.caller).balance - cost } := by
  obtain ⟨cost, c₁, hfee, h₁⟩ := run_bind_eq_ok.mp h
  obtain ⟨hcost, hc₁⟩ := stepL1Cost_run_eq_ok.mp hfee
  subst hc₁
  obtain ⟨account, c₂, hload, h₂⟩ := run_bind_eq_ok.mp h₁
  obtain ⟨hchain, hstate, hinfo, hsame⟩ := loadAccountMut_step_ok hload
  obtain ⟨hfunds, h₃⟩ := run_guard_eq_ok.mp h₂
  have hle : cost ≤ account.info.balance := BitVec.not_lt.mp hfunds
  obtain ⟨_, c₃, hdecr, hret⟩ := run_bind_eq_ok.mp h₃
  obtain ⟨c₄, hrun, hchain', hinfo'⟩ := decrBalance_step hstate hle
  cases hrun.symm.trans hdecr
  cases hret
  rw [hinfo] at hle hinfo'
  rw [hsame] at hinfo'
  exact ⟨cost, hcost, hle, hchain'.trans hchain, hinfo'⟩

/-- The L1 fee is deducted from a loaded account that covers it. -/
theorem deductCheckedL1Fee_run {cost : U256} (hstate : c.view.inner.state env.tx.caller ≠ none)
    (hle : cost ≤ (c.view.info env.tx.caller).balance) :
    ∃ c', (deductCheckedL1Fee (ε := ε) env cost).run c = .ok () c' ∧ c'.chain = c.chain ∧
      c'.view.info = Function.update c.view.info env.tx.caller
        { c.view.info env.tx.caller with
          balance := (c.view.info env.tx.caller).balance - cost } := by
  cases hload : (journalMut (ε := ε) (JournalTr.loadAccountMut env.tx.caller)).run c with
  | error e c₁ =>
    obtain ⟨-, -, habsent, -⟩ := loadAccountMut_step_error hload
    exact absurd habsent hstate
  | ok account c₁ =>
    obtain ⟨hchain, hcached, hinfo, hsame⟩ := loadAccountMut_step_ok hload
    rw [← hinfo] at hle ⊢
    obtain ⟨c₂, hdecr, hchain', hinfo'⟩ := decrBalance_step hcached hle
    refine ⟨c₂, ?_, hchain'.trans hchain, hsame ▸ hinfo'⟩
    unfold deductCheckedL1Fee
    rw [run_bind_of_ok hload, run_bind_of_ok hdecr]
    rfl

end DeductL1Fee

variable {self : ScrollHandler J ε G R X} {env : Env} {c c' : Ctx J}

section CheckTotalSpending

variable [LawfulJournal J]

/-- The check of the total spending passes with a computable L1 fee and a balance that
covers everything, and shows no change. -/
theorem checkTotalSpending_ok {cost : U256}
    (h : (self.checkTotalSpending env).run c = .ok cost c') :
    c'.chain = c.chain ∧ c'.view.info = c.view.info ∧
      txL1Cost c.chain env.tx env.cfg.spec = .ok cost ∧
      ∃ spending, self.mainnet.maxBalanceSpending env.tx.base = .ok spending ∧
        spending.toNat + cost.toNat ≤ (c.view.info env.tx.caller).balance.toNat := by
  obtain ⟨account, c₁, hload, h₁⟩ := run_bind_eq_ok.mp h
  obtain ⟨hchain, -, hinfo, hsame⟩ := loadAccountMut_step_ok hload
  obtain ⟨cost', c₂, hfee, h₂⟩ := run_bind_eq_ok.mp h₁
  obtain ⟨hcost, hc₂⟩ := stepL1Cost_run_eq_ok.mp hfee
  subst hc₂
  obtain ⟨spending, c₃, hmax, h₃⟩ := run_bind_eq_ok.mp h₂
  obtain ⟨hspending, hc₃⟩ := validated_run_eq_ok.mp hmax
  subst hc₃
  cases hadd : checkedAdd spending cost' with
  | none =>
    rw [hadd] at h₃
    cases h₃
  | some required =>
    rw [hadd] at h₃
    obtain ⟨hfunds, hret⟩ := run_guard_eq_ok.mp h₃
    cases hret
    refine ⟨hchain, hsame, hchain ▸ hcost, spending, hspending, ?_⟩
    rw [← checkedAdd_eq_some.mp hadd, ← hinfo]
    exact BitVec.not_lt.mp hfunds

/-- The check of the total spending fails by the database, or because the L1 fee, the
spending or the balance does not allow it, and shows no change. -/
theorem checkTotalSpending_error {e : EVMError ε}
    (h : (self.checkTotalSpending env).run c = .error e c') :
    c'.chain = c.chain ∧ c'.view.info = c.view.info ∧
      ((∃ d, e = .database d) ∨
        ¬∃ cost spending, txL1Cost c.chain env.tx env.cfg.spec = .ok cost ∧
          self.mainnet.maxBalanceSpending env.tx.base = .ok spending ∧
          spending.toNat + cost.toNat ≤ (c.view.info env.tx.caller).balance.toNat) := by
  rcases run_bind_eq_error.mp h with hload | ⟨account, c₁, hload, h₁⟩
  · obtain ⟨hchain, hview, -, hdb⟩ := loadAccountMut_step_error hload
    exact ⟨hchain, by rw [hview], Or.inl hdb⟩
  obtain ⟨hchain, -, hinfo, hsame⟩ := loadAccountMut_step_ok hload
  rcases run_bind_eq_error.mp h₁ with hfee | ⟨cost, c₂, hfee, h₂⟩
  · obtain ⟨⟨_, hcost, -⟩, hc'⟩ := stepL1Cost_run_eq_error.mp hfee
    subst hc'
    refine ⟨hchain, hsame, Or.inr ?_⟩
    rintro ⟨cost, _, hok, -⟩
    rw [← hchain, hcost] at hok
    cases hok
  obtain ⟨hcost, hc₂⟩ := stepL1Cost_run_eq_ok.mp hfee
  subst hc₂
  rw [hchain] at hcost
  rcases run_bind_eq_error.mp h₂ with hmax | ⟨spending, c₃, hmax, h₃⟩
  · obtain ⟨⟨e', hspending, -⟩, hc'⟩ := validated_run_eq_error.mp hmax
    subst hc'
    refine ⟨hchain, hsame, Or.inr ?_⟩
    rintro ⟨_, spending, -, hok, -⟩
    rw [hspending] at hok
    cases hok
  obtain ⟨hspending, hc₃⟩ := validated_run_eq_ok.mp hmax
  subst hc₃
  have hunder : ∀ required, checkedAdd spending cost = some required →
      account.info.balance < required → ¬∃ cost spending,
        txL1Cost c.chain env.tx env.cfg.spec = .ok cost ∧
          self.mainnet.maxBalanceSpending env.tx.base = .ok spending ∧
          spending.toNat + cost.toNat ≤ (c.view.info env.tx.caller).balance.toNat := by
    rintro required hadd hlt ⟨cost', spending', hok, hok', hle⟩
    cases hcost.symm.trans hok
    cases hspending.symm.trans hok'
    rw [← checkedAdd_eq_some.mp hadd, ← hinfo] at hle
    exact absurd hlt (BitVec.not_lt.mpr hle)
  cases hadd : checkedAdd spending cost with
  | none =>
    rw [hadd] at h₃
    cases h₃
    refine ⟨hchain, hsame, Or.inr ?_⟩
    rintro ⟨cost', spending', hok, hok', hle⟩
    cases hcost.symm.trans hok
    cases hspending.symm.trans hok'
    have hlt := (c.view.info env.tx.caller).balance.isLt
    have hge := checkedAdd_eq_none.mp hadd
    exact absurd (hle.trans_lt hlt) (not_lt.mpr hge)
  | some required =>
    rw [hadd] at h₃
    rcases run_guard_eq_error.mp h₃ with ⟨hlt, -, hc'⟩ | ⟨-, hret⟩
    · subst hc'
      exact ⟨hchain, hsame, Or.inr (hunder required hadd hlt)⟩
    · cases hret

end CheckTotalSpending

variable [GasTr G R]

/-- The mainnet check and deduction as a step. -/
theorem mainnetDeduct_ok (hm : LawfulMainnet self.mainnet)
    (htype : TransactionType.ofU8 env.tx.txType ≠ .eip4844)
    (h : (mainnetStep (self.mainnet.validateAgainstStateAndDeductCaller env)).run c =
      .ok () c') :
    c'.chain = c.chain ∧ self.mainnet.Accepts env (c.view.info env.tx.caller) ∧
      c'.view.inner.state env.tx.caller ≠ none ∧
      c'.view.info = Function.update c.view.info env.tx.caller
        (self.mainnet.deducted env (c.view.info env.tx.caller)) := by
  obtain ⟨j, hrun, rfl⟩ := run_focus_eq_ok.mp h
  exact ⟨rfl, hm.deduct_ok htype hrun⟩

theorem mainnetDeduct_error (hm : LawfulMainnet self.mainnet) {e : EVMError ε}
    (h : (mainnetStep (self.mainnet.validateAgainstStateAndDeductCaller env)).run c =
      .error e c') :
    c'.chain = c.chain ∧ c'.view.info = c.view.info ∧
      ((∃ d, e = .database d) ∨ ¬self.mainnet.Accepts env (c.view.info env.tx.caller)) := by
  obtain ⟨e', j, hrun, rfl, rfl⟩ := run_focus_eq_error.mp h
  exact ⟨rfl, hm.deduct_error hrun⟩

end ScrollHandler

/-! ## The charge -/

/-- The sender after the gas fee and the L1 fee. -/
def MainnetHandler.charged (mainnet : MainnetHandler J ε G R X) (env : Env)
    (l1Cost : U256) (caller : AccountInfo) : AccountInfo :=
  { mainnet.deducted env caller with
    balance := (mainnet.deducted env caller).balance - l1Cost }

/-- The L1 fee of a transaction under a chain context; a system transaction pays none. -/
def L1CostIs (env : Env) (chain : ScrollChainContext) (l1Cost : U256) : Prop :=
  if env.tx.isSystemTx then l1Cost = 0
  else txL1Cost chain env.tx env.cfg.spec = .ok l1Cost

/-- A run from `c` to `c'` charged the sender the gas fee and the given L1 fee, after the
mainnet checks of the sender. -/
structure ChargedBy (mainnet : MainnetHandler J ε G R X) (env : Env) (c c' : Ctx J)
    (l1Cost : U256) : Prop where
  chain_eq : c'.chain = c.chain
  accepts : mainnet.Accepts env (c.view.info env.tx.caller)
  l1Cost_is : L1CostIs env c.chain l1Cost
  covers : mainnet.gasFee env + l1Cost.toNat ≤ (c.view.info env.tx.caller).balance.toNat
  info_eq : c'.view.info = Function.update c.view.info env.tx.caller
    (mainnet.charged env l1Cost (c.view.info env.tx.caller))

section Charged

variable {mainnet : MainnetHandler J ε G R X} {env : Env} {caller : AccountInfo}

omit [JournalTr J ε] in
theorem charged_zero : mainnet.charged env 0 caller = mainnet.deducted env caller := by
  simp only [MainnetHandler.charged, BitVec.ofNat_eq_ofNat, BitVec.sub_zero]

omit [JournalTr J ε] in
theorem deducted_balance : (mainnet.deducted env caller).balance =
    caller.balance - BitVec.ofNat 256 (mainnet.gasFee env) := by
  unfold MainnetHandler.deducted
  split <;> rfl

omit [JournalTr J ε] in
theorem toNat_deducted_balance (hle : mainnet.gasFee env ≤ caller.balance.toNat) :
    (mainnet.deducted env caller).balance.toNat =
      caller.balance.toNat - mainnet.gasFee env := by
  have hlt := caller.balance.isLt
  have hfee : (BitVec.ofNat 256 (mainnet.gasFee env)).toNat = mainnet.gasFee env := by
    rw [BitVec.toNat_ofNat]
    exact Nat.mod_eq_of_lt (hle.trans_lt hlt)
  rw [deducted_balance, BitVec.toNat_sub_of_le, hfee]
  rwa [BitVec.le_def, hfee]

omit [JournalTr J ε] in
/-- The charge leaves the balance without the gas fee and the L1 fee. -/
theorem toNat_charged_balance {l1Cost : U256}
    (hle : mainnet.gasFee env + l1Cost.toNat ≤ caller.balance.toNat) :
    (mainnet.charged env l1Cost caller).balance.toNat =
      caller.balance.toNat - mainnet.gasFee env - l1Cost.toNat := by
  have hdeducted : (mainnet.deducted env caller).balance.toNat = _ :=
    toNat_deducted_balance ((Nat.le_add_right _ _).trans hle)
  rw [MainnetHandler.charged, BitVec.toNat_sub_of_le, hdeducted]
  rw [BitVec.le_def, hdeducted]
  omega

omit [JournalTr J ε] in
/-- The charge bumps the nonce of a call only. -/
theorem charged_nonce {l1Cost : U256} :
    (mainnet.charged env l1Cost caller).nonce =
      if env.tx.kind.isCall then caller.bump.nonce else caller.nonce := by
  unfold MainnetHandler.charged MainnetHandler.deducted
  split <;> rfl

end Charged

namespace ScrollHandler

variable [GasTr G R] {self : ScrollHandler J ε G R X} {env : Env} {c c' : Ctx J}
variable [LawfulJournal J]

/-- Before TsukiV2, an accepted sender is charged. -/
theorem deductCallerBeforeTsukiV2_ok (hm : LawfulMainnet self.mainnet)
    (htype : TransactionType.ofU8 env.tx.txType ≠ .eip4844) (hmsg : env.tx.isL1Msg = false)
    (h : (self.deductCallerBeforeTsukiV2 env).run c = .ok () c') :
    ∃ l1Cost, ChargedBy self.mainnet env c c' l1Cost := by
  unfold deductCallerBeforeTsukiV2 at h
  simp only [hmsg, Bool.not_false, if_true, Bool.true_and] at h
  obtain ⟨_, c₁, hdeduct, h₁⟩ := run_bind_eq_ok.mp h
  obtain ⟨hchain, haccepts, -, hinfo⟩ := mainnetDeduct_ok hm htype hdeduct
  have hcovers := (hm.accepts_covers htype haccepts).2
  have hfee := hm.gasFee_le env
  have hle : self.mainnet.gasFee env ≤ (c.view.info env.tx.caller).balance.toNat := by omega
  cases hsystem : env.tx.isSystemTx with
  | true =>
    simp only [hsystem, Bool.not_true, Bool.false_eq_true, if_false] at h₁
    cases h₁
    refine ⟨0, hchain, haccepts, ?_, hle, ?_⟩
    · rw [L1CostIs, hsystem, if_pos rfl]
    · rw [charged_zero, hinfo]
  | false =>
    simp only [hsystem, Bool.not_false, if_true] at h₁
    obtain ⟨cost, hcost, hfunds, hchain', hinfo'⟩ := deductL1Fee_ok h₁
    rw [hinfo, Function.update_self] at hfunds hinfo'
    rw [Function.update_idem] at hinfo'
    refine ⟨cost, hchain'.trans hchain, haccepts, ?_, ?_, hinfo'⟩
    · rw [L1CostIs, hsystem, if_neg Bool.false_ne_true, ← hchain]
      exact hcost
    · have hfunds' := BitVec.le_def.mp hfunds
      rw [toNat_deducted_balance hle] at hfunds'
      omega

/-- From TsukiV2 on, an accepted sender is charged, and its balance covered the largest
gas fee, the value and the L1 fee. -/
theorem deductCallerTsukiV2_ok (hm : LawfulMainnet self.mainnet)
    (htype : TransactionType.ofU8 env.tx.txType ≠ .eip4844) (hmsg : env.tx.isL1Msg = false)
    (h : (self.deductCallerTsukiV2 env).run c = .ok () c') :
    ∃ l1Cost, ChargedBy self.mainnet env c c' l1Cost ∧
      self.mainnet.maxGasFee env + env.tx.value.toNat + l1Cost.toNat ≤
        (c.view.info env.tx.caller).balance.toNat := by
  unfold deductCallerTsukiV2 at h
  simp only [hmsg, Bool.not_false, if_true, Bool.true_and] at h
  have hfee := hm.gasFee_le env
  cases hsystem : env.tx.isSystemTx with
  | true =>
    simp only [hsystem, Bool.not_true, Bool.false_eq_true, if_false, pure_bind] at h
    obtain ⟨_, c₁, hdeduct, hret⟩ := run_bind_eq_ok.mp h
    cases hret
    obtain ⟨hchain, haccepts, -, hinfo⟩ := mainnetDeduct_ok hm htype hdeduct
    have hcovers := (hm.accepts_covers htype haccepts).2
    refine ⟨0, ⟨hchain, haccepts, ?_, ?_, ?_⟩, hcovers⟩
    · rw [L1CostIs, hsystem, if_pos rfl]
    · exact hfee.trans ((Nat.le_add_right _ _).trans hcovers)
    · rw [charged_zero, hinfo]
  | false =>
    simp only [hsystem, Bool.not_false, if_true] at h
    obtain ⟨cost, c₁, hcheck, h₁⟩ := run_bind_eq_ok.mp h
    obtain ⟨hchain₁, hsame, hcost, spending, hmax, hle⟩ := checkTotalSpending_ok hcheck
    rw [((hm.maxBalanceSpending_eq_ok htype).mp hmax).2] at hle
    obtain ⟨_, c₂, hdeduct, h₂⟩ := run_bind_eq_ok.mp h₁
    obtain ⟨hchain₂, haccepts, hstate, hinfo⟩ := mainnetDeduct_ok hm htype hdeduct
    rw [hsame] at haccepts hinfo
    have hcovers : self.mainnet.gasFee env + cost.toNat ≤
        (c.view.info env.tx.caller).balance.toNat := by omega
    have hfunds : cost ≤ (c₂.view.info env.tx.caller).balance := by
      rw [hinfo, Function.update_self, BitVec.le_def, toNat_deducted_balance (by omega)]
      omega
    obtain ⟨c₃, hrun, hchain₃, hinfo'⟩ := deductCheckedL1Fee_run hstate hfunds
    cases hrun.symm.trans h₂
    rw [hinfo, Function.update_self, Function.update_idem] at hinfo'
    refine ⟨cost, ⟨hchain₃.trans (hchain₂.trans hchain₁), haccepts, ?_, hcovers, hinfo'⟩, hle⟩
    rw [L1CostIs, hsystem, if_neg Bool.false_ne_true]
    exact hcost

/-- A sender that is not charged from TsukiV2 on keeps its balance and nonce, as every
account: the database failed, the mainnet checks refused it, or the L1 fee, the spending
or the balance did. -/
theorem deductCallerTsukiV2_error (hm : LawfulMainnet self.mainnet)
    (hmsg : env.tx.isL1Msg = false) (hsystem : env.tx.isSystemTx = false) {e : EVMError ε}
    (htype : TransactionType.ofU8 env.tx.txType ≠ .eip4844)
    (h : (self.deductCallerTsukiV2 env).run c = .error e c') :
    c'.view.info = c.view.info ∧
      ((∃ d, e = .database d) ∨
        ¬self.mainnet.Accepts env (c.view.info env.tx.caller) ∨
        ¬∃ cost spending, txL1Cost c.chain env.tx env.cfg.spec = .ok cost ∧
          self.mainnet.maxBalanceSpending env.tx.base = .ok spending ∧
          spending.toNat + cost.toNat ≤ (c.view.info env.tx.caller).balance.toNat) := by
  unfold deductCallerTsukiV2 at h
  simp only [hmsg, hsystem, Bool.not_false, if_true, Bool.and_self] at h
  rcases run_bind_eq_error.mp h with hcheck | ⟨cost, c₁, hcheck, h₁⟩
  · obtain ⟨-, hsame, hreason⟩ := checkTotalSpending_error hcheck
    exact ⟨hsame, hreason.imp_right Or.inr⟩
  obtain ⟨-, hsame, hcost, spending, hmax, hle⟩ := checkTotalSpending_ok hcheck
  rcases run_bind_eq_error.mp h₁ with hdeduct | ⟨_, c₂, hdeduct, h₂⟩
  · obtain ⟨-, hsame', hreason⟩ := mainnetDeduct_error hm hdeduct
    rw [hsame] at hreason
    exact ⟨hsame'.trans hsame, hreason.imp_right Or.inl⟩
  -- the sender is cached and covers the L1 fee, so the last deduction cannot fail
  obtain ⟨-, -, hstate, hinfo⟩ := mainnetDeduct_ok hm htype hdeduct
  have hfee := hm.gasFee_le env
  rw [((hm.maxBalanceSpending_eq_ok htype).mp hmax).2] at hle
  have hfunds : cost ≤ (c₂.view.info env.tx.caller).balance := by
    rw [hinfo, Function.update_self, hsame, BitVec.le_def, toNat_deducted_balance (by omega)]
    omega
  obtain ⟨c₃, hrun, -, -⟩ := deductCheckedL1Fee_run (ε := ε) hstate hfunds
  cases hrun.symm.trans h₂

/-- Under every hardfork, an accepted sender of a transaction that is no L1 message is
charged the gas fee and the L1 fee. -/
theorem validateAgainstStateAndDeductCaller_ok (hm : LawfulMainnet self.mainnet)
    (htype : TransactionType.ofU8 env.tx.txType ≠ .eip4844) (hmsg : env.tx.isL1Msg = false)
    (h : (self.validateAgainstStateAndDeductCaller env).run c = .ok () c') :
    ∃ l1Cost, ChargedBy self.mainnet env c c' l1Cost ∧
      (env.cfg.spec.isEnabledIn .tsukiV2 = true →
        self.mainnet.maxGasFee env + env.tx.value.toNat + l1Cost.toNat ≤
          (c.view.info env.tx.caller).balance.toNat) := by
  unfold validateAgainstStateAndDeductCaller at h
  simp only [hmsg, Bool.false_eq_true, if_false] at h
  cases hspec : env.cfg.spec.isEnabledIn .tsukiV2 with
  | false =>
    simp only [hspec, Bool.not_false, if_true] at h
    obtain ⟨_, c₁, hdeduct, hret⟩ := run_bind_eq_ok.mp h
    cases hret
    obtain ⟨l1Cost, hcharged⟩ := deductCallerBeforeTsukiV2_ok hm htype hmsg hdeduct
    exact ⟨l1Cost, hcharged, fun h => absurd h Bool.false_ne_true⟩
  | true =>
    simp only [hspec, Bool.not_true, Bool.false_eq_true, if_false] at h
    obtain ⟨_, c₁, hdeduct, hret⟩ := run_bind_eq_ok.mp h
    cases hret
    obtain ⟨l1Cost, hcharged, hle⟩ := deductCallerTsukiV2_ok hm htype hmsg hdeduct
    exact ⟨l1Cost, hcharged, fun _ => hle⟩

end ScrollHandler

end ScrollRevm
