import ScrollRevm.Lib.Ledger
import ScrollRevm.Revm.Reference
import ScrollRevm.Settlement.Gas
import ScrollRevm.Settlement.PreExecution

/-!
# The fee machinery conserves the balances

The gas fee and the L1 fee leave the sender up front; after execution the unused gas
returns to the sender and the rest goes to the beneficiary. The two credits add up to
the debit, whoever sender, recipient and beneficiary are, so the sum of all balances
is the one before the transaction.
-/

namespace ScrollRevm

open FixedWidth StateResult Ledger

variable {J ε G R X : Type} [JournalTr J ε] [GasTr G R] [ResultGasTr R]

theorem AccountInfo.credit_balance (info : AccountInfo) {amount : U256}
    (h : info.balance.toNat + amount.toNat < 2 ^ 256) :
    (info.credit amount).balance.toNat = info.balance.toNat + amount.toNat := by
  have hadd : checkedAdd info.balance amount = some (info.balance + amount) := if_pos h
  rw [AccountInfo.credit, hadd, Option.getD_some]
  exact checkedAdd_eq_some.mp hadd

/-! ## The balances of a transaction -/

/-- What happens to the balances: the charge, the frames, the reimbursement of the sender
and the reward of the beneficiary, each exact. -/
structure FeesSettled (mainnet : MainnetHandler J ε G R X) (env : Env)
    (before charged executed after : Address → U256) (gasUsed : Nat) (l1Cost : U256) :
    Prop where
  /-- The sender pays the gas limit at the effective price and the L1 fee. -/
  debit : (charged env.tx.caller).toNat + (mainnet.gasFee env + l1Cost.toNat) =
    (before env.tx.caller).toNat
  debit_other : ∀ a, a ≠ env.tx.caller → charged a = before a
  /-- The sender gets back all but the gas used, the beneficiary gets the gas used and the
  L1 fee: exactly the net debit of the sender. -/
  credit : ∃ reimbursed rewarded reimbursement,
    reimbursement + (mainnet.price env).toNat * gasUsed = mainnet.gasFee env ∧
      reimbursed.toNat = (executed env.tx.caller).toNat + reimbursement ∧
      rewarded.toNat =
        (Function.update executed env.tx.caller reimbursed env.block.beneficiary).toNat +
          ((mainnet.price env).toNat * gasUsed + l1Cost.toNat) ∧
      after = Function.update (Function.update executed env.tx.caller reimbursed)
        env.block.beneficiary rewarded

omit [JournalTr J ε] [GasTr G R] [ResultGasTr R] in
/-- Settled fees keep the sum of all balances where the frames keep it. -/
theorem FeesSettled.total_eq {mainnet : MainnetHandler J ε G R X} {env : Env}
    {before charged executed after : Address → U256} {gasUsed : Nat} {l1Cost : U256}
    (h : FeesSettled mainnet env before charged executed after gasUsed l1Cost)
    (hframes : total executed = total charged) : total after = total before := by
  have hcharged : charged =
      Function.update before env.tx.caller (charged env.tx.caller) := by
    funext a
    by_cases ha : a = env.tx.caller
    · subst ha
      rw [Function.update_self]
    · rw [Function.update_of_ne ha, h.debit_other a ha]
  have hdebit := total_debit h.debit
  rw [← hcharged] at hdebit
  obtain ⟨reimbursed, rewarded, reimbursement, hsum, hreimbursed, hrewarded, rfl⟩ := h.credit
  rw [total_credit hrewarded, total_credit hreimbursed]
  omega

omit [GasTr G R] [ResultGasTr R] in
/-- The charge before execution as a debit of the sender. -/
theorem PreExecuted.debit {mainnet : MainnetHandler J ε G R X} {env : Env} {c c' : Ctx J}
    {l1Cost : U256} (h : PreExecuted mainnet env c c' l1Cost) :
    (c'.view.balance env.tx.caller).toNat + (mainnet.gasFee env + l1Cost.toNat) =
        (c.view.balance env.tx.caller).toNat ∧
      ∀ a, a ≠ env.tx.caller → c'.view.balance a = c.view.balance a := by
  have hcovers := h.covers
  rw [h.balance_eq, Function.update_self, toNat_charged_balance hcovers]
  refine ⟨?_, fun a ha => Function.update_of_ne ha _ _⟩
  rw [Journal.balance]
  omega

variable [LawfulGas G] [LawfulJournal J]

section PostExecution

variable {self : ScrollHandler J ε G R X} {env : Env} {frame : FrameResult G}
  {init : InitialAndFloorGas} {refund : I64} {c c' : Ctx J} {l1Cost : U256}

/-- After execution the sender is credited for the unused gas, and the beneficiary for the
gas used and the L1 fee, exactly where the credits keep the sum of all balances in a
word. -/
theorem postExecution_ok (hm : LawfulMainnet self.mainnet) (hmsg : env.tx.isL1Msg = false)
    (hcost : L1CostIs env c.chain l1Cost) (hfee : self.mainnet.gasFee env < 2 ^ 128)
    {settled : FrameResult G × R}
    (hbalanced : Balanced (ScrollHandler.settle env frame init refund).1.gas env.tx.gasLimit)
    (hlt : total c.view.balance + (self.mainnet.gasFee env + l1Cost.toNat) < 2 ^ 256)
    (h : (self.postExecution env frame init refund).run c = .ok settled c') :
    settled = ScrollHandler.settle env frame init refund ∧
      ∃ reimbursed rewarded reimbursement,
        reimbursement + (self.mainnet.price env).toNat * (GasTr.used settled.1.gas).toNat =
            self.mainnet.gasFee env ∧
          reimbursed.toNat = (c.view.balance env.tx.caller).toNat + reimbursement ∧
          rewarded.toNat =
            (Function.update c.view.balance env.tx.caller reimbursed
              env.block.beneficiary).toNat +
              ((self.mainnet.price env).toNat * (GasTr.used settled.1.gas).toNat +
                l1Cost.toNat) ∧
          c'.view.balance =
            Function.update (Function.update c.view.balance env.tx.caller reimbursed)
              env.block.beneficiary rewarded := by
  obtain ⟨rfl, c₁, hreimburse, hreward⟩ := ScrollHandler.postExecution_split h
  obtain ⟨hchain, hinfo₁⟩ := ScrollHandler.reimburseCaller_ok hm hmsg hreimburse
  rw [← hchain] at hcost
  have hinfo₂ := (ScrollHandler.rewardBeneficiary_ok hmsg hcost hreward).info_eq
  have hsplit := hbalanced.reimbursement self.mainnet hfee
  have hroom : total c.view.balance + (self.mainnet.reimbursement env
      (ScrollHandler.settle env frame init refund).1.gas).toNat < 2 ^ 256 := by omega
  have hreimbursed := AccountInfo.credit_balance (c.view.info env.tx.caller)
    (credit_lt hroom env.tx.caller)
  have hbalance₁ : c₁.view.balance = _ :=
    (congrArg (fun info a => AccountInfo.balance (info a)) hinfo₁).trans
      (balance_update c.view env.tx.caller _)
  have htotal₁ : total c₁.view.balance = total c.view.balance +
      (self.mainnet.reimbursement env
        (ScrollHandler.settle env frame init refund).1.gas).toNat := by
    rw [hbalance₁]
    exact total_credit hreimbursed
  have hpaid : (self.mainnet.price env).toNat *
      (GasTr.used (ScrollHandler.settle env frame init refund).1.gas).toNat + l1Cost.toNat <
        2 ^ 256 := by omega
  have hrewardNat := toNat_reward self.mainnet env _ hpaid
  have hroom₁ : total c₁.view.balance + (self.mainnet.reward env
      (ScrollHandler.settle env frame init refund).1.gas l1Cost).toNat < 2 ^ 256 := by omega
  have hrewarded := AccountInfo.credit_balance (c₁.view.info env.block.beneficiary)
    (credit_lt hroom₁ env.block.beneficiary)
  have hbalance₂ : c'.view.balance = _ :=
    (congrArg (fun info a => AccountInfo.balance (info a)) hinfo₂).trans
      (balance_update c₁.view env.block.beneficiary _)
  rw [hrewardNat] at hrewarded
  refine ⟨rfl, _, _, _, hsplit, hreimbursed, hrewarded.trans ?_, ?_⟩
  · rw [← hbalance₁]
    rfl
  · rw [← hbalance₁]
    exact hbalance₂

end PostExecution

/-- The fee machinery conserves the balances, and its L1 fee is the one deducted up
front. -/
theorem fee_conservation (self : ScrollHandler J ε G R X) (hm : LawfulMainnet self.mainnet)
    (env : Env) (hmsg : env.tx.isL1Msg = false) {init : InitialAndFloorGas}
    (hvalid : self.validate (ε := ε) env = .ok init) {refund : U64} {c₀ c₁ c₂ : Ctx J}
    (hpre : (self.preExecution env).run c₀ = .ok refund c₁) {frame : FrameResult G}
    (hframe : (mainnetStep (self.mainnet.runExecLoop env
      (env.tx.gasLimit - init.initialGas))).run c₁ = .ok frame c₂)
    (hremaining : (GasTr.remaining frame.gas).toNat ≤
      env.tx.gasLimit.toNat - init.initialGas.toNat)
    (hsum : total c₂.view.balance = total c₁.view.balance)
    (hlt : total c₀.view.balance < 2 ^ 256) :
    (∀ e c₃, (self.postExecution env (ScrollHandler.lastFrameResult env frame) init refund).run
      c₂ = .error e c₃ → ∃ d, e = .database d) ∧
    ∀ settled c₃, (self.postExecution env (ScrollHandler.lastFrameResult env frame) init
      refund).run c₂ = .ok settled c₃ →
      total c₃.view.balance = total c₀.view.balance ∧
        ∃ l1Cost, L1CostIs env c₁.chain l1Cost ∧
          FeesSettled self.mainnet env c₀.view.balance c₁.view.balance c₂.view.balance
            c₃.view.balance (GasTr.used settled.1.gas).toNat l1Cost := by
  obtain ⟨htype, hinit⟩ := validate_ok hm hvalid
  obtain ⟨l1Cost, hcharged⟩ := preExecution_ok hm htype hmsg hpre
  obtain ⟨j, -, rfl⟩ := run_focus_eq_ok.mp hframe
  obtain ⟨-, hfloor, -⟩ := validateInitialTxGas_ok hinit
  obtain ⟨hdebit, hother⟩ := hcharged.debit
  have hfee : self.mainnet.gasFee env < 2 ^ 128 :=
    (hm.gasFee_le env).trans_lt (hm.accepts_covers htype hcharged.accepts).1
  have hbalanced := (settle_not_isL1Msg hmsg hfloor
    (hremaining.trans (Nat.sub_le _ _)) refund).1
  refine ⟨fun e c₃ h =>
      ScrollHandler.postExecution_error (c := c₁.withJournal j) hm hmsg hcharged.l1Cost_is h,
    fun settled c₃ h => ?_⟩
  have htotal : total c₁.view.balance + (self.mainnet.gasFee env + l1Cost.toNat) =
      total c₀.view.balance := by
    rw [hcharged.balance_eq] at hdebit ⊢
    rw [Function.update_self] at hdebit
    exact total_debit hdebit
  obtain ⟨rfl, hcredit⟩ := postExecution_ok (c := c₁.withJournal j) hm hmsg
    hcharged.l1Cost_is hfee hbalanced
    (by rw [hsum, htotal]; exact hlt) h
  have hsettled : FeesSettled self.mainnet env c₀.view.balance c₁.view.balance
      (c₁.withJournal j).view.balance c₃.view.balance _ l1Cost := ⟨hdebit, hother, hcredit⟩
  exact ⟨hsettled.total_eq hsum, l1Cost, hcharged.l1Cost_is, hsettled⟩

open ReferenceMainnet in
/-- A call that sends 200 wei keeps the sum of all balances. -/
theorem fee_conservation_call :
    ∃ refund c₁ frame c₂ settled c₃,
      (sampleHandler.preExecution (sampleEnv .tsukiV2 (.call 5) 200)).run
          ⟨sampleJournal 60300, {}⟩ = .ok refund c₁ ∧
        (mainnetStep (sampleHandler.mainnet.runExecLoop (sampleEnv .tsukiV2 (.call 5) 200)
          (60000 - 21000))).run c₁ = .ok frame c₂ ∧
        (sampleHandler.postExecution (sampleEnv .tsukiV2 (.call 5) 200)
          (ScrollHandler.lastFrameResult (sampleEnv .tsukiV2 (.call 5) 200) frame)
          ⟨21000, 21000⟩ refund).run c₂ = .ok settled c₃ ∧
        total c₃.view.balance = total (sampleJournal 60300).balance := by
  obtain ⟨refund, c₁, frame, c₂, settled, c₃, hpre, hframe, hpost, hstop, hremaining⟩ :
      ∃ refund c₁ frame c₂ settled c₃,
        (sampleHandler.preExecution (sampleEnv .tsukiV2 (.call 5) 200)).run
            ⟨sampleJournal 60300, {}⟩ = .ok refund c₁ ∧
          (mainnetStep (sampleHandler.mainnet.runExecLoop (sampleEnv .tsukiV2 (.call 5) 200)
            (60000 - 21000))).run c₁ = .ok frame c₂ ∧
          (sampleHandler.postExecution (sampleEnv .tsukiV2 (.call 5) 200)
            (ScrollHandler.lastFrameResult (sampleEnv .tsukiV2 (.call 5) 200) frame)
            ⟨21000, 21000⟩ refund).run c₂ = .ok settled c₃ ∧
          frame.result = .stop ∧ (GasTr.remaining frame.gas).toNat ≤ 60000 - 21000 :=
    ⟨_, _, _, _, _, _, rfl, rfl, rfl, rfl, by decide⟩
  obtain ⟨j, hrun, hc₂⟩ := run_focus_eq_ok.mp hframe
  have hsum : total c₂.view.balance = total c₁.view.balance := by
    have hframes : (emptyFrames 9 (sampleEnv .tsukiV2 (.call 5) 200) (60000 - 21000)).run
        c₁.journal = .ok frame j := hrun
    rw [hc₂]
    exact emptyFrames_total hframes rfl hstop
  have hlt : total (sampleJournal 60300).balance < 2 ^ 256 := by
    rw [total_sampleJournal]
    decide
  have hsettled := (fee_conservation sampleHandler lawful (sampleEnv .tsukiV2 (.call 5) 200)
    rfl rfl hpre hframe hremaining hsum hlt).2 settled c₃ hpost
  exact ⟨refund, c₁, frame, c₂, settled, c₃, hpre, hframe, hpost, hsettled.1⟩

end ScrollRevm
