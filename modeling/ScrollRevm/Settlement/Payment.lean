import ScrollRevm.Settlement.Charge

/-!
# The steps that pay

After execution the sender gets back what the unused gas cost and the beneficiary gets what
the gas used cost together with the L1 fee. Each step is one credit of one account, and for
an L1 message it is none.
-/

namespace ScrollRevm

open FixedWidth StateResult

variable {J ε G R X : Type} [JournalTr J ε] [GasTr G R]

/-- A step from `c` to `c'` credited one account and changed no other information. -/
structure CreditedBy (c c' : Ctx J) (address : Address) (amount : U256) : Prop where
  chain_eq : c'.chain = c.chain
  info_eq : c'.view.info = Function.update c.view.info address
    ((c.view.info address).credit amount)

/-- The reward of the beneficiary. -/
def MainnetHandler.reward (mainnet : MainnetHandler J ε G R X) (env : Env) (gas : G)
    (l1Cost : U256) : U256 :=
  satAdd (satMul ((mainnet.price env).setWidth 256) ((GasTr.used gas).setWidth 256)) l1Cost

omit [JournalTr J ε] in
/-- The reward is what the gas used costs and the L1 fee, as far as a word goes. -/
theorem MainnetHandler.toNat_reward_eq_min (mainnet : MainnetHandler J ε G R X) (env : Env)
    (gas : G) (l1Cost : U256) :
    (mainnet.reward env gas l1Cost).toNat =
      min (2 ^ 256 - 1)
        ((mainnet.price env).toNat * (GasTr.used gas).toNat + l1Cost.toNat) := by
  have hmax : maxNat 256 = 2 ^ 256 - 1 := rfl
  rw [MainnetHandler.reward, toNat_satAdd, toNat_satMul, BitVec.toNat_setWidth_of_le (by decide),
    BitVec.toNat_setWidth_of_le (by decide), hmax]
  omega

omit [JournalTr J ε] in
/-- The reward is exact where the gas used costs at most what was charged. -/
theorem toNat_reward (mainnet : MainnetHandler J ε G R X) (env : Env) (gas : G) {l1Cost : U256}
    (h : (mainnet.price env).toNat * (GasTr.used gas).toNat + l1Cost.toNat < 2 ^ 256) :
    (mainnet.reward env gas l1Cost).toNat =
      (mainnet.price env).toNat * (GasTr.used gas).toNat + l1Cost.toNat := by
  rw [mainnet.toNat_reward_eq_min]
  omega

namespace ScrollHandler

variable {self : ScrollHandler J ε G R X} {env : Env} {frame : FrameResult G} {c c' : Ctx J}

/-! ## L1 messages -/

omit [JournalTr J ε] [GasTr G R] in
/-- An L1 message returns no gas to its sender. -/
theorem reimburseCaller_isL1Msg (hmsg : env.tx.isL1Msg = true) (frame : FrameResult G) :
    self.reimburseCaller env frame = pure () := by
  unfold reimburseCaller
  rw [if_pos hmsg]

/-- An L1 message pays no beneficiary. -/
theorem rewardBeneficiary_isL1Msg (hmsg : env.tx.isL1Msg = true)
    (frame : FrameResult G) : self.rewardBeneficiary env frame = pure () := by
  unfold rewardBeneficiary
  rw [if_pos hmsg]

theorem postExecution_isL1Msg (hmsg : env.tx.isL1Msg = true)
    (frame : FrameResult G) (init : InitialAndFloorGas) (refund : I64) :
    self.postExecution env frame init refund = pure (settle env frame init refund) := by
  unfold postExecution
  simp only [reimburseCaller_isL1Msg hmsg, rewardBeneficiary_isL1Msg hmsg, pure_bind]

/-! ## Other transactions -/

theorem reimburseCaller_ok (hm : LawfulMainnet self.mainnet) (hmsg : env.tx.isL1Msg = false)
    (h : (self.reimburseCaller env frame).run c = .ok () c') :
    CreditedBy c c' env.tx.caller (self.mainnet.reimbursement env frame.gas) := by
  unfold reimburseCaller at h
  rw [hmsg, if_neg Bool.false_ne_true] at h
  obtain ⟨j, hrun, rfl⟩ := run_focus_eq_ok.mp h
  exact ⟨rfl, hm.reimburseCaller_ok hrun⟩

theorem reimburseCaller_error (hm : LawfulMainnet self.mainnet) (hmsg : env.tx.isL1Msg = false)
    {e : EVMError ε} (h : (self.reimburseCaller env frame).run c = .error e c') :
    ∃ d, e = .database d := by
  unfold reimburseCaller at h
  rw [hmsg, if_neg Bool.false_ne_true] at h
  obtain ⟨e', j, hrun, rfl, rfl⟩ := run_focus_eq_error.mp h
  exact hm.reimburseCaller_error hrun

/-- With a computable L1 fee, rewarding the beneficiary is one credit. -/
theorem rewardBeneficiary_eq (hmsg : env.tx.isL1Msg = false) {l1Cost : U256}
    (hcost : L1CostIs env c.chain l1Cost) :
    (self.rewardBeneficiary env frame).run c =
      (journalMut (JournalTr.balanceIncr env.block.beneficiary
        (self.mainnet.reward env frame.gas l1Cost))).run c := by
  unfold rewardBeneficiary
  rw [hmsg, if_neg Bool.false_ne_true]
  rw [L1CostIs] at hcost
  cases hsystem : env.tx.isSystemTx with
  | true =>
    rw [hsystem, if_pos rfl] at hcost
    subst hcost
    rfl
  | false =>
    rw [hsystem, if_neg Bool.false_ne_true] at hcost
    exact run_bind_of_ok (stepL1Cost_run_eq_ok.mpr ⟨hcost, rfl⟩)

theorem rewardBeneficiary_ok [LawfulJournal J] (hmsg : env.tx.isL1Msg = false) {l1Cost : U256}
    (hcost : L1CostIs env c.chain l1Cost)
    (h : (self.rewardBeneficiary env frame).run c = .ok () c') :
    CreditedBy c c' env.block.beneficiary (self.mainnet.reward env frame.gas l1Cost) := by
  rw [rewardBeneficiary_eq hmsg hcost] at h
  obtain ⟨j, hrun, rfl⟩ := run_focus_eq_ok.mp h
  exact ⟨rfl, (Journal.balanceIncr_ok ((LawfulJournal.balanceIncr _ _).ok hrun)).1⟩

theorem rewardBeneficiary_error (hmsg : env.tx.isL1Msg = false) {l1Cost : U256}
    (hcost : L1CostIs env c.chain l1Cost) {e : EVMError ε}
    (h : (self.rewardBeneficiary env frame).run c = .error e c') : ∃ d, e = .database d := by
  rw [rewardBeneficiary_eq hmsg hcost] at h
  obtain ⟨d, j, -, rfl, -⟩ := run_focus_eq_error.mp h
  exact ⟨d, rfl⟩

/-- A post execution that succeeds is the two steps that pay, on the settled gas. -/
theorem postExecution_split {init : InitialAndFloorGas} {refund : I64}
    {settled : FrameResult G × R}
    (h : (self.postExecution env frame init refund).run c = .ok settled c') :
    settled = settle env frame init refund ∧
      ∃ c₁, (self.reimburseCaller env settled.1).run c = .ok () c₁ ∧
        (self.rewardBeneficiary env settled.1).run c₁ = .ok () c' := by
  obtain ⟨_, c₁, hreimburse, h₁⟩ := run_bind_eq_ok.mp h
  obtain ⟨_, c₂, hreward, hret⟩ := run_bind_eq_ok.mp h₁
  cases hret
  exact ⟨rfl, c₁, hreimburse, hreward⟩

/-- After execution only the database can fail: the L1 fee was computed before. -/
theorem postExecution_error (hm : LawfulMainnet self.mainnet) (hmsg : env.tx.isL1Msg = false)
    {l1Cost : U256} (hcost : L1CostIs env c.chain l1Cost) {init : InitialAndFloorGas}
    {refund : I64} {e : EVMError ε}
    (h : (self.postExecution env frame init refund).run c = .error e c') :
    ∃ d, e = .database d := by
  rcases run_bind_eq_error.mp h with hreimburse | ⟨_, c₁, hreimburse, h₁⟩
  · exact reimburseCaller_error hm hmsg hreimburse
  rw [← (reimburseCaller_ok hm hmsg hreimburse).chain_eq] at hcost
  rcases run_bind_eq_error.mp h₁ with hreward | ⟨_, _, _, hret⟩
  · exact rewardBeneficiary_error hmsg hcost hreward
  · cases hret

end ScrollHandler

end ScrollRevm
