import ScrollRevm.Revm.Reference
import ScrollRevm.Settlement.Payment

/-!
# The gas of a transaction is settled exactly

A counter is balanced when neither its remaining gas nor its refund exceeds what it can
hold; then remaining gas, refund and gas used add up to the limit. Every step from the
last frame to the floor keeps the counter balanced, so the gas used is the same number
for the sender, the beneficiary and the receipt.
-/

namespace ScrollRevm

open FixedWidth StateResult

/-! ## Intrinsic and floor gas -/

/-- Accepted intrinsic and floor gas are part of the gas limit, and before Feynman there
is no floor. -/
theorem validateInitialTxGas_ok {env : Env} {gas : InitialAndFloorGas}
    (h : ScrollHandler.validateInitialTxGas env = .ok gas) :
    gas.initialGas ≤ env.tx.gasLimit ∧ gas.floorGas ≤ env.tx.gasLimit ∧
      (env.cfg.spec.isEnabledIn .feynman = false → gas.floorGas = 0) := by
  unfold ScrollHandler.validateInitialTxGas at h
  simp only [throw, throwThe, MonadExceptOf.throw, bind, Except.bind, pure, Except.pure] at h
  by_cases hinitial : env.tx.gasLimit < (ScrollHandler.initialAndFloorGas env).initialGas
  · rw [if_pos hinitial] at h
    cases h
  · rw [if_neg hinitial] at h
    split at h
    · cases h
    · rename_i hfloor
      cases h
      have hzero : env.cfg.spec.isEnabledIn .feynman = false →
          (ScrollHandler.initialAndFloorGas env).floorGas = 0 := by
        intro hspec
        simp only [ScrollHandler.initialAndFloorGas, hspec, Bool.not_false, Bool.or_true,
          if_true]
      refine ⟨BitVec.not_lt.mp hinitial, ?_, hzero⟩
      cases hspec : env.cfg.spec.isEnabledIn .feynman with
      | false =>
        rw [hzero hspec]
        exact Nat.zero_le _
      | true => simpa [hspec] using hfloor

/-! ## Balanced counters -/

section Balanced

variable {G R : Type} [GasTr G R]

open GasTr in
/-- A counter of a transaction with the given limit: the remaining gas is part of the
limit and the refund part of the spent gas. -/
structure Balanced (gas : G) (gasLimit : U64) : Prop where
  limit_eq : limit gas = gasLimit
  remaining_le : (remaining gas).toNat ≤ gasLimit.toNat
  refunded_le : (refunded gas).toNat ≤ gasLimit.toNat - (remaining gas).toNat

variable {gas : G} {gasLimit : U64}

theorem Balanced.toNat_spent (h : Balanced gas gasLimit) :
    (GasTr.spent gas).toNat = gasLimit.toNat - (GasTr.remaining gas).toNat := by
  rw [GasTr.spent, h.limit_eq]
  exact BitVec.toNat_sub_of_le h.remaining_le

variable [ResultGasTr R] [LawfulGas G]

theorem Balanced.toNat_used (h : Balanced gas gasLimit) :
    (GasTr.used gas).toNat =
      gasLimit.toNat - (GasTr.remaining gas).toNat - (GasTr.refunded gas).toNat := by
  rw [LawfulGas.used_eq, toNat_satSub, h.toNat_spent]

/-- Remaining gas, refund and gas used partition the limit. -/
theorem Balanced.partition (h : Balanced gas gasLimit) :
    (GasTr.remaining gas).toNat + (GasTr.refunded gas).toNat + (GasTr.used gas).toNat =
      gasLimit.toNat := by
  have hused := h.toNat_used
  have hremaining := h.remaining_le
  have hrefunded := h.refunded_le
  omega

/-- The floor keeps a counter balanced. -/
theorem Balanced.eip7623CheckGasFloor (h : Balanced gas gasLimit) (i : InitialAndFloorGas) :
    Balanced (GasTr.eip7623CheckGasFloor gas i) gasLimit := by
  by_cases hlt : GasTr.used gas < i.floorGas
  · obtain ⟨hl, hr, hf⟩ := LawfulGas.eip7623CheckGasFloor_of_lt gas i hlt
    refine ⟨hl.trans h.limit_eq, ?_, ?_⟩
    · rw [hr, toNat_satSub, h.limit_eq]
      exact Nat.sub_le _ _
    · rw [hf]
      exact Nat.zero_le _
  · rwa [LawfulGas.eip7623CheckGasFloor_of_le gas i (BitVec.not_lt.mp hlt)]

/-- After the floor check the gas used is the larger of the gas used before and the
floor. -/
theorem Balanced.used_eip7623CheckGasFloor (h : Balanced gas gasLimit) {i : InitialAndFloorGas}
    (hfloor : i.floorGas ≤ gasLimit) :
    GasTr.used (GasTr.eip7623CheckGasFloor gas i) =
      if GasTr.used gas < i.floorGas then i.floorGas else GasTr.used gas := by
  by_cases hlt : GasTr.used gas < i.floorGas
  · obtain ⟨hl, hr, hf⟩ := LawfulGas.eip7623CheckGasFloor_of_lt gas i hlt
    have hused := (h.eip7623CheckGasFloor i).toNat_used
    have hle : i.floorGas.toNat ≤ gasLimit.toNat := hfloor
    have hzero : (0 : I64).toNat = 0 := rfl
    rw [hr, hf, toNat_satSub, h.limit_eq, hzero] at hused
    rw [if_pos hlt]
    apply BitVec.eq_of_toNat_eq
    omega
  · rw [if_neg hlt, LawfulGas.eip7623CheckGasFloor_of_le gas i (BitVec.not_lt.mp hlt)]

omit [ResultGasTr R] in
@[simp] theorem GasTr.spent_refund [ResultGasTr R] [LawfulGas G] (spec : SpecId) (gas : G)
    (refund : I64) : spent (GasTr.refund spec gas refund) = spent gas := by
  rw [spent, LawfulGas.limit_refund, LawfulGas.remaining_refund, spent]

/-- The refund is part of the quotient of the spent gas. -/
theorem toNat_refunded_refund_le (spec : SpecId) (gas : G) (refund : I64) :
    (GasTr.refunded (GasTr.refund spec gas refund)).toNat ≤
      (GasTr.spent gas).toNat / (GasTr.refundQuotient spec).toNat := by
  rw [LawfulGas.refunded_refund, toNat_wordMin, BitVec.toNat_udiv]
  exact min_le_right _ _

end Balanced

/-! ## The steps of the handler -/

section Steps

variable {G R : Type} [GasTr G R] [ResultGasTr R] [LawfulGas G]
variable {env : Env} {frame : FrameResult G} {init : InitialAndFloorGas} {refund : I64}

/-- The last frame leaves the limit of the transaction, the remaining gas of a frame
that succeeded or reverted, and no refund of an L1 message. -/
theorem lastFrameResult_gas (env : Env) (frame : FrameResult G) :
    GasTr.limit (ScrollHandler.lastFrameResult env frame).gas = env.tx.gasLimit ∧
      GasTr.remaining (ScrollHandler.lastFrameResult env frame).gas =
        (if frame.result.isOkOrRevert then GasTr.remaining frame.gas else 0) ∧
      (env.tx.isL1Msg = true →
        GasTr.refunded (ScrollHandler.lastFrameResult env frame).gas = 0) := by
  unfold ScrollHandler.lastFrameResult
  cases hresult : frame.result.isOkOrRevert <;>
    cases hmsg : env.tx.isL1Msg <;> cases hok : frame.result.isOk <;> simp

omit [ResultGasTr R] [LawfulGas G] in
/-- The gas of an L1 message is left alone by refund and floor. -/
theorem settle_of_isL1Msg (hmsg : env.tx.isL1Msg = true) :
    ScrollHandler.settle env frame init refund =
      (frame, GasTr.buildResultGas frame.gas init) := by
  simp only [ScrollHandler.settle, ScrollHandler.refund, ScrollHandler.eip7623CheckGasFloor,
    hmsg, if_true]

omit [ResultGasTr R] [LawfulGas G] in
/-- The gas of any other transaction is refunded and then raised to the floor. -/
theorem settle_of_not_isL1Msg (hmsg : env.tx.isL1Msg = false) (frame : FrameResult G)
    (init : InitialAndFloorGas) (refund : I64) :
    (ScrollHandler.settle env frame init refund).1.gas =
        GasTr.eip7623CheckGasFloor
          (GasTr.refund env.cfg.spec.intoEthSpecId frame.gas refund) init ∧
      (ScrollHandler.settle env frame init refund).2 =
        GasTr.buildResultGas (GasTr.refund env.cfg.spec.intoEthSpecId frame.gas refund) init := by
  simp only [ScrollHandler.settle, ScrollHandler.refund, ScrollHandler.eip7623CheckGasFloor,
    hmsg, Bool.false_eq_true, if_false, and_self]

theorem toNat_refundQuotient (env : Env) :
    (GasTr.refundQuotient env.cfg.spec.intoEthSpecId).toNat = 5 := by
  rw [ScrollSpecId.intoEthSpecId_eq]
  rfl

/-- After the last frame, the counter of an L1 message is balanced. -/
theorem balanced_lastFrameResult (hmsg : env.tx.isL1Msg = true)
    (hremaining : GasTr.remaining frame.gas ≤ env.tx.gasLimit) :
    Balanced (ScrollHandler.lastFrameResult env frame).gas env.tx.gasLimit := by
  obtain ⟨hlimit, hrem, hrefunded⟩ := lastFrameResult_gas env frame
  refine ⟨hlimit, ?_, ?_⟩
  · rw [hrem]
    split
    · exact hremaining
    · exact Nat.zero_le _
  · rw [hrefunded hmsg]
    exact Nat.zero_le _

/-- After the refund, the counter is balanced whatever was recorded. -/
theorem balanced_refund (hremaining : GasTr.remaining frame.gas ≤ env.tx.gasLimit)
    (spec : SpecId) (refund : I64) :
    Balanced (GasTr.refund spec (ScrollHandler.lastFrameResult env frame).gas refund)
      env.tx.gasLimit := by
  obtain ⟨hlimit, hrem, -⟩ := lastFrameResult_gas env frame
  have hle : (GasTr.remaining (ScrollHandler.lastFrameResult env frame).gas).toNat ≤
      env.tx.gasLimit.toNat := by
    rw [hrem]
    split
    · exact hremaining
    · exact Nat.zero_le _
  refine ⟨(LawfulGas.limit_refund _ _ _).trans hlimit, ?_, ?_⟩
  · rwa [LawfulGas.remaining_refund]
  · rw [LawfulGas.remaining_refund]
    refine (toNat_refunded_refund_le _ _ _).trans ((Nat.div_le_self _ _).trans ?_)
    rw [GasTr.spent, hlimit]
    exact (BitVec.toNat_sub_of_le hle).le

end Steps

/-! ## The settlement -/

section Settlement

variable {J ε G R X : Type} [JournalTr J ε] [GasTr G R] [ResultGasTr R] [LawfulGas G]

/-- The settled counter of an L1 message: no refund, and as gas used what its frames
left of the limit, or the limit after a halt. -/
theorem settle_isL1Msg {env : Env} {frame : FrameResult G} {init : InitialAndFloorGas}
    {refund : I64} (hmsg : env.tx.isL1Msg = true)
    (hremaining : GasTr.remaining frame.gas ≤ env.tx.gasLimit) :
    let settled := (ScrollHandler.settle env (ScrollHandler.lastFrameResult env frame) init
      refund).1.gas
    Balanced settled env.tx.gasLimit ∧ GasTr.refunded settled = 0 ∧
      (GasTr.used settled).toNat =
        if frame.result.isOkOrRevert then
          env.tx.gasLimit.toNat - (GasTr.remaining frame.gas).toNat
        else env.tx.gasLimit.toNat := by
  rw [settle_of_isL1Msg hmsg]
  have hbalanced := balanced_lastFrameResult hmsg hremaining
  obtain ⟨-, hrem, hrefunded⟩ := lastFrameResult_gas env frame
  refine ⟨hbalanced, hrefunded hmsg, ?_⟩
  have hzero : (0 : U64).toNat = 0 := rfl
  rw [hbalanced.toNat_used, hrefunded hmsg, hrem, hzero, Nat.sub_zero]
  split
  · rfl
  · rw [hzero, Nat.sub_zero]

/-- The settled counter of any other transaction: at least the floor is used, and at
most a fifth of the spent gas is refunded. -/
theorem settle_not_isL1Msg {env : Env} {frame : FrameResult G} {init : InitialAndFloorGas}
    (hmsg : env.tx.isL1Msg = false) (hfloor : init.floorGas ≤ env.tx.gasLimit)
    (hremaining : GasTr.remaining frame.gas ≤ env.tx.gasLimit) (refund : I64) :
    let settled := (ScrollHandler.settle env (ScrollHandler.lastFrameResult env frame) init
      refund).1.gas
    Balanced settled env.tx.gasLimit ∧ init.floorGas ≤ GasTr.used settled ∧
      (GasTr.refunded settled).toNat ≤
        (env.tx.gasLimit.toNat - (GasTr.remaining settled).toNat) / 5 := by
  intro settled
  have hsettled : settled = _ := (settle_of_not_isL1Msg hmsg _ init refund).1
  rw [hsettled]
  have hbalanced := balanced_refund hremaining env.cfg.spec.intoEthSpecId refund
  have hused := hbalanced.used_eip7623CheckGasFloor hfloor
  refine ⟨hbalanced.eip7623CheckGasFloor init, ?_, ?_⟩
  · rw [hused]
    split
    · exact BitVec.le_refl _
    · rename_i hlt
      exact BitVec.not_lt.mp hlt
  · by_cases hlt : GasTr.used (GasTr.refund env.cfg.spec.intoEthSpecId
        (ScrollHandler.lastFrameResult env frame).gas refund) < init.floorGas
    · obtain ⟨-, -, hzero⟩ := LawfulGas.eip7623CheckGasFloor_of_lt _ init hlt
      rw [hzero]
      exact Nat.zero_le _
    · rw [LawfulGas.eip7623CheckGasFloor_of_le _ init (BitVec.not_lt.mp hlt)]
      have hle := toNat_refunded_refund_le env.cfg.spec.intoEthSpecId
        (ScrollHandler.lastFrameResult env frame).gas refund
      rwa [toNat_refundQuotient, ← GasTr.spent_refund env.cfg.spec.intoEthSpecId _ refund,
        hbalanced.toNat_spent] at hle

/-- The gas reported by a result is the settled gas used. -/
theorem executionResult_used (self : ScrollHandler J ε G R X) (hm : LawfulMainnet self.mainnet)
    {env : Env} {frame : FrameResult G} {init : InitialAndFloorGas} {refund : I64}
    (hfloor : init.floorGas ≤ env.tx.gasLimit)
    (hremaining : GasTr.remaining frame.gas ≤ env.tx.gasLimit) {x : X} {c c' : Ctx J}
    (h : (self.executionResult env
      (ScrollHandler.settle env (ScrollHandler.lastFrameResult env frame) init refund).1
      (ScrollHandler.settle env (ScrollHandler.lastFrameResult env frame) init refund).2).run c =
        .ok x c') :
    ResultGasTr.used (self.mainnet.resultGas x) =
      GasTr.used (ScrollHandler.settle env (ScrollHandler.lastFrameResult env frame) init
        refund).1.gas := by
  obtain ⟨j, hrun, -⟩ := run_focus_eq_ok.mp h
  rw [(hm.executionResult_ok hrun).1]
  cases hmsg : env.tx.isL1Msg with
  | true =>
    rw [settle_of_isL1Msg hmsg, if_pos rfl, LawfulGas.used_setFloorGas, if_neg]
    exact Nat.not_lt_zero _
  | false =>
    obtain ⟨hgas, hresult⟩ := settle_of_not_isL1Msg hmsg
      (ScrollHandler.lastFrameResult env frame) init refund
    rw [hgas, hresult, if_neg Bool.false_ne_true, LawfulGas.used_buildResultGas]
    exact ((balanced_refund hremaining _ refund).used_eip7623CheckGasFloor hfloor).symm

omit [JournalTr J ε] in
/-- The sender gets back what the gas that was not used costs, as far as 128 bits go. -/
theorem Balanced.toNat_reimbursement {env : Env} {gas : G} (h : Balanced gas env.tx.gasLimit)
    (mainnet : MainnetHandler J ε G R X) :
    (mainnet.reimbursement env gas).toNat =
      min (2 ^ 128 - 1)
        ((mainnet.price env).toNat * (env.tx.gasLimit.toNat - (GasTr.used gas).toNat)) := by
  have hpartition := h.partition
  have hlimit := env.tx.gasLimit.isLt
  have hsum : (GasTr.remaining gas + GasTr.refunded gas).toNat =
      env.tx.gasLimit.toNat - (GasTr.used gas).toNat := by
    rw [BitVec.toNat_add, Nat.mod_eq_of_lt (by omega)]
    omega
  rw [MainnetHandler.reimbursement, BitVec.toNat_setWidth_of_le (by decide), toNat_satMul,
    BitVec.toNat_setWidth_of_le (by decide), hsum]
  rfl

omit [JournalTr J ε] in
/-- What the sender gets back for the gas and what the gas used costs add up to the
gas fee charged up front. -/
theorem Balanced.reimbursement {env : Env} {gas : G} (h : Balanced gas env.tx.gasLimit)
    (mainnet : MainnetHandler J ε G R X) (hfee : mainnet.gasFee env < 2 ^ 128) :
    (mainnet.reimbursement env gas).toNat +
      (mainnet.price env).toNat * (GasTr.used gas).toNat = mainnet.gasFee env := by
  have hpartition := h.partition
  have hsplit : (mainnet.price env).toNat * (env.tx.gasLimit.toNat - (GasTr.used gas).toNat) +
      (mainnet.price env).toNat * (GasTr.used gas).toNat = mainnet.gasFee env := by
    rw [← Nat.mul_add, Nat.sub_add_cancel (by omega), MainnetHandler.gasFee, Nat.mul_comm]
  rw [h.toNat_reimbursement mainnet]
  omega

section Settled

variable [LawfulJournal J] {self : ScrollHandler J ε G R X} {env : Env} {frame : FrameResult G}

omit [LawfulJournal J] in
/-- Reimbursing the sender of any transaction but an L1 message credits it what the gas that
was not used costs, or the database fails. -/
theorem Balanced.reimburseCaller (h : Balanced frame.gas env.tx.gasLimit)
    (hm : LawfulMainnet self.mainnet) (hmsg : env.tx.isL1Msg = false) (c : Ctx J) :
    (∀ c', (self.reimburseCaller env frame).run c = .ok () c' →
      ∃ amount, CreditedBy c c' env.tx.caller amount ∧
        amount.toNat = min (2 ^ 128 - 1) ((self.mainnet.price env).toNat *
          (env.tx.gasLimit.toNat - (GasTr.used frame.gas).toNat)) ∧
        (self.mainnet.gasFee env < 2 ^ 128 →
          amount.toNat + (self.mainnet.price env).toNat * (GasTr.used frame.gas).toNat =
            self.mainnet.gasFee env)) ∧
      ∀ e c', (self.reimburseCaller env frame).run c = .error e c' → ∃ d, e = .database d :=
  ⟨fun _ hrun => ⟨_, ScrollHandler.reimburseCaller_ok hm hmsg hrun,
    h.toNat_reimbursement self.mainnet, h.reimbursement self.mainnet⟩,
    fun _ _ hrun => ScrollHandler.reimburseCaller_error hm hmsg hrun⟩

omit [ResultGasTr R] [LawfulGas G] in
/-- Rewarding the beneficiary of any transaction but an L1 message credits it what the gas
used costs and the L1 fee, or the database fails. -/
theorem rewardBeneficiary_credits (hmsg : env.tx.isL1Msg = false) {c : Ctx J} {l1Cost : U256}
    (hcost : L1CostIs env c.chain l1Cost) :
    (∀ c', (self.rewardBeneficiary env frame).run c = .ok () c' →
      ∃ amount, CreditedBy c c' env.block.beneficiary amount ∧
        amount.toNat = min (2 ^ 256 - 1) ((self.mainnet.price env).toNat *
          (GasTr.used frame.gas).toNat + l1Cost.toNat)) ∧
      ∀ e c', (self.rewardBeneficiary env frame).run c = .error e c' → ∃ d, e = .database d :=
  ⟨fun _ hrun => ⟨_, ScrollHandler.rewardBeneficiary_ok hmsg hcost hrun,
    self.mainnet.toNat_reward_eq_min env frame.gas l1Cost⟩,
    fun _ _ hrun => ScrollHandler.rewardBeneficiary_error hmsg hcost hrun⟩

end Settled

/-- The gas of a transaction is partitioned exactly, and every view of it agrees: the sender
gets back, and the beneficiary gets, what the one figure of the gas used makes of the price,
and the result reports that figure. An L1 message pays neither. A frame that ran out of funds
or was called too deep counts as a revert (`is_ok_or_revert`). -/
theorem gas_settlement [LawfulJournal J] (self : ScrollHandler J ε G R X)
    (hm : LawfulMainnet self.mainnet) (env : Env) (frame : FrameResult G)
    (init : InitialAndFloorGas) (refund : I64)
    (hinit : ScrollHandler.validateInitialTxGas env = .ok init)
    (hremaining : (GasTr.remaining frame.gas).toNat ≤
      env.tx.gasLimit.toNat - init.initialGas.toNat) :
    let execResult := ScrollHandler.lastFrameResult env frame
    let settled := (ScrollHandler.settle env execResult init refund).1
    let resultGas := (ScrollHandler.settle env execResult init refund).2
    let gasUsed := (GasTr.used settled.gas).toNat
    let price := (self.mainnet.price env).toNat
    init.initialGas ≤ env.tx.gasLimit ∧
      (GasTr.remaining settled.gas).toNat + (GasTr.refunded settled.gas).toNat + gasUsed =
        env.tx.gasLimit.toNat ∧
      (env.tx.isL1Msg = false → init.floorGas.toNat ≤ gasUsed ∧
        (GasTr.refunded settled.gas).toNat ≤
          (env.tx.gasLimit.toNat - (GasTr.remaining settled.gas).toNat) / 5 ∧
        (env.cfg.spec.isEnabledIn .feynman = false → init.floorGas = 0)) ∧
      (env.tx.isL1Msg = true → GasTr.refunded settled.gas = 0 ∧
        gasUsed =
          if frame.result.isOkOrRevert then
            env.tx.gasLimit.toNat - (GasTr.remaining frame.gas).toNat
          else env.tx.gasLimit.toNat) ∧
      (env.tx.isL1Msg = false → ∀ c : Ctx J,
        ((∀ c', (self.reimburseCaller env settled).run c = .ok () c' →
          ∃ amount, CreditedBy c c' env.tx.caller amount ∧
            amount.toNat = min (2 ^ 128 - 1) (price * (env.tx.gasLimit.toNat - gasUsed)) ∧
            (self.mainnet.gasFee env < 2 ^ 128 →
              amount.toNat + price * gasUsed = self.mainnet.gasFee env)) ∧
          ∀ e c', (self.reimburseCaller env settled).run c = .error e c' →
            ∃ d, e = .database d) ∧
        ∀ l1Cost, L1CostIs env c.chain l1Cost →
          (∀ c', (self.rewardBeneficiary env settled).run c = .ok () c' →
            ∃ amount, CreditedBy c c' env.block.beneficiary amount ∧
              amount.toNat = min (2 ^ 256 - 1) (price * gasUsed + l1Cost.toNat)) ∧
          ∀ e c', (self.rewardBeneficiary env settled).run c = .error e c' →
            ∃ d, e = .database d) ∧
      (env.tx.isL1Msg = true → ∀ c : Ctx J,
        (self.reimburseCaller env settled).run c = .ok () c ∧
          (self.rewardBeneficiary env settled).run c = .ok () c ∧
          (self.postExecution env execResult init refund).run c = .ok (settled, resultGas) c) ∧
      (∀ out (c c' : Ctx J),
        (self.postExecution env execResult init refund).run c = .ok out c' →
          out = (settled, resultGas) ∧
            ∃ c₁, (self.reimburseCaller env settled).run c = .ok () c₁ ∧
              (self.rewardBeneficiary env settled).run c₁ = .ok () c') ∧
      ∀ (x : X) (c c' : Ctx J), (self.executionResult env settled resultGas).run c = .ok x c' →
        ResultGasTr.used (self.mainnet.resultGas x) = GasTr.used settled.gas := by
  intro execResult settled resultGas gasUsed price
  obtain ⟨hinitial, hfloor, hzero⟩ := validateInitialTxGas_ok hinit
  have hle : GasTr.remaining frame.gas ≤ env.tx.gasLimit := by
    have hsub := hremaining.trans (Nat.sub_le _ _)
    exact hsub
  have hbalanced : Balanced settled.gas env.tx.gasLimit := by
    cases hmsg : env.tx.isL1Msg with
    | true => exact (settle_isL1Msg hmsg hle).1
    | false => exact (settle_not_isL1Msg hmsg hfloor hle refund).1
  refine ⟨hinitial, hbalanced.partition, ?_, ?_, ?_, ?_, ?_, ?_⟩
  · intro hmsg
    obtain ⟨-, hused, hrefunded⟩ := settle_not_isL1Msg hmsg hfloor hle refund
    exact ⟨hused, hrefunded, hzero⟩
  · intro hmsg
    exact (settle_isL1Msg hmsg hle).2
  · intro hmsg c
    exact ⟨hbalanced.reimburseCaller hm hmsg c,
      fun l1Cost hcost => rewardBeneficiary_credits hmsg hcost⟩
  · intro hmsg c
    rw [ScrollHandler.reimburseCaller_isL1Msg hmsg, ScrollHandler.rewardBeneficiary_isL1Msg hmsg,
      ScrollHandler.postExecution_isL1Msg hmsg]
    exact ⟨rfl, rfl, rfl⟩
  · intro out c c' h
    obtain ⟨rfl, hsteps⟩ := ScrollHandler.postExecution_split h
    exact ⟨rfl, hsteps⟩
  · intro x c c' h
    exact executionResult_used self hm hfloor hle h

end Settlement

open ReferenceMainnet in
/-- A call that leaves 30000 of 60000 gas and refunds 7000: the refund is capped at a fifth of
the spent gas, the sender gets 36000 wei back and the beneficiary 24000 with the L1 fee. -/
theorem gas_settlement_capped_refund :
    let env := sampleEnv .tsukiV2 (.call 5) 200
    let execResult :=
      ScrollHandler.lastFrameResult env ⟨.stop, (⟨39000, 30000, 7000⟩ : ReferenceGas)⟩
    let settled := (ScrollHandler.settle env execResult ⟨21000, 21000⟩ 0).1
    (GasTr.used settled.gas).toNat = 24000 ∧
      (GasTr.remaining settled.gas).toNat + (GasTr.refunded settled.gas).toNat +
          (GasTr.used settled.gas).toNat = 60000 ∧
        (GasTr.refunded settled.gas).toNat ≤ (60000 - (GasTr.remaining settled.gas).toNat) / 5 ∧
        ∃ c₁ c₂ amount reward,
          (sampleHandler.reimburseCaller env settled).run ⟨sampleJournal 0, sampleChain⟩ =
              .ok () c₁ ∧
            CreditedBy ⟨sampleJournal 0, sampleChain⟩ c₁ 1 amount ∧
            amount.toNat = 36000 ∧
            (sampleHandler.rewardBeneficiary env settled).run c₁ = .ok () c₂ ∧
            CreditedBy c₁ c₂ 2 reward ∧ reward.toNat = 24100 := by
  intro env execResult settled
  have hgas : settled.gas = ⟨60000, 30000, 6000⟩ := by decide
  have hsettled : settled = ⟨.stop, ⟨60000, 30000, 6000⟩⟩ := congrArg (FrameResult.mk .stop) hgas
  have hused : (GasTr.used settled.gas).toNat = 24000 := by
    rw [hgas]
    rfl
  obtain ⟨-, hpartition, hrest, -, hpaid, -⟩ := gas_settlement sampleHandler lawful env
    ⟨.stop, ⟨39000, 30000, 7000⟩⟩ ⟨21000, 21000⟩ 0 rfl (by decide)
  obtain ⟨c₁, c₂, hreimburse, hreward⟩ : ∃ c₁ c₂,
      (sampleHandler.reimburseCaller (sampleEnv .tsukiV2 (.call 5) 200)
          ⟨.stop, (⟨60000, 30000, 6000⟩ : ReferenceGas)⟩).run ⟨sampleJournal 0, sampleChain⟩ =
          .ok () c₁ ∧
        (sampleHandler.rewardBeneficiary (sampleEnv .tsukiV2 (.call 5) 200)
          ⟨.stop, (⟨60000, 30000, 6000⟩ : ReferenceGas)⟩).run c₁ = .ok () c₂ :=
    ⟨_, _, rfl, rfl⟩
  rw [← hsettled] at hreimburse hreward
  obtain ⟨⟨hreimbursed, -⟩, -⟩ := hpaid rfl ⟨sampleJournal 0, sampleChain⟩
  obtain ⟨amount, hcredit, hamount, -⟩ := hreimbursed c₁ hreimburse
  have hcost : L1CostIs env c₁.chain 100 := by
    rw [hcredit.chain_eq]
    rfl
  obtain ⟨reward, hrewarded, hsum⟩ := ((hpaid rfl c₁).2 100 hcost).1 c₂ hreward
  have hprice : (sampleHandler.mainnet.price env).toNat = 1 := rfl
  have hlimit : env.tx.gasLimit.toNat = 60000 := rfl
  have hl1Cost : (100 : U256).toNat = 100 := rfl
  rw [hprice, hused, hlimit] at hamount
  rw [hprice, hused, hl1Cost] at hsum
  exact ⟨hused, hpartition, (hrest rfl).2.1, c₁, c₂, amount, reward, hreimburse, hcredit,
    by omega, hreward, hrewarded, by omega⟩

end ScrollRevm
