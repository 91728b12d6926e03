import ScrollRevm.Revm.Reference
import ScrollRevm.Settlement.Conservation

/-!
# Replay protection

The nonce of a call is bumped by the deduction, the nonce of a create only by the frame
that makes it, and only if the balance left after both deductions covers the value.
Before TsukiV2 the L1 fee is not part of the check that precedes the deductions, so an
included create can leave the nonce as it was; this module says exactly when it does.
-/

namespace ScrollRevm

open FixedWidth StateResult

variable {J ε G R X : Type} [JournalTr J ε] [GasTr G R] [ResultGasTr R]

/-! ## The steps of an included transaction -/

/-- A run that returns is a run of all its steps. -/
theorem run_ok_steps {self : ScrollHandler J ε G R X} {env : Env} {x : X} {c c' : Ctx J}
    (h : (self.run env).run c = .ok x c') :
    ∃ init refund c₁ frame c₂ settled c₃,
      self.validate (ε := ε) env = .ok init ∧
        (self.preExecution env).run c = .ok refund c₁ ∧
        (mainnetStep (self.mainnet.runExecLoop env
          (env.tx.gasLimit - init.initialGas))).run c₁ = .ok frame c₂ ∧
        (self.postExecution env (ScrollHandler.lastFrameResult env frame) init refund).run c₂ =
          .ok settled c₃ ∧
        (self.executionResult env settled.1 settled.2).run c₃ = .ok x c' := by
  have hsteps : (self.runWithoutCatchError env).run c = .ok x c' := by
    change self.run env c = _ at h
    unfold ScrollHandler.run at h
    cases hresult : self.runWithoutCatchError env c with
    | ok x₁ c₁ =>
      rw [hresult] at h
      exact hresult.trans h
    | error e c₁ =>
      rw [hresult] at h
      dsimp only at h
      split at h <;> cases h
  unfold ScrollHandler.runWithoutCatchError at hsteps
  cases hvalid : self.validate (ε := ε) env with
  | error e =>
    rw [hvalid] at hsteps
    cases hsteps
  | ok init =>
    rw [hvalid] at hsteps
    obtain ⟨refund, c₁, hpre, h₁⟩ := run_bind_eq_ok.mp hsteps
    obtain ⟨executed, c₂, hexec, h₂⟩ := run_bind_eq_ok.mp h₁
    obtain ⟨frame, c₂', hframe, hret⟩ := run_bind_eq_ok.mp hexec
    cases hret
    obtain ⟨settled, c₃, hpost, hresult⟩ := run_bind_eq_ok.mp h₂
    exact ⟨init, refund, c₁, frame, c₂, settled, c₃, rfl, hpre, hframe, hpost, hresult⟩

/-! ## Nonces after execution -/

section Nonces

variable [LawfulJournal J] {self : ScrollHandler J ε G R X} {env : Env}
  {frame : FrameResult G} {init : InitialAndFloorGas} {refund : I64} {c c' : Ctx J}
  {l1Cost : U256}

omit [JournalTr J ε] [GasTr G R] [ResultGasTr R] [LawfulJournal J] in
/-- A credit changes no nonce. -/
theorem nonce_of_credit {s s' : Journal ε} {a : Address} {amount : U256}
    (h : s'.info = Function.update s.info a ((s.info a).credit amount)) (b : Address) :
    s'.nonce b = s.nonce b := by
  rw [Journal.nonce, Journal.nonce, h]
  by_cases hb : b = a
  · subst hb
    rw [Function.update_self]
    rfl
  · rw [Function.update_of_ne hb]

omit [ResultGasTr R] in
theorem postExecution_nonce (hm : LawfulMainnet self.mainnet) (hmsg : env.tx.isL1Msg = false)
    (hcost : L1CostIs env c.chain l1Cost) {settled : FrameResult G × R}
    (h : (self.postExecution env frame init refund).run c = .ok settled c') (a : Address) :
    c'.view.nonce a = c.view.nonce a := by
  obtain ⟨-, c₁, hreimburse, hreward⟩ := ScrollHandler.postExecution_split h
  obtain ⟨hchain, hinfo₁⟩ := ScrollHandler.reimburseCaller_ok hm hmsg hreimburse
  rw [← hchain] at hcost
  have hinfo₂ := (ScrollHandler.rewardBeneficiary_ok hmsg hcost hreward).info_eq
  exact (nonce_of_credit hinfo₂ a).trans (nonce_of_credit hinfo₁ a)

omit [LawfulJournal J] in
/-- Ending a transaction shows no change of the accounts. -/
theorem executionResult_info (hm : LawfulMainnet self.mainnet) {gas : R} {x : X}
    (h : (self.executionResult env frame gas).run c = .ok x c') :
    c'.view.info = c.view.info := by
  obtain ⟨j, hrun, rfl⟩ := run_focus_eq_ok.mp h
  have hcommit := (hm.executionResult_ok hrun).2
  change Journal.commitTx _ = _ at hcommit
  injection hcommit with _ hview
  rw [Ctx.view_withJournal, ← hview]
  rfl

end Nonces

/-! ## When the nonce is raised -/

/-- The transaction is a call, or runs from TsukiV2 on, or pays no L1 fee, or its sender's
balance covers the gas fee, the L1 fee and the value together. -/
def ReplayProtected (mainnet : MainnetHandler J ε G R X) (env : Env) (c : Ctx J) : Prop :=
  env.tx.kind.isCall = true ∨ env.cfg.spec.isEnabledIn .tsukiV2 = true ∨
    env.tx.isSystemTx = true ∨
    ∃ l1Cost, L1CostIs env (refreshedChain env c) l1Cost ∧
      mainnet.gasFee env + l1Cost.toNat + env.tx.value.toNat ≤
        (c.view.balance env.tx.caller).toNat

section Replay

variable [LawfulJournal J] {self : ScrollHandler J ε G R X} {env : Env} {c c' : Ctx J}
  {l1Cost : U256}

omit [JournalTr J ε] [GasTr G R] [ResultGasTr R] [LawfulJournal J] in
theorem l1CostIs_unique {chain : ScrollChainContext} {cost cost' : U256}
    (h : L1CostIs env chain cost) (h' : L1CostIs env chain cost') : cost = cost' := by
  rw [L1CostIs] at h h'
  split at h
  · rename_i hsystem
    rw [if_pos hsystem] at h'
    exact h.trans h'.symm
  · rename_i hsystem
    rw [if_neg hsystem] at h'
    exact Except.ok.inj (h.symm.trans h')

omit [GasTr G R] [ResultGasTr R] [LawfulJournal J] in
/-- A charged sender still covers the value exactly when its balance covered the gas fee,
the L1 fee and the value together. -/
theorem PreExecuted.value_le_iff (h : PreExecuted self.mainnet env c c' l1Cost) :
    env.tx.value ≤ c'.view.balance env.tx.caller ↔
      self.mainnet.gasFee env + l1Cost.toNat + env.tx.value.toNat ≤
        (c.view.balance env.tx.caller).toNat := by
  have hdebit := h.debit.1
  rw [BitVec.le_def]
  omega

omit [ResultGasTr R] [LawfulJournal J] in
/-- Under the condition, the charged sender of a create covers the value. -/
theorem PreExecuted.value_le (hm : LawfulMainnet self.mainnet)
    (htype : TransactionType.ofU8 env.tx.txType ≠ .eip4844)
    (h : PreExecuted self.mainnet env c c' l1Cost) (hkind : env.tx.kind.isCall = false)
    (hprotected : ReplayProtected self.mainnet env c) :
    env.tx.value ≤ c'.view.balance env.tx.caller := by
  rw [h.value_le_iff]
  have hfee := hm.gasFee_le env
  rcases hprotected with hcall | hspec | hsystem | ⟨cost, hcost, hle⟩
  · rw [hkind] at hcall
    cases hcall
  · have hcovers := h.covers_tsukiV2 hspec
    rw [Journal.balance]
    omega
  · have hzero := h.l1Cost_is
    rw [L1CostIs, hsystem, if_pos rfl] at hzero
    have hcovers := (hm.accepts_covers htype h.accepts).2
    rw [hzero, Journal.balance]
    have htoNat : (0 : U256).toNat = 0 := rfl
    omega
  · have heq := l1CostIs_unique (h.chain_eq ▸ h.l1Cost_is) hcost
    rwa [heq]

omit [ResultGasTr R] in
/-- The nonce of the sender is the nonce of the transaction whenever it is accepted. -/
theorem preExecution_nonce (hm : LawfulMainnet self.mainnet)
    (htype : TransactionType.ofU8 env.tx.txType ≠ .eip4844) (hmsg : env.tx.isL1Msg = false)
    {refund : U64} (h : (self.preExecution env).run c = .ok refund c') :
    c.view.nonce env.tx.caller = env.tx.nonce := by
  obtain ⟨_, hpre⟩ := preExecution_ok hm htype hmsg h
  exact hpre.accepts.nonce

omit [GasTr G R] [ResultGasTr R] [LawfulJournal J] in
/-- The charge leaves the nonce of a create and raises the nonce of a call. -/
theorem PreExecuted.nonce_after (h : PreExecuted self.mainnet env c c' l1Cost)
    (hnonce : env.tx.nonce.toNat < 2 ^ 64 - 1) :
    env.tx.nonce ≤ c'.view.nonce env.tx.caller ∧
      (env.tx.kind.isCall = true → env.tx.nonce < c'.view.nonce env.tx.caller) := by
  have hle := h.nonce_le env.tx.caller
  have heq := h.accepts.nonce
  rw [Function.update_self, charged_nonce, heq] at hle
  cases hkind : env.tx.kind.isCall with
  | false =>
    rw [hkind, if_neg Bool.false_ne_true] at hle
    exact ⟨hle, fun h => absurd h Bool.false_ne_true⟩
  | true =>
    rw [hkind, if_pos rfl] at hle
    have hlt := AccountInfo.nonce_lt_bump (heq ▸ hnonce)
    rw [heq, BitVec.lt_def] at hlt
    rw [BitVec.le_def] at hle
    exact ⟨BitVec.le_def.mpr (hlt.le.trans hle), fun _ => BitVec.lt_def.mpr (hlt.trans_le hle)⟩

omit [GasTr G R] [ResultGasTr R] [LawfulJournal J] in
/-- Without authorizations, the charge leaves the nonce of a create exactly. -/
theorem PreExecuted.nonce_create (h : PreExecuted self.mainnet env c c' l1Cost)
    (hkind : env.tx.kind.isCall = false)
    (htype : TransactionType.ofU8 env.tx.txType ≠ .eip7702) :
    c'.view.nonce env.tx.caller = env.tx.nonce := by
  rw [Journal.nonce, h.info_eq htype, Function.update_self, charged_nonce, hkind,
    if_neg Bool.false_ne_true]
  exact h.accepts.nonce

/-- Exactly under the condition, an included transaction raises the nonce of its sender
past its own, so that it can never be accepted again. Only type-4 transactions carry
authorizations, and they are calls. -/
theorem nonce_raised_iff (self : ScrollHandler J ε G R X) (hm : LawfulMainnet self.mainnet)
    (hf : LawfulFrames self.mainnet) (env : Env) (hmsg : env.tx.isL1Msg = false)
    (hnonce : env.tx.nonce.toNat < 2 ^ 64 - 1) {x : X} {c c' : Ctx J}
    (hrun : (self.run env).run c = .ok x c') :
    (ReplayProtected self.mainnet env c →
      env.tx.nonce < c'.view.nonce env.tx.caller ∧
        ∀ (c₁ : Ctx J), c'.view.nonce env.tx.caller ≤ c₁.view.nonce env.tx.caller →
          ∀ refund c₂, (self.preExecution env).run c₁ ≠ .ok refund c₂) ∧
      ((TransactionType.ofU8 env.tx.txType = .eip7702 → env.tx.kind.isCall = true) →
        (env.tx.nonce < c'.view.nonce env.tx.caller ↔ ReplayProtected self.mainnet env c)) := by
  obtain ⟨init, refund, c₁, frame, c₂, settled, c₃, hvalid, hpre, hframe, hpost, hresult⟩ :=
    run_ok_steps hrun
  obtain ⟨htype, -⟩ := validate_ok hm hvalid
  obtain ⟨l1Cost, hcharged⟩ := preExecution_ok hm htype hmsg hpre
  obtain ⟨j, hframes, hc₂⟩ := run_focus_eq_ok.mp hframe
  have hcost : L1CostIs env c₂.chain l1Cost := by
    rw [hc₂]
    exact hcharged.l1Cost_is
  have hafter : c'.view.nonce env.tx.caller = (JournalTr.view j).nonce env.tx.caller := by
    rw [Journal.nonce, executionResult_info hm hresult]
    refine (postExecution_nonce hm hmsg hcost hpost env.tx.caller).trans ?_
    rw [hc₂]
    rfl
  have hraised : ReplayProtected self.mainnet env c →
      env.tx.nonce < c'.view.nonce env.tx.caller := by
    intro hprotected
    obtain ⟨hle, hcall⟩ := hcharged.nonce_after hnonce
    have hframesLe := hf.nonce_le hframes
    rw [hafter, BitVec.lt_def]
    rw [BitVec.le_def] at hle hframesLe
    cases hkind : env.tx.kind.isCall with
    | true =>
      have hlt := hcall hkind
      rw [BitVec.lt_def] at hlt
      exact hlt.trans_le hframesLe
    | false =>
      by_cases hbumped : (c₁.view.nonce env.tx.caller).toNat = env.tx.nonce.toNat
      · have hlt := hf.create_funded hframes hkind
          (hcharged.value_le hm htype hkind hprotected) (hbumped ▸ hnonce)
        rw [BitVec.lt_def] at hlt
        exact (hle.trans_lt hlt)
      · exact (lt_of_le_of_ne hle (Ne.symm hbumped)).trans_le hframesLe
  refine ⟨fun hprotected => ⟨hraised hprotected, ?_⟩, fun hcreate => ⟨?_, hraised⟩⟩
  · intro c₄ hle refund' c₅ hagain
    have hsame := preExecution_nonce hm htype hmsg hagain
    have hlt := hraised hprotected
    rw [hsame] at hle
    exact absurd hlt (BitVec.not_lt.mpr hle)
  · intro hlt
    by_contra hno
    have hkind : env.tx.kind.isCall = false := by
      cases hkind : env.tx.kind.isCall with
      | false => rfl
      | true => exact absurd (Or.inl hkind) hno
    have hne : TransactionType.ofU8 env.tx.txType ≠ .eip7702 := by
      intro h
      rw [hcreate h] at hkind
      cases hkind
    have hunfunded : (JournalTr.view c₁.journal).balance env.tx.caller < env.tx.value := by
      by_contra hfunds
      refine hno (Or.inr (Or.inr (Or.inr ⟨l1Cost, hcharged.chain_eq ▸ hcharged.l1Cost_is, ?_⟩)))
      exact hcharged.value_le_iff.mp (BitVec.not_lt.mp hfunds)
    have hsame := hf.create_unfunded hframes hkind hunfunded
    rw [hafter, hsame] at hlt
    have heq := hcharged.nonce_create hkind hne
    rw [← heq] at hlt
    exact BitVec.lt_irrefl _ hlt

open ReferenceMainnet in
/-- From TsukiV2 on, a create that spends the whole balance raises the nonce. -/
theorem nonce_raised_create_tsukiV2 :
    ∃ x c', (sampleHandler.run (sampleEnv .tsukiV2 .create 200)).run
        { journal := sampleJournal 60300 } = .ok x c' ∧
      (sampleEnv .tsukiV2 .create 200).tx.nonce < c'.view.nonce 1 := by
  obtain ⟨x, c', hrun⟩ : ∃ x c', (sampleHandler.run (sampleEnv .tsukiV2 .create 200)).run
      { journal := sampleJournal 60300 } = .ok x c' := ⟨_, _, rfl⟩
  have hraised := (nonce_raised_iff sampleHandler lawful (lawfulFrames 9)
    (sampleEnv .tsukiV2 .create 200) rfl (by decide) hrun).1 (Or.inr (Or.inl rfl))
  exact ⟨x, c', hrun, hraised.1⟩

open ReferenceMainnet in
/-- Before TsukiV2, a sender that covers the gas fee and the value, and the gas fee and the
L1 fee, but not all three, has its create included and charged with its nonce as it was. -/
theorem nonce_not_raised_create_tsuki :
    LawfulMainnet sampleHandler.mainnet ∧ LawfulFrames sampleHandler.mainnet ∧
      ∃ x c', (sampleHandler.run (sampleEnv .tsuki .create 200)).run
          { journal := sampleJournal 60200 } = .ok x c' ∧
        c'.view.balance 1 = 60200 - 53000 - 100 ∧
        ¬(sampleEnv .tsuki .create 200).tx.nonce < c'.view.nonce 1 :=
  ⟨lawful, lawfulFrames 9, _, _, rfl, rfl, by decide⟩

end Replay

end ScrollRevm
