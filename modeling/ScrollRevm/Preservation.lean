import ScrollRevm.L1Message.Steps
import ScrollRevm.Settlement.PreExecution

/-!
# Relations that every step keeps

A relation between journals that the journal operations and the mainnet steps keep is kept
by every step of the handler around the frames, whether it returns or fails.
-/

namespace ScrollRevm

open FixedWidth StateResult

variable {J ε G R X : Type} [JournalTr J ε]

/-- A relation between journals that the operations the steps call keep. -/
structure KeptByJournal (Rel : Journal ε → Journal ε → Prop) : Prop where
  refl (s : Journal ε) : Rel s s
  trans {s s' t : Journal ε} : Rel s s' → Rel s' t → Rel s t
  loadAccountMut (address : Address) : Exits Rel (Journal.loadAccountMut address)
  touch (address : Address) : Exits Rel (Journal.touch address)
  decrBalance (address : Address) (amount : U256) : Exits Rel (Journal.decrBalance address amount)
  balanceIncr (address : Address) (amount : U256) : Exits Rel (Journal.balanceIncr address amount)
  bumpNonce (address : Address) : Exits Rel (Journal.bumpNonce address)

/-- A computation on journals whose exits are related to its entry. -/
abbrev JournalExits {ε' α : Type} (Rel : Journal ε → Journal ε → Prop) (x : EStateM ε' J α) :
    Prop :=
  Exits (fun j j' => Rel (JournalTr.view j) (JournalTr.view j')) x

/-- A relation that the mainnet steps around the frames keep. -/
structure KeptByMainnet (mainnet : MainnetHandler J ε G R X)
    (Rel : Journal ε → Journal ε → Prop) : Prop where
  validateAgainstStateAndDeductCaller (env : Env) :
    JournalExits Rel (mainnet.validateAgainstStateAndDeductCaller env)
  loadAccounts (env : Env) : JournalExits Rel (mainnet.loadAccounts env)
  applyEip7702AuthList (env : Env) : JournalExits Rel (mainnet.applyEip7702AuthList env)
  reimburseCaller (env : Env) (gas : G) : JournalExits Rel (mainnet.reimburseCaller env gas)

/-- A step whose exits are related to its entry. -/
abbrev StepExits {α : Type} (Rel : Journal ε → Journal ε → Prop) (x : Step J ε α) : Prop :=
  Exits (fun c c' => Rel c.view c'.view) x

omit [JournalTr J ε] in
/-- Acting on the journal of a context relates the journals before and after. -/
theorem Ctx.exits_focus {ε' α : Type} {R : J → J → Prop} {convert : ε' → EVMError ε}
    {x : EStateM ε' J α} (h : Exits R x) :
    Exits (fun c c' : Ctx J => R c.journal c'.journal)
      (focus Ctx.journal Ctx.withJournal convert x) :=
  h.focus fun _ _ => rfl

/-! ## Sequences of steps -/

namespace KeptByJournal

variable {α β : Type} {Rel : Journal ε → Journal ε → Prop} (hk : KeptByJournal Rel)

include hk

theorem pure (a : α) : StepExits Rel (Pure.pure a : Step J ε α) :=
  Exits.pure (fun c => hk.refl c.view) a

theorem throw (e : EVMError ε) : StepExits Rel (MonadExcept.throw e : Step J ε α) :=
  Exits.throw (fun c => hk.refl c.view) e

theorem bind {x : Step J ε α} {f : α → Step J ε β} (hx : StepExits Rel x)
    (hf : ∀ a, StepExits Rel (f a)) : StepExits Rel (x >>= f) := by
  refine Exits.bind ?_ hx hf
  intro c c' c'' h h'
  exact hk.trans h h'

omit hk in
theorem ite {p : Prop} [Decidable p] {x y : Step J ε α} (hx : StepExits Rel x)
    (hy : StepExits Rel y) : StepExits Rel (if p then x else y) := by
  split
  · exact hx
  · exact hy

/-- A conditional step before the same rest. -/
theorem when {p : Prop} [Decidable p] {x : Step J ε α} {f : α → Step J ε β} (a : α)
    (hx : StepExits Rel x) (hf : ∀ a, StepExits Rel (f a)) :
    StepExits Rel (if p then x >>= f else f a) :=
  ite (hk.bind hx hf) (hf a)

omit hk in
theorem mainnetStep {x : EStateM (EVMError ε) J α} (hx : JournalExits Rel x) :
    StepExits Rel (mainnetStep x) :=
  Ctx.exits_focus hx

omit hk in
/-- An operation of a lawful journal keeps what the documented one keeps. -/
theorem journalMut {x : EStateM ε J α} {y : EStateM ε (Journal ε) α}
    (hsim : Simulates JournalTr.view x y) (hy : Exits Rel y) : StepExits Rel (journalMut x) := by
  have hx : JournalExits Rel x := by
    intro j
    rw [hsim.exitState_eq]
    exact hy (JournalTr.view j)
  exact Ctx.exits_focus hx

theorem validated (x : Except InvalidTransaction α) :
    StepExits Rel (validated (J := J) (ε := ε) x) := by
  cases x with
  | ok a => exact hk.pure a
  | error e => exact hk.throw _

theorem stepL1Cost (env : Env) : StepExits Rel (stepL1Cost (J := J) (ε := ε) env) := by
  intro c
  cases hrun : (ScrollRevm.stepL1Cost (ε := ε) env).run c with
  | ok cost c' =>
    obtain ⟨-, rfl⟩ := stepL1Cost_run_eq_ok.mp hrun
    exact hk.refl _
  | error e c' =>
    obtain ⟨-, rfl⟩ := stepL1Cost_run_eq_error.mp hrun
    exact hk.refl _

end KeptByJournal

/-! ## Before execution -/

namespace ScrollHandler

variable [LawfulJournal J] {self : ScrollHandler J ε G R X} (env : Env)

/-- A fetch of the oracle values reads only. -/
theorem refreshL1BlockInfo_exits :
    Exits (fun c c' : Ctx J => c'.view = c.view) (refreshL1BlockInfo (ε := ε) env) := by
  have hfetch : Exits (fun c c' : Ctx J => c'.view = c.view)
      (journalMut (L1BlockInfo.tryFetchFromJournal (J := J) (ε := ε) env.cfg.spec)) :=
    Ctx.exits_focus (tryFetchFromJournal_exits env.cfg.spec)
  unfold refreshL1BlockInfo
  split
  · exact Exits.bind (fun _ _ _ h h' => h'.trans h) hfetch fun _ _ => rfl
  · exact fun _ => rfl

section Kept

variable {Rel : Journal ε → Journal ε → Prop} (hk : KeptByJournal Rel)

include hk

theorem exits_loadAccountMut (address : Address) :
    StepExits Rel (journalMut (JournalTr.loadAccountMut (J := J) address)) :=
  KeptByJournal.journalMut (LawfulJournal.loadAccountMut address) (hk.loadAccountMut address)

theorem exits_decrBalance (address : Address) (amount : U256) :
    StepExits Rel (journalMut (JournalTr.decrBalance (J := J) address amount)) :=
  KeptByJournal.journalMut (LawfulJournal.decrBalance address amount)
    (hk.decrBalance address amount)

theorem exits_deductL1Fee : StepExits Rel (deductL1Fee (J := J) (ε := ε) env) := by
  unfold deductL1Fee
  refine hk.bind (hk.stepL1Cost env) fun txL1Cost => ?_
  refine hk.bind (exits_loadAccountMut hk _) fun callerAccount => ?_
  refine hk.when () (hk.throw _) fun _ => ?_
  exact hk.bind (exits_decrBalance hk _ _) fun _ => hk.pure ()

theorem exits_checkTotalSpending : StepExits Rel (self.checkTotalSpending env) := by
  unfold checkTotalSpending
  refine hk.bind (exits_loadAccountMut hk _) fun callerAccount => ?_
  refine hk.bind (hk.stepL1Cost env) fun txL1Cost => ?_
  refine hk.bind (hk.validated _) fun maxBalanceSpending => ?_
  split
  · exact hk.throw _
  · exact hk.when () (hk.throw _) fun _ => hk.pure txL1Cost

theorem exits_deductCheckedL1Fee (txL1Cost : U256) :
    StepExits Rel (deductCheckedL1Fee (J := J) (ε := ε) env txL1Cost) := by
  unfold deductCheckedL1Fee
  refine hk.bind (exits_loadAccountMut hk _) fun _ => ?_
  exact hk.bind (exits_decrBalance hk _ _) fun _ => hk.pure ()

/-- The charges before TsukiV2. -/
theorem exits_deductCallerBeforeTsukiV2 (hm : KeptByMainnet self.mainnet Rel) :
    StepExits Rel (self.deductCallerBeforeTsukiV2 env) := by
  have hdeduct : StepExits Rel
      (mainnetStep (self.mainnet.validateAgainstStateAndDeductCaller env)) :=
    KeptByJournal.mainnetStep (hm.validateAgainstStateAndDeductCaller env)
  unfold deductCallerBeforeTsukiV2
  refine hk.when () hdeduct fun _ => ?_
  exact KeptByJournal.ite (exits_deductL1Fee env hk) (hk.pure ())

/-- The charges from TsukiV2 on. -/
theorem exits_deductCallerTsukiV2 (hm : KeptByMainnet self.mainnet Rel) :
    StepExits Rel (self.deductCallerTsukiV2 env) := by
  have hdeduct : StepExits Rel
      (mainnetStep (self.mainnet.validateAgainstStateAndDeductCaller env)) :=
    KeptByJournal.mainnetStep (hm.validateAgainstStateAndDeductCaller env)
  have hcharge (txL1Cost : U256) : StepExits Rel (if !env.tx.isL1Msg then
      mainnetStep (self.mainnet.validateAgainstStateAndDeductCaller env) >>= fun _ =>
        if !env.tx.isL1Msg && !env.tx.isSystemTx then deductCheckedL1Fee env txL1Cost
        else pure ()
      else if !env.tx.isL1Msg && !env.tx.isSystemTx then deductCheckedL1Fee env txL1Cost
      else pure ()) := by
    refine hk.when () hdeduct fun _ => ?_
    exact KeptByJournal.ite (exits_deductCheckedL1Fee env hk txL1Cost) (hk.pure ())
  exact KeptByJournal.ite (hk.bind (exits_checkTotalSpending env hk) hcharge)
    (hk.bind (hk.pure 0) hcharge)

/-- The checks of an L1 message. -/
theorem exits_validateL1Msg (hmsg : env.tx.isL1Msg = true) :
    StepExits Rel (self.validateL1Msg env) := by
  rw [validateL1Msg_eq hmsg]
  have hload : StepExits Rel
      (journalMut (JournalTr.loadAccountWithCodeMut (J := J) env.tx.caller)) :=
    KeptByJournal.journalMut (LawfulJournal.loadAccountWithCodeMut _) (hk.loadAccountMut _)
  have htouch : StepExits Rel (journalMut (JournalTr.touch (J := J) env.tx.caller)) :=
    KeptByJournal.journalMut (LawfulJournal.touch _) (hk.touch _)
  have hbump : StepExits Rel (journalMut (JournalTr.bumpNonce (J := J) env.tx.caller)) :=
    KeptByJournal.journalMut (LawfulJournal.bumpNonce _) (hk.bumpNonce _)
  refine hk.bind hload fun callerAccount => hk.bind (hk.validated _) fun _ => ?_
  exact KeptByJournal.ite (hk.bind hbump fun _ => htouch) htouch

/-- Checking and charging the sender. -/
theorem exits_validateAgainstStateAndDeductCaller (hm : KeptByMainnet self.mainnet Rel) :
    StepExits Rel (self.validateAgainstStateAndDeductCaller env) := by
  cases hmsg : env.tx.isL1Msg with
  | true =>
    rw [validateAgainstStateAndDeductCaller_isL1Msg hmsg]
    exact exits_validateL1Msg env hk hmsg
  | false =>
    unfold validateAgainstStateAndDeductCaller
    rw [hmsg]
    refine KeptByJournal.ite (hk.bind (exits_deductCallerBeforeTsukiV2 env hk hm) fun _ => ?_)
      (hk.bind (exits_deductCallerTsukiV2 env hk hm) fun _ => ?_)
    · exact hk.pure ()
    · exact hk.pure ()

/-- Preparing the state for execution. -/
theorem exits_preExecution (hm : KeptByMainnet self.mainnet Rel) :
    StepExits Rel (self.preExecution env) := by
  have hrefresh : StepExits Rel (refreshL1BlockInfo (J := J) (ε := ε) env) := by
    intro c
    rw [refreshL1BlockInfo_exits env c]
    exact hk.refl c.view
  unfold preExecution
  refine hk.bind hrefresh fun _ => ?_
  refine hk.bind (exits_validateAgainstStateAndDeductCaller env hk hm) fun _ => ?_
  refine hk.bind (KeptByJournal.mainnetStep (hm.loadAccounts env)) fun _ => ?_
  exact KeptByJournal.mainnetStep (hm.applyEip7702AuthList env)

/-! ## After execution -/

omit [LawfulJournal J] in
theorem exits_reimburseCaller [GasTr G R] (hm : KeptByMainnet self.mainnet Rel)
    (execResult : FrameResult G) : StepExits Rel (self.reimburseCaller env execResult) :=
  KeptByJournal.ite (hk.pure ())
    (KeptByJournal.mainnetStep (hm.reimburseCaller env execResult.gas))

theorem exits_rewardBeneficiary [GasTr G R] (execResult : FrameResult G) :
    StepExits Rel (self.rewardBeneficiary env execResult) := by
  have hincr (reward : U256) : StepExits Rel
      (journalMut (JournalTr.balanceIncr (J := J) env.block.beneficiary reward)) :=
    KeptByJournal.journalMut (LawfulJournal.balanceIncr _ _) (hk.balanceIncr _ _)
  refine KeptByJournal.ite (hk.pure ()) (KeptByJournal.ite ?_ ?_)
  · exact hk.bind (hk.stepL1Cost env) fun _ => hincr _
  · exact hk.bind (hk.pure 0) fun _ => hincr _

/-- Settling the gas. -/
theorem exits_postExecution [GasTr G R] (hm : KeptByMainnet self.mainnet Rel)
    (execResult : FrameResult G) (init : InitialAndFloorGas) (refund : I64) :
    StepExits Rel (self.postExecution env execResult init refund) := by
  unfold postExecution
  refine hk.bind (exits_reimburseCaller env hk hm _) fun _ => ?_
  exact hk.bind (exits_rewardBeneficiary env hk _) fun _ => hk.pure _

/-! ## Runs that fail -/

/-- A run that fails has kept the relation where its frames and a result that is not built
do. -/
theorem exits_runWithoutCatchError [GasTr G R] [ResultGasTr R]
    (hm : KeptByMainnet self.mainnet Rel) {c c' : Ctx J}
    (hframes : ∀ init refund c₁, self.validate (ε := ε) env = .ok init →
      (self.preExecution env).run c = .ok refund c₁ →
      Rel c₁.view (exitState ((mainnetStep (self.mainnet.runExecLoop env
        (env.tx.gasLimit - init.initialGas))).run c₁)).view)
    (hresult : ∀ frame gas (j j' : J) e,
      (self.mainnet.executionResult env frame gas).run j = .error e j' →
      Rel (JournalTr.view j) (JournalTr.view j'))
    {e : EVMError ε} (h : (self.runWithoutCatchError env).run c = .error e c') :
    Rel c.view c'.view := by
  unfold runWithoutCatchError at h
  cases hvalid : self.validate (ε := ε) env with
  | error e' =>
    rw [hvalid] at h
    cases h
    exact hk.refl c.view
  | ok init =>
    rw [hvalid] at h
    have hpre := exits_preExecution env hk hm
    rcases run_bind_eq_error.mp h with hfail | ⟨refund, c₁, hpre₁, h₁⟩
    · exact hpre.error hfail
    have hrel₁ := hpre.ok hpre₁
    have hexec := hframes init refund c₁ hvalid hpre₁
    rcases run_bind_eq_error.mp h₁ with hfail | ⟨executed, c₂, hexec₂, h₂⟩
    · rcases run_bind_eq_error.mp hfail with hframe | ⟨_, _, _, hret⟩
      · rw [hframe] at hexec
        exact hk.trans hrel₁ hexec
      · cases hret
    obtain ⟨frame, c₂', hframe, hret⟩ := run_bind_eq_ok.mp hexec₂
    cases hret
    rw [hframe] at hexec
    have hrel₂ := hk.trans hrel₁ hexec
    have hpost := exits_postExecution env hk hm (lastFrameResult env frame) init refund
    rcases run_bind_eq_error.mp h₂ with hfail | ⟨settled, c₃, hpost₃, hbuilt⟩
    · exact hk.trans hrel₂ (hpost.error hfail)
    obtain ⟨e', j, hrun, rfl, rfl⟩ := run_focus_eq_error.mp hbuilt
    exact hk.trans (hk.trans hrel₂ (hpost.ok hpost₃)) (hresult _ _ _ _ _ hrun)

end Kept

end ScrollHandler

end ScrollRevm
