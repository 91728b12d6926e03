import ScrollRevm.L1Message.Steps
import ScrollRevm.Settlement.Replay

/-!
# L1 messages are fee-neutral

The exemption of L1 messages is a conditional in every step. Together they leave a
transaction whose balances are those of its frames alone, and whose steps act on the
journal without the inputs of the L1 fee.
-/

namespace ScrollRevm

open FixedWidth StateResult

/-- The environment with other inputs of the L1 fee. -/
def Env.withFeeInputs (env : Env) (rlpBytes : Option Bytes) (compressionRatio : Option U256)
    (compressedSize : Option Usize) : Env :=
  { env with tx := { env.tx with
      rlpBytes := rlpBytes
      compressionRatio := compressionRatio
      compressedSize := compressedSize } }

theorem Env.sameMainnet_withFeeInputs (env : Env) (rlpBytes : Option Bytes)
    (compressionRatio : Option U256) (compressedSize : Option Usize) :
    SameMainnet (env.withFeeInputs rlpBytes compressionRatio compressedSize) env :=
  ⟨rfl, rfl, rfl, rfl⟩

variable {J ε G R X α β : Type}

/-! ## Steps on the journal -/

/-- The step reads and changes nothing of the context but the journal. -/
def OnJournal (step : Step J ε α) : Prop :=
  ∃ x : EStateM (EVMError ε) J α, step = mainnetStep x

namespace OnJournal

theorem pure (a : α) : OnJournal (Pure.pure a : Step J ε α) :=
  ⟨Pure.pure a, (focus_pure (fun _ => rfl) a).symm⟩

theorem mainnetStep (x : EStateM (EVMError ε) J α) : OnJournal (mainnetStep x) := ⟨x, rfl⟩

theorem journalMut (x : EStateM ε J α) : OnJournal (journalMut x) :=
  ⟨focus id (fun s _ => s) EVMError.database x, focus_mapError.symm⟩

theorem validated (x : Except InvalidTransaction α) :
    OnJournal (validated x : Step J ε α) := by
  cases x with
  | ok a => exact pure a
  | error e => exact ⟨throw (.transaction e), rfl⟩

theorem bind {step : Step J ε α} {next : α → Step J ε β} (h : OnJournal step)
    (hnext : ∀ a, OnJournal (next a)) : OnJournal (step >>= next) := by
  obtain ⟨x, rfl⟩ := h
  choose y hy using hnext
  refine ⟨x >>= y, ?_⟩
  have hget (j : J) (c : Ctx J) : Ctx.journal (Ctx.withJournal j c) = j := rfl
  have hset (j j' : J) (c : Ctx J) :
      Ctx.withJournal j (Ctx.withJournal j' c) = Ctx.withJournal j c := rfl
  rw [ScrollRevm.mainnetStep, ScrollRevm.mainnetStep, focus_bind hget hset]
  exact bind_congr hy

/-- Such a step leaves the chain context, whether it returns or fails. -/
theorem chain_eq {step : Step J ε α} (h : OnJournal step) (c : Ctx J) :
    (exitState (step.run c)).chain = c.chain := by
  obtain ⟨x, rfl⟩ := h
  rw [ScrollRevm.mainnetStep, run_focus]
  cases x.run c.journal <;> rfl

end OnJournal

/-- The step acts on the journal alone, and does so whatever the inputs of the L1 fee. -/
structure FeeBlind (step : Env → Step J ε α) (env : Env) : Prop where
  onJournal : OnJournal (step env)
  feeInputs_eq : ∀ rlpBytes compressionRatio compressedSize,
    step (env.withFeeInputs rlpBytes compressionRatio compressedSize) = step env

/-! ## The steps of an L1 message -/

namespace ScrollHandler

variable [JournalTr J ε] {self : ScrollHandler J ε G R X} {env : Env}

theorem onJournal_enterL1Msg : OnJournal (enterL1Msg J ε env) := by
  have htouch : OnJournal (journalMut (JournalTr.touch env.tx.caller) : Step J ε Unit) :=
    .journalMut _
  unfold enterL1Msg
  split
  · exact (OnJournal.journalMut _).bind fun _ => htouch
  · exact htouch

theorem feeBlind_preExecution [GasTr G R] (hm : LawfulMainnet self.mainnet)
    (hr : MainnetReads self.mainnet) (hmsg : env.tx.isL1Msg = true) :
    FeeBlind (fun env => self.preExecution env) env := by
  constructor
  · rw [preExecution_isL1Msg hmsg]
    exact (OnJournal.journalMut _).bind fun _ => (OnJournal.validated _).bind fun _ =>
      onJournal_enterL1Msg.bind fun _ => (OnJournal.mainnetStep _).bind fun _ => .mainnetStep _
  · intro rlpBytes compressionRatio compressedSize
    have hload := hr.loadAccounts
      (env.sameMainnet_withFeeInputs rlpBytes compressionRatio compressedSize) rfl
    have hmsg' : (env.withFeeInputs rlpBytes compressionRatio compressedSize).tx.isL1Msg = true :=
      hmsg
    have happly := (applyEip7702AuthList_isL1Msg hm hmsg').trans
      (applyEip7702AuthList_isL1Msg hm hmsg).symm
    rw [preExecution_isL1Msg hmsg, preExecution_isL1Msg hmsg', hload, happly]
    rfl

omit [JournalTr J ε] in
theorem feeBlind_executionResult [ResultGasTr R] (hr : MainnetReads self.mainnet)
    (frame : FrameResult G) (gas : R) :
    FeeBlind (fun env => self.executionResult env frame gas) env := by
  refine ⟨.mainnetStep _, fun rlpBytes compressionRatio compressedSize => ?_⟩
  have hresult := hr.executionResult
    (env.sameMainnet_withFeeInputs rlpBytes compressionRatio compressedSize)
  unfold executionResult
  rw [hresult]
  rfl

/-- Ending a transaction changes no account, aside from warmth. -/
theorem executionResult_sameAccounts [GasTr G R] [ResultGasTr R] (hm : LawfulMainnet self.mainnet)
    {frame : FrameResult G} {gas : R} {x : X} {c c' : Ctx J}
    (h : (self.executionResult env frame gas).run c = .ok x c') :
    c'.chain = c.chain ∧ Journal.SameAccounts c.view c'.view := by
  obtain ⟨j, hrun, rfl⟩ := run_focus_eq_ok.mp h
  have hcommit := (hm.executionResult_ok hrun).2
  change Journal.commitTx _ = _ at hcommit
  injection hcommit with _ hview
  refine ⟨rfl, ?_⟩
  rw [Ctx.view_withJournal, ← hview]
  exact ⟨rfl, rfl, rfl⟩

end ScrollHandler

open ScrollHandler in
/-- The steps around the frames of an L1 message are fee-neutral: they leave every balance,
the chain context, and all but the nonce and the mark of the sender, and they do not see
the inputs of the L1 fee. The balances of an included message are those its frames produce
from the initial ones. The steps between the last frame and the settled gas are functions
of the frame result. -/
theorem l1Message_fee_neutral [JournalTr J ε] [LawfulJournal J] [GasTr G R] [ResultGasTr R]
    (self : ScrollHandler J ε G R X) (hm : LawfulMainnet self.mainnet)
    (hw : LawfulWarming self.mainnet) (hr : MainnetReads self.mainnet) (env : Env)
    (hmsg : env.tx.isL1Msg = true) :
    FeeBlind (fun env => self.preExecution env) env ∧
      (∀ (c c' : Ctx J) refund, (c.view.nonce env.tx.caller).toNat < 2 ^ 64 - 1 →
        (self.preExecution env).run c = .ok refund c' →
          refund = 0 ∧ EnteredBy env c c' ∧ c'.view.balance = c.view.balance) ∧
      (∀ frame init refund (c : Ctx J),
        (self.reimburseCaller env frame).run c = .ok () c ∧
          (self.rewardBeneficiary env frame).run c = .ok () c ∧
          (self.postExecution env frame init refund).run c =
            .ok (frame, GasTr.buildResultGas frame.gas init) c) ∧
      (∀ frame gas, FeeBlind (fun env => self.executionResult env frame gas) env ∧
        ∀ x (c c' : Ctx J), (self.executionResult env frame gas).run c = .ok x c' →
          c'.chain = c.chain ∧ Journal.SameAccounts c.view c'.view) ∧
      ∀ x (c c' : Ctx J), (c.view.nonce env.tx.caller).toNat < 2 ^ 64 - 1 →
        (self.run env).run c = .ok x c' →
          ∃ init frame c₁ c₂, self.validate env = .ok init ∧
            EnteredBy env c c₁ ∧ c₁.view.balance = c.view.balance ∧
            (mainnetStep (self.mainnet.runExecLoop env
              (env.tx.gasLimit - init.initialGas))).run c₁ = .ok frame c₂ ∧
            Journal.SameAccounts c₂.view c'.view ∧ c'.view.balance = c₂.view.balance ∧
            c'.chain = c.chain := by
  have hpre (c c' : Ctx J) (refund : U64)
      (hnonce : (c.view.nonce env.tx.caller).toNat < 2 ^ 64 - 1)
      (h : (self.preExecution env).run c = .ok refund c') :
      refund = 0 ∧ EnteredBy env c c' ∧ c'.view.balance = c.view.balance := by
    obtain ⟨hrefund, hentered⟩ := preExecution_isL1Msg_ok hm hw hmsg hnonce h
    exact ⟨hrefund, hentered, hentered.balance_eq⟩
  have hpost (frame : FrameResult G) (init : InitialAndFloorGas) (refund : I64) (c : Ctx J) :
      (self.postExecution env frame init refund).run c =
        .ok (frame, GasTr.buildResultGas frame.gas init) c := by
    rw [postExecution_isL1Msg hmsg, settle_of_isL1Msg hmsg]
    rfl
  refine ⟨feeBlind_preExecution hm hr hmsg, hpre, fun frame init refund c => ⟨?_, ?_, ?_⟩, ?_, ?_⟩
  · rw [reimburseCaller_isL1Msg hmsg]
    rfl
  · rw [rewardBeneficiary_isL1Msg hmsg]
    rfl
  · exact hpost frame init refund c
  · intro frame gas
    exact ⟨feeBlind_executionResult hr frame gas, fun x c c' h => executionResult_sameAccounts hm h⟩
  · intro x c c' hnonce hrun
    obtain ⟨init, refund, c₁, frame, c₂, settled, c₃, hvalid, hentry, hframes, hsettled,
      hresult⟩ := run_ok_steps hrun
    obtain ⟨-, hentered, hbalance⟩ := hpre c c₁ refund hnonce hentry
    cases (hpost _ _ _ _).symm.trans hsettled
    obtain ⟨hchain, hsame⟩ := executionResult_sameAccounts hm hresult
    obtain ⟨j, -, rfl⟩ := run_focus_eq_ok.mp hframes
    exact ⟨init, frame, c₁, _, hvalid, hentered, hbalance, hframes, hsame, hsame.balance_eq,
      hchain.trans hentered.chain_eq⟩

open ReferenceMainnet in
/-- An L1 message whose sender has nothing beside the value, under a gas price of one: the
frames move the value, and nothing else moves a balance. -/
theorem l1Message_fee_neutral_moves_value :
    ∃ x c' frame, ∃ c₁ c₂ : Ctx (Journal Unit),
      (sampleHandler.run (sampleL1Message .feynman 200)).run ⟨sampleJournal 200, sampleChain⟩ =
          .ok x c' ∧
        c'.view.balance 5 = 200 ∧ c₁.view.balance = (sampleJournal 200).balance ∧
        (mainnetStep (emptyFrames 9 (sampleL1Message .feynman 200) 39000)).run c₁ =
          .ok frame c₂ ∧
        c'.view.balance = c₂.view.balance ∧ c'.chain = sampleChain := by
  obtain ⟨x, c', hrun, hvalue⟩ : ∃ x c', (sampleHandler.run (sampleL1Message .feynman 200)).run
      ⟨sampleJournal 200, sampleChain⟩ = .ok x c' ∧ c'.view.balance 5 = 200 :=
    ⟨_, _, rfl, by decide +kernel⟩
  obtain ⟨-, -, -, -, hneutral⟩ := l1Message_fee_neutral sampleHandler lawful warming reads
    (sampleL1Message .feynman 200) rfl
  obtain ⟨init, frame, c₁, c₂, hvalid, -, hinitial, hframes, -, hbalance, hchain⟩ :=
    hneutral x ⟨sampleJournal 200, sampleChain⟩ c' (by decide) hrun
  cases hvalid
  exact ⟨x, c', frame, c₁, c₂, hrun, hvalue, hinitial, hframes, hbalance, hchain⟩

end ScrollRevm
