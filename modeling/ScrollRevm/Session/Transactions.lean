import ScrollRevm.L1Message.FeeNeutral
import ScrollRevm.Oracle.Freshness
import ScrollRevm.Session.Frames

/-!
# One transaction and the funds of all accounts

What an included transaction leaves of the balances and nonces of all accounts, whatever
kind it is of, and what a failed one leaves of the journal: nothing that shows. System calls
run the frames alone.
-/

namespace ScrollRevm

open FixedWidth StateResult Ledger

variable {J ε G R X : Type} [JournalTr J ε] [GasTr G R] [ResultGasTr R]

/-- What revm documents of how its handler changes the journal: by changes that the log
undoes, and in the frames through the operations of the journal. Frames return at most the
gas they were started with, and a result that is not built does not end the transaction. -/
structure TracedMainnet (mainnet : MainnetHandler J ε G R X) : Prop
    extends KeptByMainnet mainnet Journal.Traced where
  runExecLoop (env : Env) (gas : U64) (j : J) : ∃ checkpoints, Relation.ReflTransGen FundsStep
    (JournalTr.view j, [])
    (JournalTr.view (exitState ((mainnet.runExecLoop env gas).run j)), checkpoints)
  remaining_le {env : Env} {gas : U64} {frame : FrameResult G} {j j' : J}
    (h : (mainnet.runExecLoop env gas).run j = .ok frame j') : GasTr.remaining frame.gas ≤ gas
  executionResult_error {env : Env} {frame : FrameResult G} {gas : R} {e : EVMError ε} {j j' : J}
    (h : (mainnet.executionResult env frame gas).run j = .error e j') :
    Journal.Traced (JournalTr.view j) (JournalTr.view j')

theorem traced_keptByJournal : KeptByJournal (ε := ε) Journal.Traced where
  refl := Journal.Traced.refl
  trans h h' := h.trans h'
  loadAccountMut a := Journal.traced_exits (Journal.isRecorded_loadAccountMut · a)
    (Journal.isQuiet_loadAccountMut · a)
  touch a := Journal.traced_exits (Journal.isRecorded_touch · a) (Journal.isQuiet_touch · a)
  decrBalance a n := Journal.traced_exits (Journal.isRecorded_decrBalance · a n)
    (Journal.isQuiet_decrBalance · a n)
  balanceIncr a n := Journal.traced_exits (Journal.isRecorded_balanceIncr · a n)
    (Journal.isQuiet_balanceIncr · a n)
  bumpNonce a := Journal.traced_exits (Journal.isRecorded_bumpNonce · a)
    (Journal.isQuiet_bumpNonce · a)

/-! ## Before execution -/

section PreExecution

variable [LawfulJournal J] {self : ScrollHandler J ε G R X} {env : Env} {c c' : Ctx J}

/-- Entering the sender of an L1 message bumps the nonce of a call and changes no other
information. -/
theorem enterL1Msg_info {account : Account}
    (hstate : c.view.inner.state env.tx.caller = some account)
    (h : (ScrollHandler.enterL1Msg J ε env).run c = .ok () c') :
    c'.view.info =
      if env.tx.kind.isCall then
        Function.update c.view.info env.tx.caller (c.view.info env.tx.caller).bump
      else c.view.info := by
  have htouch {c₁ c₂ : Ctx J}
      (htouched : (journalMut (JournalTr.touch env.tx.caller)).run c₁ = .ok () c₂) :
      c₂.view.info = c₁.view.info := by
    obtain ⟨j, hrun, rfl⟩ := run_focus_eq_ok.mp htouched
    obtain ⟨s, hs, hsame, -⟩ := Journal.touch_run c₁.view env.tx.caller
    cases hs.symm.trans ((LawfulJournal.touch env.tx.caller).ok hrun)
    exact hsame
  unfold ScrollHandler.enterL1Msg at h
  cases hkind : env.tx.kind.isCall with
  | false =>
    rw [hkind, if_neg Bool.false_ne_true] at h
    simp only [Bool.false_eq_true, if_false]
    exact htouch h
  | true =>
    rw [hkind, if_pos rfl] at h
    obtain ⟨bumped, c₁, hbump, h₁⟩ := run_bind_eq_ok.mp h
    obtain ⟨j, hrun, rfl⟩ := run_focus_eq_ok.mp hbump
    obtain ⟨_, s, hs, -, -, hinfo⟩ := Journal.bumpNonce_run hstate
    cases hs.symm.trans ((LawfulJournal.bumpNonce env.tx.caller).ok hrun)
    rw [htouch h₁, if_pos rfl, Ctx.view_withJournal, hinfo, Journal.info_of_state hstate]

omit [ResultGasTr R] in
/-- Pre-execution of an L1 message moves no balance and lowers no nonce. -/
theorem preExecution_isL1Msg_funds (hm : LawfulMainnet self.mainnet)
    (hmsg : env.tx.isL1Msg = true) {refund : U64}
    (h : (self.preExecution env).run c = .ok refund c') :
    c'.view.balance = c.view.balance ∧ ∀ a, c.view.nonce a ≤ c'.view.nonce a := by
  rw [ScrollHandler.preExecution_isL1Msg hmsg] at h
  obtain ⟨account, c₁, hload, h₁⟩ := run_bind_eq_ok.mp h
  obtain ⟨_, c₂, hcheck, h₂⟩ := run_bind_eq_ok.mp h₁
  obtain ⟨_, c₃, henter, h₃⟩ := run_bind_eq_ok.mp h₂
  obtain ⟨_, c₄, hwarm, hauth⟩ := run_bind_eq_ok.mp h₃
  obtain ⟨-, hstate, -, hsame₁⟩ := ScrollHandler.loadAccountWithCodeMut_step_ok hload
  obtain ⟨-, rfl⟩ := validated_run_eq_ok.mp hcheck
  have hentered := enterL1Msg_info hstate henter
  obtain ⟨j, hrun, rfl⟩ := run_focus_eq_ok.mp hwarm
  rw [ScrollHandler.applyEip7702AuthList_isL1Msg hm hmsg] at hauth
  have hinfo : c'.view.info =
      if env.tx.kind.isCall then
        Function.update c.view.info env.tx.caller (c.view.info env.tx.caller).bump
      else c.view.info := by
    cases hauth
    rw [← hsame₁.info_eq]
    exact (hm.loadAccounts_ok hrun).trans hentered
  cases hkind : env.tx.kind.isCall with
  | false =>
    rw [hkind, if_neg Bool.false_ne_true] at hinfo
    refine ⟨Journal.balance_of_info hinfo, fun a => ?_⟩
    rw [Journal.nonce, Journal.nonce, hinfo]
    exact BitVec.le_refl _
  | true =>
    rw [hkind, if_pos rfl] at hinfo
    exact Journal.bump_funds hinfo

omit [ResultGasTr R] in
/-- Pre-execution takes a charge out of the balances and lowers no nonce. -/
theorem preExecution_funds (hm : LawfulMainnet self.mainnet)
    (htype : TransactionType.ofU8 env.tx.txType ≠ .eip4844) {refund : U64}
    (h : (self.preExecution env).run c = .ok refund c') :
    total c'.view.balance ≤ total c.view.balance ∧ ∀ a, c.view.nonce a ≤ c'.view.nonce a := by
  cases hmsg : env.tx.isL1Msg with
  | true =>
    obtain ⟨hbalance, hnonce⟩ := preExecution_isL1Msg_funds hm hmsg h
    exact ⟨by rw [hbalance], hnonce⟩
  | false =>
    obtain ⟨l1Cost, hcharged⟩ := preExecution_ok hm htype hmsg h
    refine ⟨?_, fun a => ?_⟩
    · have hdebit := hcharged.debit.1
      rw [hcharged.balance_eq] at hdebit ⊢
      rw [Function.update_self] at hdebit
      have htotal := total_debit hdebit
      omega
    · refine BitVec.le_trans ?_ (hcharged.nonce_le a)
      by_cases ha : a = env.tx.caller
      · subst ha
        rw [Function.update_self, charged_nonce]
        split
        · exact AccountInfo.nonce_le_bump _
        · exact BitVec.le_refl _
      · rw [Function.update_of_ne ha]
        exact BitVec.le_refl _

end PreExecution

/-! ## Frames -/

section Frames

variable {mainnet : MainnetHandler J ε G R X} {c c' : Ctx J}

omit [ResultGasTr R] in
/-- The frames are traced, keep the sum of all balances and lower no nonce, whether they
return or fail. -/
theorem frames_funds (ht : TracedMainnet mainnet) (env : Env) (gas : U64)
    (hlt : total c.view.balance < 2 ^ 256) :
    Journal.Traced c.view (exitState ((mainnetStep (mainnet.runExecLoop env gas)).run c)).view ∧
      FundsAbove (total c.view.balance) c.view.nonce
        (exitState ((mainnetStep (mainnet.runExecLoop env gas)).run c)).view.funds := by
  have hstart : FundsAbove (total c.view.balance) c.view.nonce c.view.funds :=
    ⟨rfl, fun a => BitVec.le_refl _⟩
  obtain ⟨checkpoints, hrun⟩ := ht.runExecLoop env gas c.journal
  have hview : (exitState ((mainnetStep (mainnet.runExecLoop env gas)).run c)).view =
      JournalTr.view (exitState ((mainnet.runExecLoop env gas).run c.journal)) := by
    rw [mainnetStep, run_focus]
    cases (mainnet.runExecLoop env gas).run c.journal <;> rfl
  rw [hview]
  exact fundsStep_run hlt hstart hrun

end Frames

/-! ## Transactions -/

section Transactions

variable [LawfulJournal J] {self : ScrollHandler J ε G R X} {env : Env} {c c' : Ctx J}

/-- The credits after execution restore the sum of the balances before it. -/
theorem postExecution_funds [LawfulGas G] (hm : LawfulMainnet self.mainnet)
    (ht : TracedMainnet self.mainnet) {init : InitialAndFloorGas}
    (hvalid : self.validate (ε := ε) env = .ok init) {refund : U64} {c₁ c₂ c₃ : Ctx J}
    (hpre : (self.preExecution env).run c = .ok refund c₁) {frame : FrameResult G}
    (hframe : (mainnetStep (self.mainnet.runExecLoop env
      (env.tx.gasLimit - init.initialGas))).run c₁ = .ok frame c₂)
    (hsum : total c₂.view.balance = total c₁.view.balance)
    (hlt : total c.view.balance < 2 ^ 256) {settled : FrameResult G × R}
    (hpost : (self.postExecution env (ScrollHandler.lastFrameResult env frame) init refund).run
      c₂ = .ok settled c₃) :
    total c₃.view.balance = total c.view.balance ∧
      ∀ a, c₃.view.nonce a = c₂.view.nonce a := by
  obtain ⟨htype, hinit⟩ := validate_ok hm hvalid
  cases hmsg : env.tx.isL1Msg with
  | true =>
    rw [ScrollHandler.postExecution_isL1Msg hmsg] at hpost
    cases hpost
    rw [hsum, (preExecution_isL1Msg_funds hm hmsg hpre).1]
    exact ⟨rfl, fun a => rfl⟩
  | false =>
    obtain ⟨l1Cost, hcharged⟩ := preExecution_ok hm htype hmsg hpre
    obtain ⟨j, hloop, rfl⟩ := run_focus_eq_ok.mp hframe
    obtain ⟨hinitial, hfloor, -⟩ := validateInitialTxGas_ok hinit
    have hcost : L1CostIs env (c₁.withJournal j).chain l1Cost := hcharged.l1Cost_is
    refine ⟨?_, postExecution_nonce hm hmsg hcost hpost⟩
    have hfee : self.mainnet.gasFee env < 2 ^ 128 :=
      (hm.gasFee_le env).trans_lt (hm.accepts_covers htype hcharged.accepts).1
    have hremaining : GasTr.remaining frame.gas ≤ env.tx.gasLimit := by
      have hle := ht.remaining_le hloop
      rw [BitVec.le_def] at hle hinitial ⊢
      rw [BitVec.toNat_sub_of_le (BitVec.le_def.mpr hinitial)] at hle
      omega
    have hbalanced := (settle_not_isL1Msg hmsg hfloor hremaining refund).1
    obtain ⟨hdebit, hother⟩ := hcharged.debit
    have htotal : total c₁.view.balance + (self.mainnet.gasFee env + l1Cost.toNat) =
        total c.view.balance := by
      have hdebit' := hdebit
      rw [hcharged.balance_eq] at hdebit' ⊢
      rw [Function.update_self] at hdebit'
      exact total_debit hdebit'
    obtain ⟨rfl, hcredit⟩ := postExecution_ok hm hmsg hcost hfee hbalanced
      (by rw [hsum, htotal]; exact hlt) hpost
    have hsettled : FeesSettled self.mainnet env c.view.balance c₁.view.balance
        (c₁.withJournal j).view.balance c₃.view.balance _ l1Cost := ⟨hdebit, hother, hcredit⟩
    exact hsettled.total_eq hsum

/-- An included transaction ends what it traced, keeps the sum of all balances and lowers no
nonce. -/
theorem run_ok_funds [LawfulGas G] (hm : LawfulMainnet self.mainnet)
    (ht : TracedMainnet self.mainnet) (hlt : total c.view.balance < 2 ^ 256) {x : X}
    (h : (self.run env).run c = .ok x c') :
    ∃ t, Journal.Traced c.view t ∧
      FundsAbove (total c.view.balance) c.view.nonce t.funds ∧
      Journal.commitTx.run t = .ok () c'.view := by
  obtain ⟨init, refund, c₁, frame, c₂, settled, c₃, hvalid, hpre, hframe, hpost, hresult⟩ :=
    run_ok_steps h
  obtain ⟨hpaid, hnonce₁⟩ := preExecution_funds hm (validate_ok hm hvalid).1 hpre
  have hframes := frames_funds ht env (env.tx.gasLimit - init.initialGas)
    (hpaid.trans_lt hlt)
  rw [hframe] at hframes
  obtain ⟨htraced₂, hsum, hnonce₂⟩ := hframes
  obtain ⟨htotal, hnonce₃⟩ := postExecution_funds hm ht hvalid hpre hframe hsum hlt hpost
  have htraced₁ := (ScrollHandler.exits_preExecution env traced_keptByJournal
    ht.toKeptByMainnet).ok hpre
  have htraced₃ := (ScrollHandler.exits_postExecution env traced_keptByJournal
    ht.toKeptByMainnet _ init refund).ok hpost
  obtain ⟨j, hbuilt, rfl⟩ := run_focus_eq_ok.mp hresult
  refine ⟨c₃.view, (htraced₁.trans htraced₂).trans htraced₃, ⟨htotal, fun a => ?_⟩,
    (hm.executionResult_ok hbuilt).2⟩
  have hsame : (c₃.view.funds a).nonce = c₂.view.nonce a := hnonce₃ a
  rw [hsame]
  exact BitVec.le_trans (hnonce₁ a) (hnonce₂ a)

/-- A transaction that fails discards what it traced. -/
theorem run_error_traced (hm : LawfulMainnet self.mainnet) (ht : TracedMainnet self.mainnet)
    (hlt : total c.view.balance < 2 ^ 256) {e : EVMError ε}
    (h : (self.run env).run c = .error e c') :
    ∃ t, Journal.Traced c.view t ∧ Journal.discardTx.run t = .ok () c'.view := by
  obtain ⟨c₁, hsteps, hdiscard⟩ := run_error_steps h
  refine ⟨c₁.view, ?_, hdiscard⟩
  refine ScrollHandler.exits_runWithoutCatchError env traced_keptByJournal ht.toKeptByMainnet
    ?_ (fun _ _ _ _ _ hbuilt => ht.executionResult_error hbuilt) hsteps
  intro init refund c₂ hvalid hpre
  have hpaid := (preExecution_funds hm (validate_ok hm hvalid).1 hpre).1
  exact (frames_funds ht env _ (hpaid.trans_lt hlt)).1

end Transactions

end ScrollRevm
