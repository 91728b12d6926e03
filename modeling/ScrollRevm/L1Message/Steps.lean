import ScrollRevm.Revm.Warming
import ScrollRevm.Settlement.Charge

/-!
# The steps of an L1 message

For an L1 message the handler skips the refresh of the L1 block info and both charges.
What is left of pre-execution is one check of the sender, which depends on the account
information alone, the nonce of a call, the touched mark, and two mainnet steps.
-/

namespace ScrollRevm

open FixedWidth StateResult

namespace ScrollHandler

variable {J ε G R X : Type} [JournalTr J ε]
variable {self : ScrollHandler J ε G R X} {env : Env}

/-! ## What is skipped -/

omit [JournalTr J ε] in
theorem type_of_isL1Msg (hmsg : env.tx.isL1Msg = true) :
    TransactionType.ofU8 env.tx.txType = .custom := by
  have htype : env.tx.txType = l1MessageType := eq_of_beq hmsg
  rw [htype]
  rfl

/-- The L1 block info is not refreshed for an L1 message. -/
theorem refreshL1BlockInfo_isL1Msg (hmsg : env.tx.isL1Msg = true) :
    refreshL1BlockInfo (J := J) env = pure () := by
  unfold refreshL1BlockInfo
  simp only [hmsg, Bool.not_true, Bool.false_and, Bool.false_eq_true, if_false]

/-- An L1 message is not charged, on neither branch of the deduction. -/
theorem validateAgainstStateAndDeductCaller_isL1Msg (hmsg : env.tx.isL1Msg = true) :
    self.validateAgainstStateAndDeductCaller env = self.validateL1Msg env := by
  unfold validateAgainstStateAndDeductCaller deductCallerBeforeTsukiV2 deductCallerTsukiV2
  simp only [hmsg, Bool.not_true, Bool.false_and, Bool.false_eq_true, if_false, if_true,
    pure_bind, ite_self]

/-! ## The check of the sender -/

omit [JournalTr J ε] in
theorem validated_bind {α β : Type} (x : Except InvalidTransaction α)
    (f : α → Except InvalidTransaction β) :
    validated (J := J) (ε := ε) (x >>= f) = validated x >>= fun a => validated (f a) := by
  cases x <;> rfl

/-- EIP-3607: a sender with code other than a delegation is refused. -/
def checkCallerCode (env : Env) (caller : AccountInfo) : Except InvalidTransaction Unit :=
  if !env.cfg.isEip3607Disabled && caller.code.rejectsCaller then
    .error .rejectCallerWithCode
  else .ok ()

variable (self env) in
/-- Why the sender of an L1 message is refused, if it is: before Euclid for its balance,
and for its code. -/
def checkL1Msg (caller : AccountInfo) : Except InvalidTransaction Unit := do
  if !env.cfg.spec.isEnabledIn .euclid then
    let maxBalanceSpending ← self.mainnet.maxBalanceSpending env.tx.base
    if caller.balance < maxBalanceSpending then
      throw (.lackOfFundForMaxFee maxBalanceSpending caller.balance)
  checkCallerCode env caller

variable (J ε env) in
/-- The sender of a checked L1 message: the nonce of a call is bumped. -/
def enterL1Msg : Step J ε Unit := do
  if env.tx.kind.isCall then
    let _ ← journalMut (JournalTr.bumpNonce env.tx.caller)
  journalMut (JournalTr.touch env.tx.caller)

omit [JournalTr J ε] in
/-- The two conditionals of the source are one check. -/
theorem validated_checkCallerCode {α : Type} (caller : AccountInfo) (next : Step J ε α) :
    (if !env.cfg.isEip3607Disabled then
        if !caller.code.isEmpty && !caller.code.isEip7702 then
          throw (.transaction .rejectCallerWithCode) >>= fun _ : PUnit => next
        else next
      else next) = validated (checkCallerCode env caller) >>= fun _ => next := by
  unfold checkCallerCode Bytecode.rejectsCaller
  cases env.cfg.isEip3607Disabled with
  | true => rfl
  | false => cases !caller.code.isEmpty && !caller.code.isEip7702 <;> rfl

/-- The checks of an L1 message, apart from what follows them. -/
theorem validateL1Msg_eq (hmsg : env.tx.isL1Msg = true) :
    self.validateL1Msg env =
      journalMut (JournalTr.loadAccountWithCodeMut env.tx.caller) >>= fun callerAccount =>
        validated (self.checkL1Msg env callerAccount.info) >>= fun _ => enterL1Msg J ε env := by
  unfold validateL1Msg
  refine bind_congr fun callerAccount => ?_
  unfold checkL1Msg
  simp only [hmsg, Bool.true_and]
  cases env.cfg.spec.isEnabledIn .euclid with
  | true =>
    simp only [Bool.not_true, Bool.false_eq_true, if_false]
    exact validated_checkCallerCode _ (enterL1Msg J ε env)
  | false =>
    simp only [Bool.not_false, if_true, validated_bind, bind_assoc]
    refine bind_congr fun maxBalanceSpending => ?_
    by_cases hfunds : callerAccount.info.balance < maxBalanceSpending
    · rw [if_pos hfunds, if_pos hfunds]
      rfl
    · rw [if_neg hfunds, if_neg hfunds]
      exact validated_checkCallerCode _ (enterL1Msg J ε env)

/-- Pre-execution of an L1 message. -/
theorem preExecution_isL1Msg (hmsg : env.tx.isL1Msg = true) :
    self.preExecution env =
      journalMut (JournalTr.loadAccountWithCodeMut env.tx.caller) >>= fun callerAccount =>
        validated (self.checkL1Msg env callerAccount.info) >>= fun _ =>
          enterL1Msg J ε env >>= fun _ =>
            mainnetStep (self.mainnet.loadAccounts env) >>= fun _ =>
              mainnetStep (self.mainnet.applyEip7702AuthList env) := by
  unfold preExecution
  rw [refreshL1BlockInfo_isL1Msg hmsg, pure_bind,
    validateAgainstStateAndDeductCaller_isL1Msg hmsg, validateL1Msg_eq hmsg]
  simp only [bind_assoc]

/-- An L1 message has no authorizations. -/
theorem applyEip7702AuthList_isL1Msg [GasTr G R] (hm : LawfulMainnet self.mainnet)
    (hmsg : env.tx.isL1Msg = true) : self.mainnet.applyEip7702AuthList env = pure 0 := by
  have hne : TransactionType.ofU8 env.tx.txType ≠ .eip7702 := by
    rw [type_of_isL1Msg hmsg]
    exact TransactionType.noConfusion
  exact funext fun j => hm.applyEip7702AuthList_of_ne j hne

/-! ## What the steps change -/

section Changes

variable [LawfulJournal J] {c c' : Ctx J}

theorem loadAccountWithCodeMut_step_ok {address : Address} {account : Account}
    (h : (journalMut (JournalTr.loadAccountWithCodeMut address)).run c = .ok account c') :
    c'.chain = c.chain ∧ c'.view.inner.state address = some account ∧
      account.info = c.view.info address ∧ Journal.SameAccounts c.view c'.view := by
  obtain ⟨j, hrun, rfl⟩ := run_focus_eq_ok.mp h
  have hload := (LawfulJournal.loadAccountWithCodeMut address).ok hrun
  obtain ⟨load, s, hloaded, hret⟩ := run_bind_eq_ok.mp hload
  cases hret
  obtain ⟨hstate, hinfo, -, -⟩ := Journal.loadAccount_ok hloaded
  exact ⟨rfl, hstate, hinfo, Journal.sameAccounts_loadAccount hloaded⟩

omit [LawfulJournal J] in
theorem loadAccountWithCodeMut_step_error {address : Address} {e : EVMError ε}
    (h : (journalMut (JournalTr.loadAccountWithCodeMut address)).run c = .error e c') :
    ∃ d, e = .database d := by
  obtain ⟨d, -, -, rfl, -⟩ := run_focus_eq_error.mp h
  exact ⟨d, rfl⟩

/-- An accepted L1 message marks its sender as touched and raises the nonce of a call by
one; warmth aside, nothing else changes. -/
structure EnteredBy (env : Env) (c c' : Ctx J) : Prop where
  chain_eq : c'.chain = c.chain
  info_eq : c'.view.info =
    if env.tx.kind.isCall then
      Function.update c.view.info env.tx.caller
        { c.view.info env.tx.caller with nonce := c.view.nonce env.tx.caller + 1 }
    else c.view.info
  storageAt_eq : c'.view.storageAt = c.view.storageAt
  touched_eq : c'.view.touched = Function.update c.view.touched env.tx.caller true

/-- The sender of a checked L1 message is entered without an error. -/
theorem enterL1Msg_total {account : Account}
    (hstate : c.view.inner.state env.tx.caller = some account) :
    ∃ c', (enterL1Msg J ε env).run c = .ok () c' := by
  have htouch (c₁ : Ctx J) :
      ∃ c', (journalMut (JournalTr.touch env.tx.caller)).run c₁ = .ok () c' := by
    obtain ⟨s, hrun, -⟩ := Journal.touch_run c₁.view env.tx.caller
    obtain ⟨j, hj, -⟩ := (LawfulJournal.touch env.tx.caller).exists_ok hrun
    exact ⟨c₁.withJournal j, run_focus_of_ok hj⟩
  unfold enterL1Msg
  split
  · obtain ⟨bumped, s, hrun, -⟩ := Journal.bumpNonce_run hstate
    obtain ⟨j, hj, -⟩ := (LawfulJournal.bumpNonce env.tx.caller).exists_ok hrun
    obtain ⟨c', htouched⟩ := htouch (c.withJournal j)
    have hbumped : (journalMut (JournalTr.bumpNonce env.tx.caller)).run c =
        .ok bumped (c.withJournal j) := run_focus_of_ok hj
    exact ⟨c', (run_bind_of_ok hbumped).trans htouched⟩
  · exact htouch c

/-- Below the last nonce, entering a sender changes what it should. -/
theorem enterL1Msg_ok {account : Account}
    (hstate : c.view.inner.state env.tx.caller = some account)
    (hnonce : (c.view.nonce env.tx.caller).toNat < 2 ^ 64 - 1)
    (h : (enterL1Msg J ε env).run c = .ok () c') : EnteredBy env c c' := by
  have hinfo : account.info = c.view.info env.tx.caller := (Journal.info_of_state hstate).symm
  have htouch {c₁ c₂ : Ctx J} {account : Account}
      (hcached : c₁.view.inner.state env.tx.caller = some account)
      (htouched : (journalMut (JournalTr.touch env.tx.caller)).run c₁ = .ok () c₂) :
      c₂.chain = c₁.chain ∧ c₂.view.info = c₁.view.info ∧
        c₂.view.storageAt = c₁.view.storageAt ∧
        c₂.view.touched = Function.update c₁.view.touched env.tx.caller true := by
    obtain ⟨j, hrun, rfl⟩ := run_focus_eq_ok.mp htouched
    have hj := (LawfulJournal.touch env.tx.caller).ok hrun
    obtain ⟨s, hs, hsame⟩ := Journal.run_touch hcached
    cases hs.symm.trans hj
    exact ⟨rfl, hsame⟩
  unfold enterL1Msg at h
  cases hkind : env.tx.kind.isCall with
  | false =>
    rw [hkind, if_neg Bool.false_ne_true] at h
    obtain ⟨hchain, hsame, hstorage, htouched⟩ := htouch hstate h
    refine ⟨hchain, ?_, hstorage, htouched⟩
    rw [hkind, if_neg Bool.false_ne_true, hsame]
  | true =>
    rw [hkind, if_pos rfl] at h
    obtain ⟨bumped, c₁, hbump, h₁⟩ := run_bind_eq_ok.mp h
    obtain ⟨j, hrun, rfl⟩ := run_focus_eq_ok.mp hbump
    have hj := (LawfulJournal.bumpNonce env.tx.caller).ok hrun
    rw [Journal.nonce, ← hinfo] at hnonce
    obtain ⟨s, hs, ⟨account', hcached⟩, hbumped, hstorage₁, htouched₁⟩ :=
      Journal.run_bumpNonce hstate hnonce
    cases hs.symm.trans hj
    have hcached₁ : (c.withJournal j).view.inner.state env.tx.caller = some account' := hcached
    obtain ⟨hchain, hsame, hstorage, htouched⟩ := htouch hcached₁ h₁
    refine ⟨hchain, ?_, hstorage.trans hstorage₁, ?_⟩
    · rw [hkind, if_pos rfl, hsame, Ctx.view_withJournal, hbumped, hinfo]
      rfl
    · rw [htouched, Ctx.view_withJournal, htouched₁, Function.update_idem]

/-- An accepted L1 message enters its sender; no refund and no L1 block info comes of it. -/
theorem preExecution_isL1Msg_ok [GasTr G R] (hm : LawfulMainnet self.mainnet)
    (hw : LawfulWarming self.mainnet) (hmsg : env.tx.isL1Msg = true)
    (hnonce : (c.view.nonce env.tx.caller).toNat < 2 ^ 64 - 1) {refund : U64}
    (h : (self.preExecution env).run c = .ok refund c') : refund = 0 ∧ EnteredBy env c c' := by
  rw [preExecution_isL1Msg hmsg] at h
  obtain ⟨account, c₁, hload, h₁⟩ := run_bind_eq_ok.mp h
  obtain ⟨_, c₂, hcheck, h₂⟩ := run_bind_eq_ok.mp h₁
  obtain ⟨_, c₃, henter, h₃⟩ := run_bind_eq_ok.mp h₂
  obtain ⟨_, c₄, hwarm, hauth⟩ := run_bind_eq_ok.mp h₃
  obtain ⟨hchain₁, hstate, -, hsame₁⟩ := loadAccountWithCodeMut_step_ok hload
  obtain ⟨-, rfl⟩ := validated_run_eq_ok.mp hcheck
  have hnonce₁ : (c₂.view.nonce env.tx.caller).toNat < 2 ^ 64 - 1 := by
    rwa [Journal.nonce, hsame₁.info_eq]
  have hentered := enterL1Msg_ok hstate hnonce₁ henter
  obtain ⟨j, hrun, rfl⟩ := run_focus_eq_ok.mp hwarm
  have hsame₄ := hw.loadAccounts_ok hrun
  rw [applyEip7702AuthList_isL1Msg hm hmsg] at hauth
  cases hauth
  refine ⟨rfl, hentered.chain_eq.trans hchain₁, ?_, ?_, ?_⟩
  · refine hsame₄.info_eq.trans (hentered.info_eq.trans ?_)
    rw [hsame₁.info_eq, Journal.nonce, Journal.nonce, hsame₁.info_eq]
  · exact hsame₄.storageAt_eq.trans (hentered.storageAt_eq.trans hsame₁.storageAt_eq)
  · refine hsame₄.touched_eq.trans (hentered.touched_eq.trans ?_)
    rw [hsame₁.touched_eq]

omit [LawfulJournal J] in
theorem EnteredBy.balance_eq (h : EnteredBy env c c') : c'.view.balance = c.view.balance := by
  funext a
  rw [Journal.balance, Journal.balance, h.info_eq]
  split
  · by_cases ha : a = env.tx.caller
    · subst ha
      rw [Function.update_self]
    · rw [Function.update_of_ne ha]
  · rfl

end Changes

end ScrollHandler

end ScrollRevm
