import ScrollRevm.Journal.Slots

/-!
# Accounts aside from warmth

What a transaction leaves of an account besides its warmth: its information, the values
of its slots, and the mark that it was touched. Loads change none of these.
-/

namespace ScrollRevm

open FixedWidth StateResult

namespace Journal

variable {ε : Type} {s s' t : Journal ε} {address : Address} {account : Account}

/-- The account is in the journal and marked as touched. -/
def touched (s : Journal ε) (address : Address) : Bool :=
  (s.inner.state address).elim false Account.isTouched

/-- Two journals with the same accounts, aside from warmth. -/
structure SameAccounts (s s' : Journal ε) : Prop where
  info_eq : s'.info = s.info
  storageAt_eq : s'.storageAt = s.storageAt
  touched_eq : s'.touched = s.touched

theorem SameAccounts.balance_eq (h : SameAccounts s s') : s'.balance = s.balance :=
  balance_of_info h.info_eq

theorem touched_setAccount (s : Journal ε) (address : Address) (account : Account) :
    (s.setAccount address account).touched =
      Function.update s.touched address account.isTouched := by
  funext other
  by_cases hother : other = address
  · subst hother
    rw [Function.update_self, touched, state_setAccount, Function.update_self]
    rfl
  · rw [Function.update_of_ne hother, touched, state_setAccount, Function.update_of_ne hother]
    rfl

/-- An account load changes no account, aside from warmth. -/
theorem sameAccounts_loadAccount {load : StateLoad Account}
    (h : (loadAccount address).run s = .ok load s') : SameAccounts s s' := by
  refine ⟨(loadAccount_ok h).2.2.1, storageAt_loadAccount h, ?_⟩
  have hset {account : Account} (heq : account.isTouched = s.touched address) :
      (s.setAccount address account).touched = s.touched := by
    rw [touched_setAccount, heq, Function.update_eq_self]
  cases loads_of_run h with
  | accessed => rfl
  | marked hstate =>
    refine hset ?_
    rw [touched, hstate]
    rfl
  | readCold hstate | readWarm hstate =>
    refine hset ?_
    rw [touched, hstate]
    rfl

/-- Touching a loaded account sets its mark and changes nothing else. -/
theorem touchAccount_accounts (h : s.inner.state address = some account) :
    (touchAccount address account s).info = s.info ∧
      (touchAccount address account s).storageAt = s.storageAt ∧
      (touchAccount address account s).touched = Function.update s.touched address true := by
  refine ⟨touchAccount_info h, ?_, ?_⟩
  · refine storageAt_eq ?_ (touchAccount_database s address account)
    unfold touchAccount
    split
    · rfl
    · exact journaled_setAccount fun key => by rw [h]; rfl
  · funext other
    rw [touched, touchAccount_state h]
    by_cases hother : other = address
    · subst hother
      rw [Function.update_self, Function.update_self]
      rfl
    · rw [Function.update_of_ne hother, Function.update_of_ne hother]
      rfl

/-- Touching sets the mark of a loaded account. -/
theorem run_touch (h : s.inner.state address = some account) :
    ∃ s', (touch address).run s = .ok () s' ∧ s'.info = s.info ∧ s'.storageAt = s.storageAt ∧
      s'.touched = Function.update s.touched address true := by
  refine ⟨touchAccount address account s, ?_, touchAccount_accounts h⟩
  change touch address s = _
  unfold touch modifyAccount
  rw [h]

/-- Bumping a nonce below the last one raises it by one and touches the account. -/
theorem run_bumpNonce (h : s.inner.state address = some account)
    (hnonce : account.info.nonce.toNat < 2 ^ 64 - 1) :
    ∃ s', (bumpNonce address).run s = .ok true s' ∧
      (∃ account', s'.inner.state address = some account') ∧
      s'.info = Function.update s.info address
        { account.info with nonce := account.info.nonce + 1 } ∧
      s'.storageAt = s.storageAt ∧ s'.touched = Function.update s.touched address true := by
  have hone : (1 : U64).toNat = 1 := rfl
  have hadd : checkedAdd account.info.nonce 1 = some (account.info.nonce + 1) :=
    if_pos (by omega)
  obtain ⟨hinfo, hstorage, htouched⟩ := touchAccount_accounts h
  have hstate := touchAccount_state h
  refine ⟨((touchAccount address account s).setAccount address
    { account.setNonce (account.info.nonce + 1) with isTouched := true }).push
      (.nonceChange address account.info.nonce), ?_, ⟨_, by simp; rfl⟩, ?_, ?_, ?_⟩
  · change bumpNonce address s = _
    unfold bumpNonce modifyAccount
    simp only [h, hadd]
  · rw [info_push, info_setAccount, hinfo]
    rfl
  · have hset : ((touchAccount address account s).setAccount address
        { account.setNonce (account.info.nonce + 1) with isTouched := true }).journaled =
          (touchAccount address account s).journaled :=
      journaled_setAccount fun key => by rw [hstate, Function.update_self]; rfl
    exact (storageAt_eq hset rfl).trans hstorage
  · have hset := touched_setAccount (touchAccount address account s) address
      { account.setNonce (account.info.nonce + 1) with isTouched := true }
    rw [htouched, Function.update_idem] at hset
    exact hset

end Journal

end ScrollRevm
