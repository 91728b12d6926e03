import ScrollRevm.History.Sload
import ScrollRevm.Lib.Agreement

/-!
# Journals that differ in access metadata

A rolled back load leaves the history account with a new transaction id, cold flag and
original information. Two journals that differ only there, where the account is cold in
both, are not told apart by any operation of the journal, and the next real load makes
them the same.
-/

namespace ScrollRevm

open FixedWidth StateResult

/-- Two cached accounts of an address that are the same or, for the history account, cold
and the same but for their access metadata. No access lies in the future. -/
structure Alike (transactionId : Nat) (address : Address) (account account' : Account) : Prop where
  info_eq : account.info = account'.info
  storage_eq : account.storage = account'.storage
  isTouched_eq : account.isTouched = account'.isTouched
  metadata : account = account' ∨ address = historyStorageAddress ∧
    account.isColdTransactionId transactionId = true ∧
    account'.isColdTransactionId transactionId = true
  le : account.transactionId ≤ transactionId
  le' : account'.transactionId ≤ transactionId

section Alike

variable {transactionId : Nat} {address : Address} {account account' : Account}

theorem Alike.refl (h : account.transactionId ≤ transactionId) :
    Alike transactionId address account account :=
  ⟨rfl, rfl, rfl, Or.inl rfl, h, h⟩

theorem Alike.isColdTransactionId_eq (h : Alike transactionId address account account') :
    account.isColdTransactionId transactionId = account'.isColdTransactionId transactionId := by
  rcases h.metadata with rfl | ⟨-, hcold, hcold'⟩
  · rfl
  · rw [hcold, hcold']

/-- A warm account is the same in both. -/
theorem Alike.eq_of_warm (h : Alike transactionId address account account')
    (hwarm : account.isColdTransactionId transactionId = false) : account = account' := by
  rcases h.metadata with heq | ⟨-, hcold, -⟩
  · exact heq
  · rw [hwarm] at hcold
    cases hcold

/-- A load makes the accounts the same. -/
theorem Alike.markWarm_eq (h : Alike transactionId address account account') :
    account.markWarmWithTransactionId transactionId =
      account'.markWarmWithTransactionId transactionId := by
  simp only [Account.markWarmWithTransactionId, h.info_eq, h.storage_eq, h.isTouched_eq]

/-- Accounts that keep their metadata stay alike under the same change. -/
theorem Alike.change (h : Alike transactionId address account account') {changed changed' : Account}
    (hinfo : changed.info = changed'.info) (hstorage : changed.storage = changed'.storage)
    (htouched : changed.isTouched = changed'.isTouched)
    (hmetadata : (changed.originalInfo, changed.transactionId, changed.isCold) =
      (account.originalInfo, account.transactionId, account.isCold))
    (hmetadata' : (changed'.originalInfo, changed'.transactionId, changed'.isCold) =
      (account'.originalInfo, account'.transactionId, account'.isCold)) :
    Alike transactionId address changed changed' := by
  simp only [Prod.mk.injEq] at hmetadata hmetadata'
  obtain ⟨horiginal, hid, hcold⟩ := hmetadata
  obtain ⟨horiginal', hid', hcold'⟩ := hmetadata'
  refine ⟨hinfo, hstorage, htouched, ?_, hid.trans_le h.le, hid'.trans_le h.le'⟩
  rcases h.metadata with rfl | ⟨haddress, hbefore, hbefore'⟩
  · left
    cases changed
    cases changed'
    simp_all
  · right
    refine ⟨haddress, ?_, ?_⟩
    · rw [Account.isColdTransactionId, hid, hcold]
      exact hbefore
    · rw [Account.isColdTransactionId, hid', hcold']
      exact hbefore'

/-- Alike accounts stay alike in later transactions. -/
theorem Alike.later (h : Alike transactionId address account account') :
    Alike (transactionId + 1) address account account' := by
  have hcold (account : Account) (hle : account.transactionId ≤ transactionId) :
      account.isColdTransactionId (transactionId + 1) = true := by
    have hne : account.transactionId ≠ transactionId + 1 := by omega
    simp [Account.isColdTransactionId, hne]
  refine ⟨h.info_eq, h.storage_eq, h.isTouched_eq, ?_, h.le.trans (Nat.le_succ _),
    h.le'.trans (Nat.le_succ _)⟩
  rcases h.metadata with rfl | ⟨haddress, -, -⟩
  · exact Or.inl rfl
  · exact Or.inr ⟨haddress, hcold _ h.le, hcold _ h.le'⟩

/-- Alike accounts stay alike under an undone entry. -/
theorem Alike.undoAccount (h : Alike transactionId address account account')
    (entry : JournalEntry) :
    Alike transactionId address (Journal.undoAccount entry address account)
      (Journal.undoAccount entry address account') := by
  have hbalance (balance : AccountInfo → U256) : Alike transactionId address
      (account.setBalance (balance account.info))
      (account'.setBalance (balance account'.info)) := by
    refine h.change ?_ h.storage_eq h.isTouched_eq rfl rfl
    rw [Account.setBalance, Account.setBalance, h.info_eq]
  have hnonce (nonce : U64) :
      Alike transactionId address (account.setNonce nonce) (account'.setNonce nonce) := by
    refine h.change ?_ h.storage_eq h.isTouched_eq rfl rfl
    rw [Account.setNonce, Account.setNonce, h.info_eq]
  have hslot (key : U256) (f : EvmStorageSlot → EvmStorageSlot) : Alike transactionId address
      (account.modifySlot key f) (account'.modifySlot key f) := by
    refine h.change h.info_eq ?_ h.isTouched_eq rfl rfl
    rw [Account.modifySlot, Account.modifySlot, h.storage_eq]
  cases entry with
  | accountWarmed warmed =>
    unfold Journal.undoAccount
    dsimp only
    split
    · refine ⟨h.info_eq, h.storage_eq, h.isTouched_eq, ?_, h.le, h.le'⟩
      rcases h.metadata with rfl | ⟨haddress, -, -⟩
      · exact Or.inl rfl
      · exact Or.inr ⟨haddress, Bool.or_true _, Bool.or_true _⟩
    · exact h
  | accountTouched touched =>
    unfold Journal.undoAccount
    dsimp only
    split
    · exact h.change h.info_eq h.storage_eq rfl rfl rfl
    · exact h
  | balanceChange changed oldBalance =>
    unfold Journal.undoAccount
    dsimp only
    split
    · exact hbalance fun _ => oldBalance
    · exact h
  | balanceTransfer source target balance =>
    unfold Journal.undoAccount
    dsimp only
    split
    · exact hbalance fun info => info.balance + balance
    · split
      · exact hbalance fun info => info.balance - balance
      · exact h
  | nonceChange changed previousNonce =>
    unfold Journal.undoAccount
    dsimp only
    split
    · exact hnonce previousNonce
    · exact h
  | accountCreated created =>
    unfold Journal.undoAccount
    dsimp only
    split
    · exact hnonce 0
    · exact h
  | storageChanged changed key hadValue =>
    unfold Journal.undoAccount
    dsimp only
    split
    · exact hslot key fun slot => { slot with presentValue := hadValue }
    · exact h
  | storageWarmed warmed key =>
    unfold Journal.undoAccount
    dsimp only
    split
    · exact hslot key fun slot => { slot with isCold := true }
    · exact h
  | transientStorageChange => exact h
  | codeChange changed =>
    unfold Journal.undoAccount
    dsimp only
    split
    · refine h.change ?_ h.storage_eq h.isTouched_eq rfl rfl
      rw [Account.setCode, Account.setCode, h.info_eq]
    · exact h

end Alike

/-- Two journals that are the same but for the access metadata of a cold history account. -/
structure Indistinct {ε : Type} (s t : Journal ε) : Prop where
  state_alike : ∀ address, Option.Rel (Alike s.inner.transactionId address)
    (s.inner.state address) (t.inner.state address)
  journal_eq : s.inner.journal = t.inner.journal
  depth_eq : s.inner.depth = t.inner.depth
  transactionId_eq : s.inner.transactionId = t.inner.transactionId
  warmAddresses_eq : s.inner.warmAddresses = t.inner.warmAddresses
  transientStorage_eq : s.inner.transientStorage = t.inner.transientStorage
  database_eq : s.database = t.database

/-- No cached account was accessed by a later transaction. -/
def Journal.AccessedInPast {ε : Type} (s : Journal ε) : Prop :=
  ∀ address account, s.inner.state address = some account →
    account.transactionId ≤ s.inner.transactionId

section Indistinct

variable {ε : Type} {s t : Journal ε} {address : Address} {account account' : Account}

theorem Indistinct.refl (h : s.AccessedInPast) : Indistinct s s := by
  refine ⟨fun address => ?_, rfl, rfl, rfl, rfl, rfl, rfl⟩
  cases hstate : s.inner.state address with
  | none => exact .none
  | some account => exact .some (.refl (h address account hstate))

/-- Both journals have an account or neither has. -/
theorem Indistinct.cached (h : Indistinct s t) (address : Address) :
    (s.inner.state address = none ∧ t.inner.state address = none) ∨
      ∃ account account', s.inner.state address = some account ∧
        t.inner.state address = some account' ∧
        Alike s.inner.transactionId address account account' := by
  have halike := h.state_alike address
  cases hs : s.inner.state address with
  | none =>
    cases ht : t.inner.state address with
    | none => exact Or.inl ⟨rfl, rfl⟩
    | some account' =>
      rw [hs, ht] at halike
      cases halike
  | some account =>
    cases ht : t.inner.state address with
    | none =>
      rw [hs, ht] at halike
      cases halike
    | some account' =>
      rw [hs, ht] at halike
      cases halike with
      | some halike => exact Or.inr ⟨account, account', rfl, rfl, halike⟩

theorem Indistinct.info_eq (h : Indistinct s t) : s.info = t.info := by
  funext address
  rcases h.cached address with ⟨hs, ht⟩ | ⟨account, account', hs, ht, halike⟩
  · rw [Journal.info, Journal.info, hs, ht, h.database_eq]
  · rw [Journal.info_of_state hs, Journal.info_of_state ht, halike.info_eq]

theorem Indistinct.isAccountCold_eq (h : Indistinct s t) (address : Address) :
    s.isAccountCold address = t.isAccountCold address := by
  rw [Journal.isAccountCold_eq, Journal.isAccountCold_eq, h.warmAddresses_eq,
    ← h.transactionId_eq]
  rcases h.cached address with ⟨hs, ht⟩ | ⟨account, account', hs, ht, halike⟩
  · rw [hs, ht]
  · rw [hs, ht, Journal.coldAccount, Journal.coldAccount, Option.elim_some, Option.elim_some,
      halike.isColdTransactionId_eq]

/-- The cached slots are the same. -/
theorem Indistinct.storage_eq (h : Indistinct s t) (address : Address) :
    (s.inner.state address).map Account.storage = (t.inner.state address).map Account.storage := by
  rcases h.cached address with ⟨hs, ht⟩ | ⟨account, account', hs, ht, halike⟩
  · rw [hs, ht]
  · rw [hs, ht, Option.map_some, Option.map_some, halike.storage_eq]

theorem Indistinct.isSlotCold_eq (h : Indistinct s t) (address : Address) (key : U256) :
    s.isSlotCold address key = t.isSlotCold address key := by
  rw [Journal.isSlotCold_eq, Journal.isSlotCold_eq, h.warmAddresses_eq, h.transactionId_eq,
    coldSlot_of_storage_eq (h.storage_eq address)]

theorem Indistinct.push (h : Indistinct s t) (entry : JournalEntry) :
    Indistinct (s.push entry) (t.push entry) :=
  ⟨h.state_alike, congrArg (· ++ [entry]) h.journal_eq, h.depth_eq, h.transactionId_eq,
    h.warmAddresses_eq, h.transientStorage_eq, h.database_eq⟩

theorem Indistinct.setAccount (h : Indistinct s t)
    (halike : Alike s.inner.transactionId address account account') :
    Indistinct (s.setAccount address account) (t.setAccount address account') := by
  refine ⟨fun other => ?_, h.journal_eq, h.depth_eq, h.transactionId_eq, h.warmAddresses_eq,
    h.transientStorage_eq, h.database_eq⟩
  rw [Journal.state_setAccount, Journal.state_setAccount]
  by_cases hother : other = address
  · subst hother
    rw [Function.update_self, Function.update_self]
    exact .some halike
  · rw [Function.update_of_ne hother, Function.update_of_ne hother]
    exact h.state_alike other

end Indistinct

/-! ## Operations on accounts -/

section Operations

variable {ε : Type} {s t : Journal ε} {address : Address} {account account' : Account}

/-- A load ends alike, and makes the accounts the same. -/
theorem loadAccount_agree (address : Address) :
    Agree Indistinct (Journal.loadAccount (ε := ε) address) (Journal.loadAccount address) := by
  intro s t h
  have hcold := h.isAccountCold_eq address
  change EndAlike _ (Journal.loadAccount address s) (Journal.loadAccount address t)
  unfold Journal.loadAccount
  rcases h.cached address with ⟨hs, ht⟩ | ⟨account, account', hs, ht, halike⟩
  · simp only [hs, ht, hcold, h.database_eq, h.transactionId_eq]
    cases t.database.basic address with
    | error e => exact .error e h
    | ok info =>
      have hloaded : Alike s.inner.transactionId address
          (Account.loaded (info.getD {}) t.inner.transactionId)
          (Account.loaded (info.getD {}) t.inner.transactionId) :=
        .refl h.transactionId_eq.ge
      have hset := h.setAccount hloaded
      dsimp only
      split
      · exact .ok _ (hset.push _)
      · exact .ok _ hset
  · simp only [hs, ht, hcold]
    rw [← h.transactionId_eq, ← halike.isColdTransactionId_eq, ← halike.markWarm_eq]
    cases hwarm : account.isColdTransactionId s.inner.transactionId with
    | true => exact .ok _ ((h.setAccount (.refl le_rfl)).push _)
    | false =>
      rw [if_neg Bool.false_ne_true, if_neg Bool.false_ne_true, halike.eq_of_warm hwarm]
      exact .ok _ h

theorem loadAccountInfoSkipColdLoad_agree (address : Address) (skipColdLoad : Bool) :
    Agree Indistinct (Journal.loadAccountInfoSkipColdLoad (ε := ε) address skipColdLoad)
      (Journal.loadAccountInfoSkipColdLoad address skipColdLoad) := by
  intro s t h
  have hload := (loadAccount_agree address).ends h
  change EndAlike _ (Journal.loadAccountInfoSkipColdLoad address skipColdLoad s)
    (Journal.loadAccountInfoSkipColdLoad address skipColdLoad t)
  unfold Journal.loadAccountInfoSkipColdLoad
  rw [h.isAccountCold_eq address]
  split
  · exact .error _ h
  · rcases hload with ⟨load, s', t', hs, ht, h'⟩ | ⟨e, s', t', hs, ht, h'⟩
    · change Journal.loadAccount address s = _ at hs
      change Journal.loadAccount address t = _ at ht
      rw [hs, ht]
      exact .ok _ h'
    · change Journal.loadAccount address s = _ at hs
      change Journal.loadAccount address t = _ at ht
      rw [hs, ht]
      exact .error _ h'

theorem loadAccountDelegated_agree (address : Address) :
    Agree Indistinct (Journal.loadAccountDelegated (ε := ε) address)
      (Journal.loadAccountDelegated address) := by
  refine (loadAccount_agree address).bind fun load => ?_
  cases load.data.info.code with
  | legacy bytes => exact .pure load
  | eip7702 target => exact (loadAccount_agree target).bind fun _ => .pure load

theorem Indistinct.touchAccount (h : Indistinct s t)
    (halike : Alike s.inner.transactionId address account account') :
    Indistinct (Journal.touchAccount address account s)
      (Journal.touchAccount address account' t) := by
  unfold Journal.touchAccount
  rw [halike.isTouched_eq]
  split
  · exact h
  · have htouched : Alike s.inner.transactionId address { account with isTouched := true }
        { account' with isTouched := true } :=
      halike.change halike.info_eq halike.storage_eq rfl rfl rfl
    exact (h.setAccount htouched).push _

@[simp] theorem transactionId_touchAccount (address : Address) (account : Account)
    (s : Journal ε) :
    (Journal.touchAccount address account s).inner.transactionId = s.inner.transactionId := by
  unfold Journal.touchAccount
  split <;> rfl

/-- A transfer between two accounts ends alike. -/
theorem transferLoaded_agree (source target : Address) (balance : U256) :
    Agree Indistinct (Journal.transferLoaded (ε := ε) source target balance)
      (Journal.transferLoaded source target balance) := by
  intro s t h
  change EndAlike _ (Journal.transferLoaded source target balance s)
    (Journal.transferLoaded source target balance t)
  unfold Journal.transferLoaded
  have hbalance : s.balance target = t.balance target := congrArg (·.balance)
    (congrFun h.info_eq target)
  rw [hbalance]
  split
  · split
    · exact .ok _ h
    · exact .ok _ h
  split
  · rcases h.cached target with ⟨hs, ht⟩ | ⟨account, account', hs, ht, halike⟩
    · rw [hs, ht]
      exact .ok _ h
    · rw [hs, ht]
      exact .ok _ (h.touchAccount halike)
  · rcases h.cached source with ⟨hs, ht⟩ | ⟨debited, debited', hs, ht, hdebited⟩
    · rw [hs, ht]
      exact .ok _ h
    rcases h.cached target with ⟨hs', ht'⟩ | ⟨credited, credited', hs', ht', hcredited⟩
    · rw [hs, ht, hs', ht']
      exact .ok _ h
    rw [hs, ht, hs', ht']
    dsimp only
    rw [← hdebited.info_eq, ← hcredited.info_eq]
    have htouched := h.touchAccount hdebited
    cases checkedSub debited.info.balance balance with
    | none => exact .ok _ htouched
    | some rest =>
      have hrest : Alike s.inner.transactionId source
          { debited.setBalance rest with isTouched := true }
          { debited'.setBalance rest with isTouched := true } := by
        refine hdebited.change ?_ hdebited.storage_eq rfl rfl rfl
        rw [Account.setBalance, Account.setBalance, hdebited.info_eq]
      rw [← transactionId_touchAccount source debited s] at hrest hcredited
      have hreceived := (htouched.setAccount hrest).touchAccount hcredited
      dsimp only
      cases checkedAdd credited.info.balance balance with
      | none => exact .ok _ hreceived
      | some sum =>
        have hsum : Alike (Journal.touchAccount source debited s).inner.transactionId target
            { credited.setBalance sum with isTouched := true }
            { credited'.setBalance sum with isTouched := true } := by
          refine hcredited.change ?_ hcredited.storage_eq rfl rfl rfl
          rw [Account.setBalance, Account.setBalance, hcredited.info_eq]
        refine .ok _ ((hreceived.setAccount ?_).push _)
        rw [transactionId_touchAccount]
        exact hsum

theorem transfer_agree (source target : Address) (balance : U256) :
    Agree Indistinct (Journal.transfer (ε := ε) source target balance)
      (Journal.transfer source target balance) :=
  (loadAccount_agree source).bind fun _ => (loadAccount_agree target).bind fun _ =>
    transferLoaded_agree source target balance

/-! ## Operations on storage -/

theorem sloadAccount_agree (h : Indistinct s t)
    (halike : Alike s.inner.transactionId address account account') (key : U256) :
    EndAlike Indistinct (Journal.sloadAccount address account key s)
      (Journal.sloadAccount address account' key t) := by
  have haccessed : s.accessedSlot address account key = t.accessedSlot address account' key := by
    rw [Journal.accessedSlot, Journal.accessedSlot, halike.storage_eq, h.transactionId_eq,
      h.database_eq]
  rw [Journal.sloadAccount_eq, Journal.sloadAccount_eq, haccessed, h.isSlotCold_eq]
  cases t.accessedSlot address account' key with
  | error e => exact .error e h
  | ok slot =>
    have hset : Indistinct (s.setAccount address (account.setSlot key slot))
        (t.setAccount address (account'.setSlot key slot)) := by
      refine h.setAccount (halike.change halike.info_eq ?_ halike.isTouched_eq rfl rfl)
      rw [Account.setSlot, Account.setSlot, halike.storage_eq]
    refine .ok _ ?_
    unfold Journal.accessSlot
    dsimp only
    rw [h.isSlotCold_eq]
    split
    · exact hset.push _
    · exact hset

theorem sloadSkipColdLoad_agree (address : Address) (key : U256) (skipColdLoad : Bool) :
    Agree Indistinct (Journal.sloadSkipColdLoad (ε := ε) address key skipColdLoad)
      (Journal.sloadSkipColdLoad address key skipColdLoad) := by
  intro s t h
  change EndAlike _ (Journal.sloadSkipColdLoad address key skipColdLoad s)
    (Journal.sloadSkipColdLoad address key skipColdLoad t)
  unfold Journal.sloadSkipColdLoad
  rcases h.cached address with ⟨hs, ht⟩ | ⟨account, account', hs, ht, halike⟩
  · rw [hs, ht]
    exact .error _ h
  · rw [hs, ht]
    dsimp only
    rw [h.isSlotCold_eq address key]
    split
    · exact .error _ h
    · have hread := sloadAccount_agree h halike key
      revert hread
      cases Journal.sloadAccount address account key s with
      | ok value s' =>
        cases Journal.sloadAccount address account' key t with
        | ok value' t' =>
          intro hread
          cases hread with
          | ok _ h' => exact .ok value h'
        | error e t' => exact fun hread => nomatch hread
      | error e s' =>
        cases Journal.sloadAccount address account' key t with
        | ok value t' => exact fun hread => nomatch hread
        | error e' t' =>
          intro hread
          cases hread with
          | error _ h' => exact .error (LoadError.dbError e) h'

theorem sstore_agree (address : Address) (key value : U256) (skipColdLoad : Bool) :
    Agree Indistinct (Journal.sstore (ε := ε) address key value skipColdLoad)
      (Journal.sstore address key value skipColdLoad) := by
  refine (Agree.modify fun s t h => ?_).bind fun _ =>
    (sloadSkipColdLoad_agree address key skipColdLoad).bind fun present =>
      (Agree.modify fun s t h => ?_).bind fun _ => .pure present
  · rcases h.cached address with ⟨hs, ht⟩ | ⟨account, account', hs, ht, halike⟩
    · rw [hs, ht]
      exact h
    · rw [hs, ht]
      exact h.touchAccount halike
  · rcases h.cached address with ⟨hs, ht⟩ | ⟨account, account', hs, ht, halike⟩
    · rw [hs, ht]
      exact h
    · rw [hs, ht]
      dsimp only
      rw [← halike.storage_eq]
      cases account.storage key with
      | none => exact h
      | some slot =>
        dsimp only
        split
        · exact h
        · have hwritten : Alike s.inner.transactionId address
              (account.setSlot key { slot with presentValue := value })
              (account'.setSlot key { slot with presentValue := value }) := by
            refine halike.change halike.info_eq ?_ halike.isTouched_eq rfl rfl
            rw [Account.setSlot, Account.setSlot, halike.storage_eq]
          exact (h.setAccount hwritten).push _

/-! ## Checkpoints and transactions -/

theorem checkpoint_agree :
    Agree Indistinct (Journal.checkpoint (ε := ε)) Journal.checkpoint := by
  intro s t h
  have hdeeper : Indistinct s.deeper t.deeper :=
    ⟨h.state_alike, h.journal_eq, congrArg (· + 1) h.depth_eq, h.transactionId_eq,
      h.warmAddresses_eq, h.transientStorage_eq, h.database_eq⟩
  rw [Journal.run_checkpoint, Journal.run_checkpoint, h.journal_eq]
  exact .ok _ hdeeper

theorem checkpointCommit_agree :
    Agree Indistinct (Journal.checkpointCommit (ε := ε)) Journal.checkpointCommit :=
  fun _ _ h => .ok () ⟨h.state_alike, h.journal_eq, congrArg (· - 1) h.depth_eq,
    h.transactionId_eq, h.warmAddresses_eq, h.transientStorage_eq, h.database_eq⟩

/-- Alike accounts stay alike under undone entries. -/
theorem alike_undoAll (entries : List JournalEntry) {transactionId : Nat}
    {state state' : Address → Option Account}
    (h : ∀ address, Option.Rel (Alike transactionId address) (state address) (state' address))
    (address : Address) :
    Option.Rel (Alike transactionId address) (Journal.undoAll entries state address)
      (Journal.undoAll entries state' address) := by
  induction entries generalizing address with
  | nil => exact h address
  | cons entry rest ih =>
    change Option.Rel _ (Journal.undo entry (Journal.undoAll rest state) address)
      (Journal.undo entry (Journal.undoAll rest state') address)
    have hrest := ih address
    unfold Journal.undo
    revert hrest
    generalize Journal.undoAll rest state address = account
    generalize Journal.undoAll rest state' address = account'
    rintro (⟨halike⟩ | _)
    · exact .some (halike.undoAccount entry)
    · exact .none

theorem Indistinct.revertTo (h : Indistinct s t) (n : Nat) :
    Indistinct (s.revertTo n) (t.revertTo n) := by
  refine ⟨fun address => ?_, ?_, congrArg (· - 1) h.depth_eq, h.transactionId_eq,
    h.warmAddresses_eq, ?_, h.database_eq⟩
  · unfold Journal.revertTo
    rw [h.journal_eq]
    exact alike_undoAll _ h.state_alike address
  · exact congrArg (List.take n) h.journal_eq
  · unfold Journal.revertTo
    rw [h.journal_eq, h.transientStorage_eq]

theorem checkpointRevert_agree (checkpoint : JournalCheckpoint) :
    Agree Indistinct (Journal.checkpointRevert (ε := ε) checkpoint)
      (Journal.checkpointRevert checkpoint) :=
  fun _ _ h => .ok () (h.revertTo checkpoint.journalI)

theorem warmAccessList_agree (accessList : List (Address × List U256)) :
    Agree Indistinct (Journal.warmAccessList (ε := ε) accessList)
      (Journal.warmAccessList accessList) :=
  .modify fun _ _ h => ⟨h.state_alike, h.journal_eq, h.depth_eq, h.transactionId_eq,
    congrArg (fun warm => { warm with accessList := accessList }) h.warmAddresses_eq,
    h.transientStorage_eq, h.database_eq⟩

theorem warmCoinbaseAccount_agree (address : Address) :
    Agree Indistinct (Journal.warmCoinbaseAccount (ε := ε) address)
      (Journal.warmCoinbaseAccount address) :=
  .modify fun _ _ h => ⟨h.state_alike, h.journal_eq, h.depth_eq, h.transactionId_eq,
    congrArg (fun warm => { warm with coinbase := some address }) h.warmAddresses_eq,
    h.transientStorage_eq, h.database_eq⟩

theorem alike_later {transactionId : Nat} {state state' : Address → Option Account}
    (h : ∀ address, Option.Rel (Alike transactionId address) (state address) (state' address))
    (address : Address) :
    Option.Rel (Alike (transactionId + 1) address) (state address) (state' address) := by
  have halike := h address
  revert halike
  generalize state address = account
  generalize state' address = account'
  rintro (⟨halike⟩ | _)
  · exact .some halike.later
  · exact .none

theorem commitTx_agree :
    Agree Indistinct (Journal.commitTx (ε := ε)) Journal.commitTx :=
  .modify fun _ _ h => ⟨alike_later h.state_alike, rfl, rfl, congrArg (· + 1) h.transactionId_eq,
    congrArg Journal.clearCoinbaseAndAccessList h.warmAddresses_eq, rfl, h.database_eq⟩

theorem discardTx_agree :
    Agree Indistinct (Journal.discardTx (ε := ε)) Journal.discardTx := by
  refine .modify fun s t h => ⟨alike_later fun address => ?_, rfl, rfl,
    congrArg (· + 1) h.transactionId_eq,
    congrArg Journal.clearCoinbaseAndAccessList h.warmAddresses_eq, rfl, h.database_eq⟩
  rw [h.journal_eq]
  exact alike_undoAll _ h.state_alike address

/-- After a load of the history account the journals are the same. -/
theorem Indistinct.loadAccount_eq (h : Indistinct s t) {load : StateLoad Account} {s' : Journal ε}
    (hload : (Journal.loadAccount historyStorageAddress).run s = .ok load s') :
    (Journal.loadAccount historyStorageAddress).run t = .ok load s' := by
  rcases (loadAccount_agree historyStorageAddress).ends h with
    ⟨load', s₁, t', hs, ht, h'⟩ | ⟨e, s₁, t', hs, -, -⟩
  · rw [hload] at hs
    cases hs
    have hstate : s'.inner.state = t'.inner.state := by
      funext address
      by_cases haddress : address = historyStorageAddress
      · subst haddress
        rw [(Journal.loadAccount_ok hload).1, (Journal.loadAccount_ok ht).1]
      · rcases h'.cached address with ⟨hs, ht⟩ | ⟨account, account', hs, ht, halike⟩
        · rw [hs, ht]
        · rw [hs, ht]
          exact congrArg some (halike.metadata.resolve_right fun hmeta => haddress hmeta.1)
    have hsame : t' = s' := by
      obtain ⟨⟨state, journal, depth, transactionId, warm, transient⟩, database⟩ := s'
      obtain ⟨⟨state', journal', depth', transactionId', warm', transient'⟩, database'⟩ := t'
      obtain ⟨-, hjournal, hdepth, hid, hwarm, htransient, hdatabase⟩ := h'
      simp_all
    rw [ht, hsame]
  · rw [hload] at hs
    cases hs

/-- No access lies in the future of an indistinct journal. -/
theorem Indistinct.accessedInPast (h : Indistinct s t) : s.AccessedInPast := by
  intro address account hstate
  rcases h.cached address with ⟨hs, -⟩ | ⟨account₁, account', hs, -, halike⟩
  · rw [hstate] at hs
    cases hs
  · rw [hstate] at hs
    cases hs
    exact halike.le

end Operations

end ScrollRevm
