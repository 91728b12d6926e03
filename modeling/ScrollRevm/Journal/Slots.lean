import ScrollRevm.Journal.Views

/-!
# What storage operations do

A read of a slot writes the accessed slot back and records the access if it was cold; it
shows no change of any value. The operations on storage are stated through this one
effect.
-/

namespace ScrollRevm

open FixedWidth StateResult

namespace Journal

variable {ε : Type} {s s' : Journal ε} {address : Address} {account : Account} {key : U256}

/-- The slot as a read of the running transaction leaves it. -/
def accessedSlot (s : Journal ε) (address : Address) (account : Account) (key : U256) :
    Except ε EvmStorageSlot :=
  match account.storage key with
  | some slot => .ok (slot.markWarmWithTransactionId s.inner.transactionId)
  | none => (s.database.storage address key).map fun value => .new value s.inner.transactionId

/-- The journal with an accessed slot. -/
def accessSlot (s : Journal ε) (address : Address) (account : Account) (key : U256)
    (slot : EvmStorageSlot) : Journal ε :=
  let written := s.setAccount address (account.setSlot key slot)
  if s.isSlotCold address key then written.push (.storageWarmed address key) else written

@[simp] theorem presentValue_markWarm (slot : EvmStorageSlot) (transactionId : Nat) :
    (slot.markWarmWithTransactionId transactionId).presentValue = slot.presentValue := by
  unfold EvmStorageSlot.markWarmWithTransactionId
  split <;> rfl

/-- A read accesses the slot, or fails by the database. -/
theorem sloadAccount_eq (s : Journal ε) (address : Address) (account : Account) (key : U256) :
    sloadAccount address account key s =
      match s.accessedSlot address account key with
      | .error e => .error e s
      | .ok slot =>
        .ok ⟨slot.presentValue, s.isSlotCold address key⟩
          (s.accessSlot address account key slot) := by
  unfold sloadAccount accessedSlot accessSlot
  cases account.storage key with
  | some slot =>
    dsimp only
    rw [presentValue_markWarm]
  | none =>
    cases s.database.storage address key <;> rfl

@[simp] theorem state_accessSlot (s : Journal ε) (address : Address) (account : Account)
    (key : U256) (slot : EvmStorageSlot) :
    (s.accessSlot address account key slot).inner.state =
      Function.update s.inner.state address (some (account.setSlot key slot)) := by
  unfold accessSlot
  dsimp only
  split <;> rfl

@[simp] theorem database_accessSlot (s : Journal ε) (address : Address) (account : Account)
    (key : U256) (slot : EvmStorageSlot) :
    (s.accessSlot address account key slot).database = s.database := by
  unfold accessSlot
  dsimp only
  split <;> rfl

@[simp] theorem transactionId_accessSlot (s : Journal ε) (address : Address)
    (account : Account) (key : U256) (slot : EvmStorageSlot) :
    (s.accessSlot address account key slot).inner.transactionId = s.inner.transactionId := by
  unfold accessSlot
  dsimp only
  split <;> rfl

@[simp] theorem warmAddresses_accessSlot (s : Journal ε) (address : Address)
    (account : Account) (key : U256) (slot : EvmStorageSlot) :
    (s.accessSlot address account key slot).inner.warmAddresses = s.inner.warmAddresses := by
  unfold accessSlot
  dsimp only
  split <;> rfl

/-- A read records the access of a cold slot, and nothing else. -/
@[simp] theorem journal_accessSlot (s : Journal ε) (address : Address) (account : Account)
    (key : U256) (slot : EvmStorageSlot) :
    (s.accessSlot address account key slot).inner.journal =
      s.inner.journal ++
        if s.isSlotCold address key then [.storageWarmed address key] else [] := by
  unfold accessSlot
  dsimp only
  split
  · rfl
  · exact (List.append_nil _).symm

/-! ## What a load of a slot finds -/

/-- Replacing an account by one with its slots changes no slot. -/
theorem journaled_setAccount
    (h : ∀ key, account.storage key =
      (s.inner.state address).bind fun account => account.storage key) :
    (s.setAccount address account).journaled = s.journaled := by
  have hbind (key : U256) : (s.inner.state address).bind
      (fun account => (account.storage key).map EvmStorageSlot.presentValue) =
        ((s.inner.state address).bind fun account => account.storage key).map
          EvmStorageSlot.presentValue := by
    cases s.inner.state address <;> rfl
  funext other key
  by_cases hother : other = address
  · subst hother
    rw [journaled, journaled, hbind, state_setAccount, Function.update_self, ← h]
    rfl
  · rw [journaled, journaled, state_setAccount, Function.update_of_ne hother]

theorem storageAt_eq (hjournaled : s'.journaled = s.journaled)
    (hdatabase : s'.database = s.database) : s'.storageAt = s.storageAt := by
  funext other key
  rw [storageAt, storageAt, hjournaled, hdatabase]

/-- An account load changes no slot. -/
theorem storageAt_loadAccount {load : StateLoad Account}
    (h : (loadAccount address).run s = .ok load s') : s'.storageAt = s.storageAt := by
  have hdatabase := (loadAccount_ok h).2.2.2
  refine storageAt_eq ?_ hdatabase
  have hnone (info : AccountInfo) (hstate : s.inner.state address = none) (key : U256) :
      (Account.loaded info s.inner.transactionId).storage key =
        (s.inner.state address).bind fun account => account.storage key := by
    rw [hstate]
    rfl
  cases loads_of_run h with
  | accessed => rfl
  | marked hstate => exact journaled_setAccount fun key => by rw [hstate]; rfl
  | readCold hstate | readWarm hstate => exact journaled_setAccount (hnone _ hstate)

/-- An accessed slot has the value that a load finds. -/
theorem presentValue_accessedSlot {slot : EvmStorageSlot}
    (hstate : s.inner.state address = some account)
    (h : s.accessedSlot address account key = .ok slot) :
    slot.presentValue = s.storageAt address key := by
  rw [storageAt, journaled, hstate, Option.bind_some]
  unfold accessedSlot at h
  cases hslot : account.storage key with
  | some cached =>
    rw [hslot] at h
    cases h
    exact presentValue_markWarm _ _
  | none =>
    rw [hslot] at h
    cases hvalue : s.database.storage address key with
    | error e =>
      rw [hvalue] at h
      cases h
    | ok value =>
      rw [hvalue] at h
      cases h
      change value = s.database.slot address key
      rw [Database.slot, hvalue]

/-- Where the database answers, a slot of a cached account can be accessed. -/
theorem exists_accessedSlot (s : Journal ε) (account : Account) {value : U256}
    (h : s.database.storage address key = .ok value) :
    ∃ slot, s.accessedSlot address account key = .ok slot := by
  unfold accessedSlot
  cases account.storage key with
  | some slot => exact ⟨_, rfl⟩
  | none => exact ⟨_, by rw [h]; rfl⟩

/-- A read changes no slot. -/
theorem storageAt_accessSlot {slot : EvmStorageSlot}
    (hstate : s.inner.state address = some account)
    (h : s.accessedSlot address account key = .ok slot) :
    (s.accessSlot address account key slot).storageAt = s.storageAt := by
  have hpresent := presentValue_accessedSlot hstate h
  funext other otherKey
  by_cases hother : other = address
  · subst hother
    by_cases hkey : otherKey = key
    · subst hkey
      rw [← hpresent, storageAt, journaled, state_accessSlot, Function.update_self]
      simp [Account.setSlot]
    · rw [storageAt, storageAt, journaled, journaled, state_accessSlot, Function.update_self,
        hstate, database_accessSlot]
      simp [Account.setSlot, Function.update_of_ne hkey]
  · rw [storageAt, storageAt, journaled, journaled, state_accessSlot,
      Function.update_of_ne hother, database_accessSlot]

end Journal

end ScrollRevm
