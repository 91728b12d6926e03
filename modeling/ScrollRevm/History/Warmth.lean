import ScrollRevm.Instructions
import ScrollRevm.Journal.Views

/-!
# Warmth across reverts

An account or slot that a revert reaches is cold afterwards exactly if it was cold
before or the undone entries hold its warming. So the warmth after any revert is known
from the present warmth and the entries alone.
-/

namespace ScrollRevm

open FixedWidth StateResult

namespace Journal

variable {ε : Type} {s : Journal ε}

/-- An account is cold by its last access; an absent one is. -/
def coldAccount (transactionId : Nat) (account : Option Account) : Bool :=
  account.elim true fun account => account.isColdTransactionId transactionId

/-- A slot is cold by its last access; an absent one is. -/
def coldSlot (transactionId : Nat) (account : Option Account) (key : U256) : Bool :=
  (account.bind fun account => account.storage key).elim true fun slot =>
    slot.isColdTransactionId transactionId

theorem isAccountCold_eq (s : Journal ε) (address : Address) :
    s.isAccountCold address =
      (coldAccount s.inner.transactionId (s.inner.state address) &&
        !s.inner.warmAddresses.isWarm address) := by
  unfold isAccountCold coldAccount
  cases s.inner.state address with
  | none => simp
  | some account => rfl

theorem isSlotCold_eq (s : Journal ε) (address : Address) (key : U256) :
    s.isSlotCold address key =
      (coldSlot s.inner.transactionId (s.inner.state address) key &&
        !s.inner.warmAddresses.isStorageWarm address key) := by
  unfold isSlotCold coldSlot
  cases (s.inner.state address).bind fun account => account.storage key with
  | none => simp
  | some slot => rfl

/-! ## Undone entries -/

@[simp] theorem undoAll_nil (state : Address → Option Account) : undoAll [] state = state := rfl

/-- Undoing an entry makes an account cold exactly if the entry warmed it. -/
theorem isColdTransactionId_undoAccount (entry : JournalEntry) (address : Address)
    (account : Account) (transactionId : Nat) :
    (undoAccount entry address account).isColdTransactionId transactionId =
      (decide (entry = .accountWarmed address) || account.isColdTransactionId transactionId) := by
  cases entry with
  | accountWarmed warmed =>
    by_cases h : warmed = address
    · simp [undoAccount, h, Account.isColdTransactionId]
    · simp [undoAccount, h]
  | balanceTransfer source target balance =>
    simp only [undoAccount, reduceCtorEq, decide_false, Bool.false_or]
    split
    · rfl
    · split <;> rfl
  | accountTouched touched | balanceChange touched _ | nonceChange touched _
  | accountCreated touched | storageChanged touched _ _ | storageWarmed touched _
  | codeChange touched =>
    simp only [undoAccount, reduceCtorEq, decide_false, Bool.false_or]
    split <;> rfl
  | transientStorageChange => simp only [undoAccount, reduceCtorEq, decide_false, Bool.false_or]

/-- The coldness of an account after an undone entry. -/
theorem coldAccount_undo (entry : JournalEntry) (state : Address → Option Account)
    (address : Address) (transactionId : Nat) :
    coldAccount transactionId (undo entry state address) =
      (decide (entry = .accountWarmed address) ||
        coldAccount transactionId (state address)) := by
  rw [undo, coldAccount, coldAccount]
  cases state address with
  | none => simp
  | some account => exact isColdTransactionId_undoAccount entry address account transactionId

/-- The coldness of an account after undone entries. -/
theorem coldAccount_undoAll (entries : List JournalEntry) (state : Address → Option Account)
    (address : Address) (transactionId : Nat) :
    coldAccount transactionId (undoAll entries state address) =
      (decide (.accountWarmed address ∈ entries) ||
        coldAccount transactionId (state address)) := by
  induction entries with
  | nil => simp
  | cons entry rest ih =>
    change coldAccount transactionId (undo entry (undoAll rest state) address) = _
    rw [coldAccount_undo, ih, ← Bool.or_assoc, ← Bool.decide_or]
    simp only [List.mem_cons, eq_comm]

/-- Undoing an entry makes a slot cold exactly if the entry warmed it. -/
theorem coldSlot_undoAccount (entry : JournalEntry) (address : Address) (account : Account)
    (key : U256) (transactionId : Nat) :
    coldSlot transactionId (some (undoAccount entry address account)) key =
      (decide (entry = .storageWarmed address key) ||
        coldSlot transactionId (some account) key) := by
  cases entry with
  | storageWarmed warmed other =>
    by_cases h : warmed = address
    · subst h
      by_cases hkey : other = key
      · subst hkey
        cases hslot : account.storage other <;>
          simp [undoAccount, coldSlot, Account.modifySlot, hslot,
            EvmStorageSlot.isColdTransactionId]
      · simp [undoAccount, coldSlot, Account.modifySlot, Function.update_of_ne (Ne.symm hkey),
          hkey]
    · simp [undoAccount, h]
  | storageChanged changed other hadValue =>
    simp only [undoAccount, reduceCtorEq, decide_false, Bool.false_or]
    split
    · by_cases hkey : key = other
      · subst hkey
        cases hslot : account.storage key <;>
          simp [coldSlot, Account.modifySlot, hslot, EvmStorageSlot.isColdTransactionId]
      · simp [coldSlot, Account.modifySlot, Function.update_of_ne hkey]
    · rfl
  | balanceTransfer source target balance =>
    simp only [undoAccount, reduceCtorEq, decide_false, Bool.false_or]
    split
    · rfl
    · split <;> rfl
  | accountWarmed touched | accountTouched touched | balanceChange touched _
  | nonceChange touched _ | accountCreated touched | codeChange touched =>
    simp only [undoAccount, reduceCtorEq, decide_false, Bool.false_or]
    split <;> rfl
  | transientStorageChange => simp only [undoAccount, reduceCtorEq, decide_false, Bool.false_or]

/-- The coldness of a slot after an undone entry. -/
theorem coldSlot_undo (entry : JournalEntry) (state : Address → Option Account)
    (address : Address) (key : U256) (transactionId : Nat) :
    coldSlot transactionId (undo entry state address) key =
      (decide (entry = .storageWarmed address key) ||
        coldSlot transactionId (state address) key) := by
  rw [undo]
  cases state address with
  | none => simp [coldSlot]
  | some account => exact coldSlot_undoAccount entry address account key transactionId

/-- The coldness of a slot after undone entries. -/
theorem coldSlot_undoAll (entries : List JournalEntry) (state : Address → Option Account)
    (address : Address) (key : U256) (transactionId : Nat) :
    coldSlot transactionId (undoAll entries state address) key =
      (decide (.storageWarmed address key ∈ entries) ||
        coldSlot transactionId (state address) key) := by
  induction entries with
  | nil => simp
  | cons entry rest ih =>
    change coldSlot transactionId (undo entry (undoAll rest state) address) key = _
    rw [coldSlot_undo, ih, ← Bool.or_assoc, ← Bool.decide_or]
    simp only [List.mem_cons, eq_comm]

/-! ## Warmth after a revert -/

/-- After a revert, an account is cold if it was cold or its warming was undone. -/
theorem isAccountCold_revertTo (s : Journal ε) (n : Nat) (address : Address) :
    (s.revertTo n).isAccountCold address =
      (s.isAccountCold address ||
        (decide (.accountWarmed address ∈ s.inner.journal.drop n) &&
          !s.inner.warmAddresses.isWarm address)) := by
  rw [isAccountCold_eq, isAccountCold_eq, revertTo]
  dsimp only
  rw [coldAccount_undoAll, ← Bool.and_or_distrib_right, Bool.or_comm]

/-- After a revert, a slot is cold if it was cold or its warming was undone. -/
theorem isSlotCold_revertTo (s : Journal ε) (n : Nat) (address : Address) (key : U256) :
    (s.revertTo n).isSlotCold address key =
      (s.isSlotCold address key ||
        (decide (.storageWarmed address key ∈ s.inner.journal.drop n) &&
          !s.inner.warmAddresses.isStorageWarm address key)) := by
  rw [isSlotCold_eq, isSlotCold_eq, revertTo]
  dsimp only
  rw [coldSlot_undoAll, ← Bool.and_or_distrib_right, Bool.or_comm]

end Journal

end ScrollRevm
