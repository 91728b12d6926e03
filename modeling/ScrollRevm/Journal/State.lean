import ScrollRevm.Lib.FixedWidth
import ScrollRevm.Spec

/-!
# The journaled state

The records the crate reads and writes through revm's journal: accounts with their
storage slots, the entries that undo a change, the addresses and slots that are warm
for the whole transaction, and the database behind the journal. A database answers
the same question the same way until a state is committed to it, or fails to.
-/

namespace ScrollRevm

open FixedWidth

/-- The code of an account: legacy bytes, or an EIP-7702 delegation. -/
inductive Bytecode where
  | legacy (bytes : Bytes)
  | eip7702 (address : Address)
  deriving DecidableEq, Repr

namespace Bytecode

def isEmpty : Bytecode → Bool
  | legacy bytes => bytes.isEmpty
  | eip7702 _ => false

def isEip7702 : Bytecode → Bool
  | legacy _ => false
  | eip7702 _ => true

end Bytecode

/-- Account information. The code is the one its hash stands for. -/
structure AccountInfo where
  balance : U256 := 0
  nonce : U64 := 0
  code : Bytecode := .legacy []
  deriving DecidableEq, Repr

/-- The information of an account whose balance was credited; a sum that overflows
leaves the balance. -/
def AccountInfo.credit (info : AccountInfo) (amount : U256) : AccountInfo :=
  { info with balance := (checkedAdd info.balance amount).getD info.balance }

/-- The information of an account whose nonce was bumped; the last nonce stays. -/
def AccountInfo.bump (info : AccountInfo) : AccountInfo :=
  { info with nonce := (checkedAdd info.nonce 1).getD info.nonce }

/-- A storage slot of a journaled account. -/
structure EvmStorageSlot where
  originalValue : U256
  presentValue : U256
  transactionId : Nat
  isCold : Bool
  deriving DecidableEq, Repr

namespace EvmStorageSlot

variable (self : EvmStorageSlot)

/-- A slot just read by a transaction. -/
def new (value : U256) (transactionId : Nat) : EvmStorageSlot where
  originalValue := value
  presentValue := value
  transactionId := transactionId
  isCold := false

/-- The slot was not accessed by the given transaction, or its access was reverted. -/
def isColdTransactionId (transactionId : Nat) : Bool :=
  self.transactionId != transactionId || self.isCold

/-- Marks the slot as accessed. The first access of a transaction sets the original
value. -/
def markWarmWithTransactionId (transactionId : Nat) : EvmStorageSlot :=
  if self.isColdTransactionId transactionId then
    { self with
      originalValue := self.presentValue
      transactionId := transactionId
      isCold := false }
  else self

end EvmStorageSlot

/-- A journaled account. -/
structure Account where
  info : AccountInfo
  originalInfo : AccountInfo
  transactionId : Nat
  storage : U256 → Option EvmStorageSlot
  isCold : Bool
  isTouched : Bool

namespace Account

variable (self : Account)

/-- An account just read by a transaction. -/
def loaded (info : AccountInfo) (transactionId : Nat) : Account where
  info := info
  originalInfo := info
  transactionId := transactionId
  storage := fun _ => none
  isCold := false
  isTouched := false

/-- The account was not accessed by the given transaction, or its access was
reverted. -/
def isColdTransactionId (transactionId : Nat) : Bool :=
  self.transactionId != transactionId || self.isCold

/-- Marks the account as first accessed by the given transaction. -/
def markWarmWithTransactionId (transactionId : Nat) : Account :=
  { self with transactionId := transactionId, isCold := false, originalInfo := self.info }

def setSlot (key : U256) (slot : EvmStorageSlot) : Account :=
  { self with storage := Function.update self.storage key (some slot) }

def modifySlot (key : U256) (f : EvmStorageSlot → EvmStorageSlot) : Account :=
  { self with storage := Function.update self.storage key ((self.storage key).map f) }

def setBalance (balance : U256) : Account :=
  { self with info := { self.info with balance := balance } }

def setNonce (nonce : U64) : Account :=
  { self with info := { self.info with nonce := nonce } }

def setCode (code : Bytecode) : Account :=
  { self with info := { self.info with code := code } }

end Account

/-- A journal entry: what undoes one change. `SELFDESTRUCT` is disabled and logs nothing. -/
inductive JournalEntry where
  | accountWarmed (address : Address)
  | accountTouched (address : Address)
  | balanceChange (address : Address) (oldBalance : U256)
  | balanceTransfer (source target : Address) (balance : U256)
  | nonceChange (address : Address) (previousNonce : U64)
  | accountCreated (address : Address)
  | storageChanged (address : Address) (key hadValue : U256)
  | storageWarmed (address : Address) (key : U256)
  | transientStorageChange (address : Address) (key hadValue : U256)
  | codeChange (address : Address)
  deriving DecidableEq, Repr

/-- What is warm for the whole transaction. -/
structure WarmAddresses where
  precompiles : List Address := []
  coinbase : Option Address := none
  /-- The storage keys of every access list address. -/
  accessList : List (Address × List U256) := []
  deriving DecidableEq, Repr

namespace WarmAddresses

variable (self : WarmAddresses)

def isWarm (address : Address) : Bool :=
  self.precompiles.contains address || self.coinbase == some address ||
    self.accessList.any fun item => item.1 == address

def isStorageWarm (address : Address) (key : U256) : Bool :=
  self.accessList.any fun item => item.1 == address && item.2.contains key

end WarmAddresses

/-- The journal without its database. -/
structure JournalInner where
  state : Address → Option Account := fun _ => none
  /-- The entries of the running transaction, oldest first. -/
  journal : List JournalEntry := []
  depth : Nat := 0
  transactionId : Nat := 0
  warmAddresses : WarmAddresses := {}
  /-- Storage that lives for one transaction. -/
  transientStorage : Address → U256 → U256 := fun _ _ => 0

/-- The answers of a database with errors `ε`. -/
structure Database (ε : Type) where
  basic : Address → Except ε (Option AccountInfo)
  storage : Address → U256 → Except ε U256

/-- The database fails no question. -/
structure Database.Answers {ε : Type} (database : Database ε) : Prop where
  basic (address : Address) : ∃ info, database.basic address = .ok info
  storage (address : Address) (key : U256) : ∃ value, database.storage address key = .ok value

/-- A journal over a database. -/
structure Journal (ε : Type) where
  inner : JournalInner := {}
  database : Database ε

/-- The position to which a revert returns. -/
structure JournalCheckpoint where
  journalI : Nat
  deriving DecidableEq, Repr

/-- A value and whether its access was cold. -/
structure StateLoad (α : Type) where
  data : α
  isCold : Bool
  deriving DecidableEq, Repr

/-- Why a load failed. -/
inductive LoadError (ε : Type) where
  | coldLoadSkipped
  | dbError (error : ε)
  deriving DecidableEq, Repr

/-- Why a transfer was refused. -/
inductive TransferError where
  | outOfFunds
  | overflowPayment
  deriving DecidableEq, Repr

namespace Database

variable {ε : Type} (self : Database ε)

/-- The stored account information, of an empty account if there is none. -/
def info (address : Address) : AccountInfo :=
  match self.basic address with
  | .ok (some info) => info
  | _ => {}

/-- The stored value of a slot. -/
def slot (address : Address) (key : U256) : U256 :=
  match self.storage address key with
  | .ok value => value
  | .error _ => 0

end Database

namespace Journal

variable {ε : Type} (self : Journal ε)

/-- The account information a load of the address would find. -/
def info (address : Address) : AccountInfo :=
  match self.inner.state address with
  | some account => account.info
  | none => self.database.info address

def balance (address : Address) : U256 := (self.info address).balance
def nonce (address : Address) : U64 := (self.info address).nonce

/-- The journaled value of a slot. -/
def journaled (address : Address) (key : U256) : Option U256 :=
  (self.inner.state address).bind fun account =>
    (account.storage key).map EvmStorageSlot.presentValue

/-- The value a load of the slot would find. -/
def storageAt (address : Address) (key : U256) : U256 :=
  (self.journaled address key).getD (self.database.slot address key)

/-- The next access of the account is cold. -/
def isAccountCold (address : Address) : Bool :=
  match self.inner.state address with
  | some account =>
    account.isColdTransactionId self.inner.transactionId &&
      !self.inner.warmAddresses.isWarm address
  | none => !self.inner.warmAddresses.isWarm address

/-- The next access of the slot is cold. -/
def isSlotCold (address : Address) (key : U256) : Bool :=
  match (self.inner.state address).bind fun account => account.storage key with
  | some slot =>
    slot.isColdTransactionId self.inner.transactionId &&
      !self.inner.warmAddresses.isStorageWarm address key
  | none => !self.inner.warmAddresses.isStorageWarm address key

/-- Replaces an account of the journaled state. -/
def setAccount (address : Address) (account : Account) : Journal ε :=
  { self with inner := { self.inner with
      state := Function.update self.inner.state address (some account) } }

/-- Records an entry. -/
def push (entry : JournalEntry) : Journal ε :=
  { self with inner := { self.inner with journal := self.inner.journal ++ [entry] } }

end Journal

end ScrollRevm
