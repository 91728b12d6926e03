import ScrollRevm.Journal.State

/-!
# The documented journal operations

What revm documents of each journal operation the crate relies on, as a function of
the journaled records. The crate runs over any journal whose operations act on these
records in the same way; this module is that reference and no part of the crate.

A load of a cached account or slot that the transaction has not accessed yet is cold
unless the address or slot is warm for the whole transaction; a load of an absent one
reads the database first. Every change records the entry that undoes it.
-/

namespace ScrollRevm

open FixedWidth

/-- RIPEMD's precompile address. Its touch survives a revert. -/
def precompile3 : Address := 3

namespace Journal

variable {ε α : Type}

/-! ## Accounts -/

/-- Loads an account and marks it as accessed. -/
def loadAccount (address : Address) : EStateM ε (Journal ε) (StateLoad Account) := fun s =>
  let isCold := s.isAccountCold address
  match s.inner.state address with
  | some account =>
    if account.isColdTransactionId s.inner.transactionId then
      let account := account.markWarmWithTransactionId s.inner.transactionId
      .ok ⟨account, isCold⟩ ((s.setAccount address account).push (.accountWarmed address))
    else .ok ⟨account, isCold⟩ s
  | none =>
    match s.database.basic address with
    | .error e => .error e s
    | .ok info =>
      let account := Account.loaded (info.getD {}) s.inner.transactionId
      let s := s.setAccount address account
      .ok ⟨account, isCold⟩ (if isCold then s.push (.accountWarmed address) else s)

/-- Loads an account information. With `skipColdLoad` a cold account is left alone. -/
def loadAccountInfoSkipColdLoad (address : Address) (skipColdLoad : Bool) :
    EStateM (LoadError ε) (Journal ε) (StateLoad AccountInfo) := fun s =>
  if s.isAccountCold address && skipColdLoad then .error .coldLoadSkipped s
  else
    match loadAccount address s with
    | .ok account s => .ok ⟨account.data.info, account.isCold⟩ s
    | .error e s => .error (.dbError e) s

/-- Loads an account to change it. -/
def loadAccountMut (address : Address) : EStateM ε (Journal ε) Account := do
  let account ← loadAccount address
  return account.data

/-- Changes an account that is in the journal. -/
def modifyAccount (address : Address) (f : Account → Journal ε → α × Journal ε) (default : α) :
    EStateM ε (Journal ε) α := fun s =>
  match s.inner.state address with
  | some account => let (a, s) := f account s; .ok a s
  | none => .ok default s

/-- Marks an account as touched, recording its first touch. -/
def touchAccount (address : Address) (account : Account) (s : Journal ε) : Journal ε :=
  if account.isTouched then s
  else (s.setAccount address { account with isTouched := true }).push (.accountTouched address)

def touch (address : Address) : EStateM ε (Journal ε) Unit :=
  modifyAccount address (fun account s => ((), touchAccount address account s)) ()

/-- Touches an account and sets its balance. -/
def setBalance (address : Address) (account : Account) (balance : U256) (s : Journal ε) :
    Journal ε :=
  let s := touchAccount address account s
  if account.info.balance = balance then s
  else
    (s.setAccount address { account.setBalance balance with isTouched := true }).push
      (.balanceChange address account.info.balance)

/-- Lowers a balance, or returns `false` where it is too small. -/
def decrBalance (address : Address) (amount : U256) : EStateM ε (Journal ε) Bool :=
  modifyAccount address
    (fun account s =>
      match checkedSub account.info.balance amount with
      | some balance => (true, setBalance address account balance s)
      | none => (false, s))
    false

/-- Loads an account and raises its balance; a sum that overflows changes nothing. -/
def balanceIncr (address : Address) (amount : U256) : EStateM ε (Journal ε) Unit := do
  let _ ← loadAccount address
  modifyAccount address
    (fun account s =>
      match checkedAdd account.info.balance amount with
      | some balance => ((), setBalance address account balance s)
      | none => ((), touchAccount address account s))
    ()

/-- Raises a nonce by one, or returns `false` where it is the last one. -/
def bumpNonce (address : Address) : EStateM ε (Journal ε) Bool :=
  modifyAccount address
    (fun account s =>
      let s := touchAccount address account s
      match checkedAdd account.info.nonce 1 with
      | some nonce =>
        (true, (s.setAccount address { account.setNonce nonce with isTouched := true }).push
          (.nonceChange address account.info.nonce))
      | none => (false, s))
    false

/-- Loads an account with its code, and the account its code delegates to. -/
def loadAccountDelegated (address : Address) : EStateM ε (Journal ε) (StateLoad Account) := do
  let account ← loadAccount address
  match account.data.info.code with
  | .eip7702 target =>
    let _ ← loadAccount target
    return account
  | .legacy _ => return account

/-- The value of a slot in the database. -/
def databaseStorage (address : Address) (key : U256) : EStateM ε (Journal ε) U256 := fun s =>
  match s.database.storage address key with
  | .ok value => .ok value s
  | .error e => .error e s

/-! ## Transfers -/

/-- Moves a balance between two loaded accounts. A credit that overflows leaves the
debit in place. -/
def transferLoaded (source target : Address) (balance : U256) :
    EStateM ε (Journal ε) (Option TransferError) := fun s =>
  if source = target then
    if s.balance target < balance then .ok (some .outOfFunds) s else .ok none s
  else if balance = 0 then
    match s.inner.state target with
    | some account => .ok none (touchAccount target account s)
    | none => .ok none s
  else
    match s.inner.state source, s.inner.state target with
    | some debited, some credited =>
      let s := touchAccount source debited s
      match checkedSub debited.info.balance balance with
      | none => .ok (some .outOfFunds) s
      | some rest =>
        let s := s.setAccount source { debited.setBalance rest with isTouched := true }
        let s := touchAccount target credited s
        match checkedAdd credited.info.balance balance with
        | none => .ok (some .overflowPayment) s
        | some sum =>
          .ok none ((s.setAccount target { credited.setBalance sum with isTouched := true }).push
            (.balanceTransfer source target balance))
    | _, _ => .ok none s

/-- Loads both accounts and moves a balance between them. -/
def transfer (source target : Address) (balance : U256) :
    EStateM ε (Journal ε) (Option TransferError) := do
  let _ ← loadAccount source
  let _ ← loadAccount target
  transferLoaded source target balance

/-! ## Storage -/

/-- Loads a slot of a cached account and marks it as accessed. -/
def sloadAccount (address : Address) (account : Account) (key : U256) :
    EStateM ε (Journal ε) (StateLoad U256) := fun s =>
  let isCold := s.isSlotCold address key
  let warm (slot : EvmStorageSlot) : Journal ε :=
    let s := s.setAccount address (account.setSlot key slot)
    if isCold then s.push (.storageWarmed address key) else s
  match account.storage key with
  | some slot =>
    .ok ⟨slot.presentValue, isCold⟩ (warm (slot.markWarmWithTransactionId s.inner.transactionId))
  | none =>
    match s.database.storage address key with
    | .error e => .error e s
    | .ok value => .ok ⟨value, isCold⟩ (warm (.new value s.inner.transactionId))

/-- Loads a slot. With `skipColdLoad` a cold slot is left alone. An account that is not
in the journal counts as skipped. -/
def sloadSkipColdLoad (address : Address) (key : U256) (skipColdLoad : Bool) :
    EStateM (LoadError ε) (Journal ε) (StateLoad U256) := fun s =>
  match s.inner.state address with
  | none => .error .coldLoadSkipped s
  | some account =>
    if s.isSlotCold address key && skipColdLoad then .error .coldLoadSkipped s
    else
      match sloadAccount address account key s with
      | .ok value s => .ok value s
      | .error e s => .error (.dbError e) s

/-- Writes a slot of an account. -/
def sstore (address : Address) (key value : U256) (skipColdLoad : Bool) :
    EStateM (LoadError ε) (Journal ε) (StateLoad U256) := do
  modify fun s =>
    match s.inner.state address with
    | some account => touchAccount address account s
    | none => s
  let present ← sloadSkipColdLoad address key skipColdLoad
  modify fun s =>
    match s.inner.state address with
    | some account =>
      match account.storage key with
      | some slot =>
        if slot.presentValue = value then s
        else
          (s.setAccount address (account.setSlot key { slot with presentValue := value })).push
            (.storageChanged address key slot.presentValue)
      | none => s
    | none => s
  return present

/-! ## Transient storage -/

def setTransient (address : Address) (key value : U256) (storage : Address → U256 → U256) :
    Address → U256 → U256 :=
  Function.update storage address (Function.update (storage address) key value)

/-- Reads transient storage. -/
def tload (address : Address) (key : U256) (s : Journal ε) : U256 :=
  s.inner.transientStorage address key

/-- Writes transient storage, recording a value that changed. -/
def tstore (address : Address) (key value : U256) (s : Journal ε) : Journal ε :=
  let hadValue := s.tload address key
  let written := { s with inner := { s.inner with
    transientStorage := setTransient address key value s.inner.transientStorage } }
  if hadValue = value then written
  else written.push (.transientStorageChange address key hadValue)

/-! ## Checkpoints and transactions -/

/-- What undoing an entry does to the account of an address. -/
def undoAccount (entry : JournalEntry) (address : Address) (account : Account) : Account :=
  match entry with
  | .accountWarmed warmed =>
    if warmed = address then { account with isCold := true } else account
  | .accountTouched touched =>
    if touched = address ∧ touched ≠ precompile3 then { account with isTouched := false }
    else account
  | .balanceChange changed oldBalance =>
    if changed = address then account.setBalance oldBalance else account
  | .balanceTransfer source target balance =>
    if source = address then account.setBalance (account.info.balance + balance)
    else if target = address then account.setBalance (account.info.balance - balance)
    else account
  | .nonceChange changed previousNonce =>
    if changed = address then account.setNonce previousNonce else account
  | .accountCreated created =>
    -- only an account with nonce zero is created
    if created = address then account.setNonce 0 else account
  | .storageChanged changed key hadValue =>
    if changed = address then
      account.modifySlot key fun slot => { slot with presentValue := hadValue }
    else account
  | .storageWarmed warmed key =>
    if warmed = address then account.modifySlot key fun slot => { slot with isCold := true }
    else account
  | .transientStorageChange _ _ _ => account
  | .codeChange changed =>
    if changed = address then account.setCode (.legacy []) else account

/-- Undoes one entry. -/
def undo (entry : JournalEntry) (state : Address → Option Account) : Address → Option Account :=
  fun address => (state address).map (undoAccount entry address)

/-- Undoes entries, the last one first. -/
def undoAll (entries : List JournalEntry) (state : Address → Option Account) :
    Address → Option Account :=
  entries.foldr undo state

/-- What undoing an entry does to the transient storage. -/
def undoTransient (entry : JournalEntry) (storage : Address → U256 → U256) :
    Address → U256 → U256 :=
  match entry with
  | .transientStorageChange address key hadValue => setTransient address key hadValue storage
  | _ => storage

/-- Undoes entries in the transient storage, the last one first. -/
def undoAllTransient (entries : List JournalEntry) (storage : Address → U256 → U256) :
    Address → U256 → U256 :=
  entries.foldr undoTransient storage

def checkpoint : EStateM ε (Journal ε) JournalCheckpoint := fun s =>
  .ok ⟨s.inner.journal.length⟩ { s with inner := { s.inner with depth := s.inner.depth + 1 } }

def checkpointCommit : EStateM ε (Journal ε) Unit := fun s =>
  .ok () { s with inner := { s.inner with depth := s.inner.depth - 1 } }

def checkpointRevert (checkpoint : JournalCheckpoint) : EStateM ε (Journal ε) Unit := fun s =>
  .ok () { s with inner := { s.inner with
    depth := s.inner.depth - 1
    state := undoAll (s.inner.journal.drop checkpoint.journalI) s.inner.state
    transientStorage :=
      undoAllTransient (s.inner.journal.drop checkpoint.journalI) s.inner.transientStorage
    journal := s.inner.journal.take checkpoint.journalI } }

/-- Sets the access list of the transaction. -/
def warmAccessList (accessList : List (Address × List U256)) : EStateM ε (Journal ε) Unit :=
  modify fun s => { s with inner := { s.inner with
    warmAddresses := { s.inner.warmAddresses with accessList := accessList } } }

/-- Sets the precompiles, which are warm in every transaction. -/
def warmPrecompiles (addresses : List Address) : EStateM ε (Journal ε) Unit :=
  modify fun s => { s with inner := { s.inner with
    warmAddresses := { s.inner.warmAddresses with precompiles := addresses } } }

/-- Warms the coinbase for the transaction. -/
def warmCoinbaseAccount (address : Address) : EStateM ε (Journal ε) Unit :=
  modify fun s => { s with inner := { s.inner with
    warmAddresses := { s.inner.warmAddresses with coinbase := some address } } }

/-- What is warm between transactions: the precompiles. -/
def clearCoinbaseAndAccessList (warm : WarmAddresses) : WarmAddresses :=
  { warm with coinbase := none, accessList := [] }

/-- Ends an accepted transaction. -/
def commitTx : EStateM ε (Journal ε) Unit :=
  modify fun s => { s with inner := { s.inner with
    journal := []
    depth := 0
    transactionId := s.inner.transactionId + 1
    warmAddresses := clearCoinbaseAndAccessList s.inner.warmAddresses
    transientStorage := fun _ _ => 0 } }

/-- Ends a rejected transaction, undoing all its entries. -/
def discardTx : EStateM ε (Journal ε) Unit :=
  modify fun s => { s with inner := { s.inner with
    state := undoAll s.inner.journal s.inner.state
    journal := []
    depth := 0
    transactionId := s.inner.transactionId + 1
    warmAddresses := clearCoinbaseAndAccessList s.inner.warmAddresses
    transientStorage := fun _ _ => 0 } }

/-- Takes the state out of the journal. -/
def finalize : EStateM ε (Journal ε) (Address → Option Account) := fun s =>
  .ok s.inner.state { s with inner :=
    { warmAddresses := clearCoinbaseAndAccessList s.inner.warmAddresses } }

/-- Writes the touched accounts of a state to the database. -/
def commit (state : Address → Option Account) : EStateM ε (Journal ε) Unit :=
  modify fun s => { s with database :=
    { basic := fun address =>
        match state address with
        | some account =>
          if account.isTouched then .ok (some account.info) else s.database.basic address
        | none => s.database.basic address
      storage := fun address key =>
        match state address with
        | some account =>
          if account.isTouched then
            match account.storage key with
            | some slot => .ok slot.presentValue
            | none => s.database.storage address key
          else s.database.storage address key
        | none => s.database.storage address key } }

end Journal

end ScrollRevm
