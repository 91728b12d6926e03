import ScrollRevm.Lib.StateResult
import ScrollRevm.Journal.Reference

/-!
# The journal the crate runs over

The crate is generic in its journal. `JournalTr` lists the operations it calls, and the
operations of the runs it takes part in, over an arbitrary state that survives errors;
`LawfulJournal` says that each of them acts on the journaled records as documented.
-/

namespace ScrollRevm

open StateResult

/-- A journal with states `J` over a database with errors `ε`. -/
class JournalTr (J : Type) (ε : outParam Type) where
  /-- The journaled records and the database. -/
  view : J → Journal ε
  loadAccount : Address → EStateM ε J (StateLoad Account)
  loadAccountMut : Address → EStateM ε J Account
  loadAccountWithCodeMut : Address → EStateM ε J Account
  touch : Address → EStateM ε J Unit
  decrBalance : Address → U256 → EStateM ε J Bool
  balanceIncr : Address → U256 → EStateM ε J Unit
  bumpNonce : Address → EStateM ε J Bool
  transfer : Address → Address → U256 → EStateM ε J (Option TransferError)
  /-- The present value of a slot in the state of the journal. -/
  journaled : J → Address → U256 → Option U256
  databaseStorage : Address → U256 → EStateM ε J U256
  loadAccountInfoSkipColdLoad : Address → Bool → EStateM (LoadError ε) J (StateLoad AccountInfo)
  loadAccountDelegated : Address → EStateM ε J (StateLoad Account)
  sloadSkipColdLoad : Address → U256 → Bool → EStateM (LoadError ε) J (StateLoad U256)
  sstore : Address → U256 → U256 → Bool → EStateM (LoadError ε) J (StateLoad U256)
  checkpoint : EStateM ε J JournalCheckpoint
  checkpointCommit : EStateM ε J Unit
  checkpointRevert : JournalCheckpoint → EStateM ε J Unit
  warmAccessList : List (Address × List U256) → EStateM ε J Unit
  warmCoinbaseAccount : Address → EStateM ε J Unit
  commitTx : EStateM ε J Unit
  discardTx : EStateM ε J Unit
  finalize : EStateM ε J (Address → Option Account)
  commit : (Address → Option Account) → EStateM ε J Unit

/-- What revm documents of its journal. -/
class LawfulJournal (J : Type) {ε : Type} [JournalTr J ε] : Prop where
  loadAccount (address : Address) :
    Simulates JournalTr.view (JournalTr.loadAccount (J := J) address) (Journal.loadAccount address)
  loadAccountMut (address : Address) :
    Simulates JournalTr.view (JournalTr.loadAccountMut (J := J) address)
      (Journal.loadAccountMut address)
  loadAccountWithCodeMut (address : Address) :
    Simulates JournalTr.view (JournalTr.loadAccountWithCodeMut (J := J) address)
      (Journal.loadAccountMut address)
  touch (address : Address) :
    Simulates JournalTr.view (JournalTr.touch (J := J) address) (Journal.touch address)
  decrBalance (address : Address) (amount : U256) :
    Simulates JournalTr.view (JournalTr.decrBalance (J := J) address amount)
      (Journal.decrBalance address amount)
  balanceIncr (address : Address) (amount : U256) :
    Simulates JournalTr.view (JournalTr.balanceIncr (J := J) address amount)
      (Journal.balanceIncr address amount)
  bumpNonce (address : Address) :
    Simulates JournalTr.view (JournalTr.bumpNonce (J := J) address) (Journal.bumpNonce address)
  transfer (source target : Address) (amount : U256) :
    Simulates JournalTr.view (JournalTr.transfer (J := J) source target amount)
      (Journal.transfer source target amount)
  journaled (j : J) (address : Address) (key : U256) :
    JournalTr.journaled j address key = (JournalTr.view j).journaled address key
  databaseStorage (address : Address) (key : U256) :
    Simulates JournalTr.view (JournalTr.databaseStorage (J := J) address key)
      (Journal.databaseStorage address key)
  loadAccountInfoSkipColdLoad (address : Address) (skipColdLoad : Bool) :
    Simulates JournalTr.view
      (JournalTr.loadAccountInfoSkipColdLoad (J := J) address skipColdLoad)
      (Journal.loadAccountInfoSkipColdLoad address skipColdLoad)
  loadAccountDelegated (address : Address) :
    Simulates JournalTr.view (JournalTr.loadAccountDelegated (J := J) address)
      (Journal.loadAccountDelegated address)
  sloadSkipColdLoad (address : Address) (key : U256) (skipColdLoad : Bool) :
    Simulates JournalTr.view (JournalTr.sloadSkipColdLoad (J := J) address key skipColdLoad)
      (Journal.sloadSkipColdLoad address key skipColdLoad)
  sstore (address : Address) (key value : U256) (skipColdLoad : Bool) :
    Simulates JournalTr.view (JournalTr.sstore (J := J) address key value skipColdLoad)
      (Journal.sstore address key value skipColdLoad)
  checkpoint : Simulates JournalTr.view (JournalTr.checkpoint (J := J)) Journal.checkpoint
  checkpointCommit :
    Simulates JournalTr.view (JournalTr.checkpointCommit (J := J)) Journal.checkpointCommit
  checkpointRevert (checkpoint : JournalCheckpoint) :
    Simulates JournalTr.view (JournalTr.checkpointRevert (J := J) checkpoint)
      (Journal.checkpointRevert checkpoint)
  warmAccessList (accessList : List (Address × List U256)) :
    Simulates JournalTr.view (JournalTr.warmAccessList (J := J) accessList)
      (Journal.warmAccessList accessList)
  warmCoinbaseAccount (address : Address) :
    Simulates JournalTr.view (JournalTr.warmCoinbaseAccount (J := J) address)
      (Journal.warmCoinbaseAccount address)
  commitTx : Simulates JournalTr.view (JournalTr.commitTx (J := J)) Journal.commitTx
  discardTx : Simulates JournalTr.view (JournalTr.discardTx (J := J)) Journal.discardTx
  finalize : Simulates JournalTr.view (JournalTr.finalize (J := J)) Journal.finalize
  commit (state : Address → Option Account) :
    Simulates JournalTr.view (JournalTr.commit (J := J) state) (Journal.commit state)

namespace Journal

variable {ε : Type}

instance : JournalTr (Journal ε) ε where
  view := id
  loadAccount := loadAccount
  loadAccountMut := loadAccountMut
  loadAccountWithCodeMut := loadAccountMut
  touch := touch
  decrBalance := decrBalance
  balanceIncr := balanceIncr
  bumpNonce := bumpNonce
  transfer := transfer
  journaled := journaled
  databaseStorage := databaseStorage
  loadAccountInfoSkipColdLoad := loadAccountInfoSkipColdLoad
  loadAccountDelegated := loadAccountDelegated
  sloadSkipColdLoad := sloadSkipColdLoad
  sstore := sstore
  checkpoint := checkpoint
  checkpointCommit := checkpointCommit
  checkpointRevert := checkpointRevert
  warmAccessList := warmAccessList
  warmCoinbaseAccount := warmCoinbaseAccount
  commitTx := commitTx
  discardTx := discardTx
  finalize := finalize
  commit := commit

instance : LawfulJournal (Journal ε) where
  loadAccount _ := .refl _
  loadAccountMut _ := .refl _
  loadAccountWithCodeMut _ := .refl _
  touch _ := .refl _
  decrBalance _ _ := .refl _
  balanceIncr _ _ := .refl _
  bumpNonce _ := .refl _
  transfer _ _ _ := .refl _
  journaled _ _ _ := rfl
  databaseStorage _ _ := .refl _
  loadAccountInfoSkipColdLoad _ _ := .refl _
  loadAccountDelegated _ := .refl _
  sloadSkipColdLoad _ _ _ := .refl _
  sstore _ _ _ _ := .refl _
  checkpoint := .refl _
  checkpointCommit := .refl _
  checkpointRevert _ := .refl _
  warmAccessList _ := .refl _
  warmCoinbaseAccount _ := .refl _
  commitTx := .refl _
  discardTx := .refl _
  finalize := .refl _
  commit _ := .refl _

end Journal

end ScrollRevm
