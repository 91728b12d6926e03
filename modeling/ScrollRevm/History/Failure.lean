import ScrollRevm.History.Blockhash

/-!
# Failed lookups

A lookup that runs out of gas or fails by the database leaves no trace: it may have
cached the history account, and no later step can tell. Out of gas, it has not read the
storage of the database.
-/

namespace ScrollRevm

open FixedWidth StateResult ReferenceMainnet

variable {ε : Type} {s s' t : Journal ε}

/-- The second journal has the entries, the depth, the warmth and the slots of the first. -/
structure NoTrace (s s' : Journal ε) : Prop where
  journal_eq : s'.inner.journal = s.inner.journal
  depth_eq : s'.inner.depth = s.inner.depth
  isAccountCold_eq : ∀ address, s'.isAccountCold address = s.isAccountCold address
  isSlotCold_eq : ∀ address key, s'.isSlotCold address key = s.isSlotCold address key
  journaled_eq : ∀ address key, s'.journaled address key = s.journaled address key
  database_eq : s'.database = s.database

theorem NoTrace.refl (s : Journal ε) : NoTrace s s :=
  ⟨rfl, rfl, fun _ => rfl, fun _ _ => rfl, fun _ _ => rfl, rfl⟩

/-- Replacing an account by one with its warmth and its slots leaves no trace. -/
theorem noTrace_setAccount {address : Address} {account : Account}
    (hcold : (Journal.coldAccount s.inner.transactionId (some account) &&
      !s.inner.warmAddresses.isWarm address) = s.isAccountCold address)
    (hstorage : ∀ key, account.storage key =
      (s.inner.state address).bind fun account => account.storage key) :
    NoTrace s (s.setAccount address account) := by
  have hother {other : Address} (h : other ≠ address) :
      (s.setAccount address account).inner.state other = s.inner.state other := by
    rw [Journal.state_setAccount, Function.update_of_ne h]
  have hself : (s.setAccount address account).inner.state address = some account := by
    rw [Journal.state_setAccount, Function.update_self]
  have hjournaled := Journal.journaled_setAccount hstorage
  refine ⟨rfl, rfl, fun other => ?_, fun other key => ?_, fun other key => ?_, rfl⟩
  · by_cases h : other = address
    · subst h
      rw [← hcold, Journal.isAccountCold_eq, hself]
      rfl
    · rw [Journal.isAccountCold_eq, Journal.isAccountCold_eq, hother h]
      rfl
  · by_cases h : other = address
    · subst h
      rw [Journal.isSlotCold_eq, Journal.isSlotCold_eq, hself, Journal.coldSlot,
        Journal.coldSlot, ← hstorage key]
      rfl
    · rw [Journal.isSlotCold_eq, Journal.isSlotCold_eq, hother h]
      rfl
  · rw [hjournaled]

/-- A load of the account and its rollback leave no trace. -/
theorem noTrace_rollbackLoad (s : Journal ε) (address : Address) :
    NoTrace s (s.rollbackLoad address) := by
  unfold Journal.rollbackLoad
  cases hstate : s.inner.state address with
  | some account =>
    dsimp only
    split
    · rename_i hcold
      apply noTrace_setAccount
      · have hbefore : Journal.coldAccount s.inner.transactionId (some account) = true := hcold
        have hafter : Journal.coldAccount s.inner.transactionId
            (some { account.markWarmWithTransactionId s.inner.transactionId with
              isCold := true }) = true := Bool.or_true _
        rw [Journal.isAccountCold_eq, hstate, hbefore, hafter]
      · intro key
        rw [hstate]
        rfl
    · exact .refl s
  | none =>
    unfold Journal.cacheAccount
    rw [hstate]
    cases s.database.basic address with
    | error e => exact .refl s
    | ok info =>
      apply noTrace_setAccount
      · have hafter : Journal.coldAccount s.inner.transactionId
            (some { Account.loaded (info.getD {}) s.inner.transactionId with
              isCold := s.isAccountCold address }) = s.isAccountCold address := by
          simp [Journal.coldAccount, Account.isColdTransactionId, Account.loaded]
        rw [hafter, Journal.isAccountCold_eq, hstate, Journal.coldAccount, Option.elim_none,
          Bool.true_and, Bool.and_self]
      · intro key
        rw [hstate]
        rfl

/-! ## Where a lookup fails -/

section Failure

variable {index : U256} {skipCold : Bool}

/-- A failed slot read leaves the journal as it is. -/
theorem sloadSkipColdLoad_error {address : Address} {e : LoadError ε}
    (h : (Journal.sloadSkipColdLoad address index skipCold).run s = .error e s') : s' = s := by
  cases hstate : s.inner.state address with
  | none =>
    rw [Journal.run_sloadSkipColdLoad_of_none hstate] at h
    cases h
    rfl
  | some account =>
    by_cases hload : (s.isSlotCold address index && skipCold) = false
    · rw [Journal.run_sloadSkipColdLoad hstate hload, Journal.sloadAccount_eq] at h
      split at h
      · cases h
      · rename_i hslot
        split at hslot <;> cases hslot
        cases h
        rfl
    · rw [Bool.not_eq_false, Bool.and_eq_true] at hload
      obtain ⟨hcold, rfl⟩ := hload
      rw [Journal.run_sloadSkipColdLoad_of_skipped hstate hcold] at h
      cases h
      rfl

/-- A slot that was read though cold ones were to be skipped is warm. -/
theorem sloadSkipColdLoad_isCold {address : Address} {value : StateLoad U256}
    (h : (Journal.sloadSkipColdLoad address index true).run s = .ok value s') :
    value.isCold = false := by
  cases hstate : s.inner.state address with
  | none =>
    rw [Journal.run_sloadSkipColdLoad_of_none hstate] at h
    cases h
  | some account =>
    cases hcold : s.isSlotCold address index with
    | true =>
      rw [Journal.run_sloadSkipColdLoad_of_skipped hstate hcold] at h
      cases h
    | false =>
      have hload : (s.isSlotCold address index && true) = false := by rw [hcold]; rfl
      rw [Journal.run_sloadSkipColdLoad hstate hload] at h
      split at h
      · rename_i hslot
        cases h
        exact (Journal.sloadAccount_isCold hslot).trans hcold
      · cases h

/-- A history read is a slot read of the journal, or of the journal after an isolated load
of the account, or it fails to read the account. -/
theorem eip7709HistorySload_cases (s : Journal ε) (index : U256) (skipCold : Bool) :
    (∃ t, (t = s ∨ t = s.rollbackLoad historyStorageAddress ∧ s.Readable historyStorageAddress) ∧
        (eip7709HistorySload index skipCold).run s =
          (Journal.sloadSkipColdLoad historyStorageAddress index skipCold).run t) ∨
      ∃ e, (eip7709HistorySload index skipCold).run s = .error (.dbError e) s := by
  cases hread : (Journal.sloadSkipColdLoad historyStorageAddress index skipCold).run s with
  | ok value s' =>
    refine Or.inl ⟨s, Or.inl rfl, ?_⟩
    rw [run_eip7709HistorySload_of_ok hread, hread]
  | error e s' =>
    cases e with
    | dbError e =>
      refine Or.inl ⟨s, Or.inl rfl, ?_⟩
      rw [run_eip7709HistorySload_of_dbError hread, hread]
    | coldLoadSkipped =>
      obtain rfl := sloadSkipColdLoad_error hread
      rw [run_eip7709HistorySload_of_skipped hread]
      by_cases hreadable : s'.Readable historyStorageAddress
      · exact Or.inl ⟨_, Or.inr ⟨rfl, hreadable⟩, run_isolatedHistorySload hreadable⟩
      · exact Or.inr (run_isolatedHistorySload_of_not_readable index skipCold hreadable)

/-- A failed history read leaves the journal as it is, or with the rolled back load of a
readable account. -/
theorem eip7709HistorySload_error {e : LoadError ε}
    (h : (eip7709HistorySload index skipCold).run s = .error e s') :
    s' = s ∨ s' = s.rollbackLoad historyStorageAddress ∧ s.Readable historyStorageAddress := by
  rcases eip7709HistorySload_cases s index skipCold with ⟨t, ht, hrun⟩ | ⟨e', hrun⟩
  · rw [hrun] at h
    obtain rfl := sloadSkipColdLoad_error h
    exact ht
  · rw [hrun] at h
    cases h
    exact Or.inl rfl

theorem eip7709HistorySload_isCold {value : StateLoad U256}
    (h : (eip7709HistorySload index true).run s = .ok value s') : value.isCold = false := by
  rcases eip7709HistorySload_cases s index true with ⟨t, -, hrun⟩ | ⟨e, hrun⟩
  · rw [hrun] at h
    exact sloadSkipColdLoad_isCold h
  · rw [hrun] at h
    cases h

/-- A lookup that halts failed to pay the warm charge or to read the slot: a slot that was
read has been paid for. -/
theorem chargedLookup_halts {gasParams : GasParams} {machine machine' : Machine (Journal ε)}
    {halt : InstructionResult}
    (h : (chargedLookup eip7709HistorySload gasParams index).run machine =
      .error halt machine') :
    (machine.gas < gasParams.warmStorageReadCost ∧ halt = .outOfGas ∧ machine' = machine) ∨
      gasParams.warmStorageReadCost ≤ machine.gas ∧ ∃ e,
        (eip7709HistorySload index (decide (machine.gas - gasParams.warmStorageReadCost <
          gasParams.coldStorageAdditionalCost))).run machine.host = .error e machine'.host ∧
        halt = e.halt ∧ machine'.stack = machine.stack ∧
        machine'.gas = machine.gas - gasParams.warmStorageReadCost := by
  by_cases hwarm : machine.gas < gasParams.warmStorageReadCost
  · unfold chargedLookup at h
    rw [run_bind_of_error (run_recordCost_of_lt hwarm)] at h
    cases h
    exact Or.inl ⟨hwarm, rfl, rfl⟩
  have hle := BitVec.not_lt.mp hwarm
  refine Or.inr ⟨hle, ?_⟩
  rw [run_chargedLookup_of_le hle] at h
  cases hload : (eip7709HistorySload index (decide (machine.gas -
      gasParams.warmStorageReadCost < gasParams.coldStorageAdditionalCost))).run
        machine.host with
  | error e host =>
    rw [hload] at h
    cases h
    exact ⟨e, rfl, rfl, rfl, rfl⟩
  | ok value host =>
    rw [hload] at h
    dsimp only at h
    by_cases hskip : machine.gas - gasParams.warmStorageReadCost <
        gasParams.coldStorageAdditionalCost
    · rw [decide_eq_true hskip] at hload
      rw [eip7709HistorySload_isCold hload, if_neg Bool.false_ne_true] at h
      cases h
    · have hafford : checkedSub (machine.gas - gasParams.warmStorageReadCost)
          gasParams.coldStorageAdditionalCost = some (machine.gas -
            gasParams.warmStorageReadCost - gasParams.coldStorageAdditionalCost) :=
        if_pos (BitVec.not_lt.mp hskip)
      rw [hafford] at h
      split at h <;> cases h

end Failure

/-! ## Out of gas -/

section OutOfGas

variable {index : U256} {skipCold : Bool}

/-- The journal over a database with other storage. -/
def Journal.withStorage (s : Journal ε) (storage : Address → U256 → Except ε U256) :
    Journal ε :=
  { s with database := { s.database with storage := storage } }

theorem Journal.rollbackLoad_withStorage (s : Journal ε) (address : Address)
    (storage : Address → U256 → Except ε U256) :
    (s.withStorage storage).rollbackLoad address =
      (s.rollbackLoad address).withStorage storage := by
  unfold rollbackLoad cacheAccount withStorage
  dsimp only
  cases s.inner.state address with
  | some account =>
    dsimp only
    split <;> rfl
  | none =>
    cases s.database.basic address <;> rfl

/-- A skipped slot is skipped over any storage. -/
theorem sloadSkipColdLoad_skipped_withStorage {address : Address}
    (h : (Journal.sloadSkipColdLoad address index skipCold).run s = .error .coldLoadSkipped s')
    (storage : Address → U256 → Except ε U256) :
    (Journal.sloadSkipColdLoad address index skipCold).run (s.withStorage storage) =
      .error .coldLoadSkipped (s.withStorage storage) := by
  cases hstate : s.inner.state address with
  | none =>
    have hstate' : (s.withStorage storage).inner.state address = none := hstate
    exact Journal.run_sloadSkipColdLoad_of_none hstate'
  | some account =>
    obtain ⟨hcold, rfl, -⟩ := Journal.sloadSkipColdLoad_skipped hstate h
    have hstate' : (s.withStorage storage).inner.state address = some account := hstate
    exact Journal.run_sloadSkipColdLoad_of_skipped hstate' hcold

/-- A skipped history read is skipped over any storage. -/
theorem eip7709HistorySload_skipped_withStorage
    (h : (eip7709HistorySload index skipCold).run s = .error .coldLoadSkipped s')
    (storage : Address → U256 → Except ε U256) :
    (eip7709HistorySload index skipCold).run (s.withStorage storage) =
      .error .coldLoadSkipped (s'.withStorage storage) := by
  cases hread : (Journal.sloadSkipColdLoad historyStorageAddress index skipCold).run s with
  | ok value t =>
    rw [run_eip7709HistorySload_of_ok hread] at h
    cases h
  | error e t =>
    cases e with
    | dbError e =>
      rw [run_eip7709HistorySload_of_dbError hread] at h
      cases h
    | coldLoadSkipped =>
      obtain rfl := sloadSkipColdLoad_error hread
      rw [run_eip7709HistorySload_of_skipped hread] at h
      rw [run_eip7709HistorySload_of_skipped
        (sloadSkipColdLoad_skipped_withStorage hread storage)]
      by_cases hreadable : t.Readable historyStorageAddress
      · have hreadable' : (t.withStorage storage).Readable historyStorageAddress := hreadable
        rw [run_isolatedHistorySload hreadable] at h
        rw [run_isolatedHistorySload hreadable', Journal.rollbackLoad_withStorage,
          sloadSkipColdLoad_skipped_withStorage h storage, sloadSkipColdLoad_error h]
      · obtain ⟨e, hrun⟩ := run_isolatedHistorySload_of_not_readable index skipCold hreadable
        rw [hrun] at h
        cases h

/-- A lookup out of gas is so over any storage. -/
theorem chargedLookup_outOfGas_withStorage {gasParams : GasParams}
    {machine machine' : Machine (Journal ε)}
    (h : (chargedLookup eip7709HistorySload gasParams index).run machine =
      .error .outOfGas machine') (storage : Address → U256 → Except ε U256) :
    (chargedLookup eip7709HistorySload gasParams index).run
        { machine with host := machine.host.withStorage storage } =
      .error .outOfGas { machine' with host := machine'.host.withStorage storage } := by
  rcases chargedLookup_halts h with ⟨hwarm, -, rfl⟩ | ⟨hle, e, hload, hhalt, hstack, hgas⟩
  · have hwarm' : ({ machine' with host := machine'.host.withStorage storage } :
        Machine (Journal ε)).gas < gasParams.warmStorageReadCost := hwarm
    unfold chargedLookup
    rw [run_bind_of_error (run_recordCost_of_lt hwarm')]
  · cases e with
    | dbError e => cases hhalt
    | coldLoadSkipped =>
      have hle' : gasParams.warmStorageReadCost ≤
          ({ machine with host := machine.host.withStorage storage } :
            Machine (Journal ε)).gas := hle
      rw [run_chargedLookup_of_le hle']
      dsimp only
      rw [eip7709HistorySload_skipped_withStorage hload storage, hstack, hgas]
      rfl

end OutOfGas

/-! ## Trying again -/

/-- The slots of an account stay the same under a rolled back load. -/
theorem storage_rollbackLoad {address : Address} {account : Account}
    (h : s.inner.state address = some account) :
    ((s.rollbackLoad address).inner.state address).map Account.storage =
      some account.storage := by
  unfold Journal.rollbackLoad
  rw [h]
  dsimp only
  split
  · rw [Journal.state_setAccount, Function.update_self]
    rfl
  · rw [h]
    rfl

/-- With a cached account the slots are those of the account, else there are none. -/
theorem storage_cacheAccount {address : Address} (h : s.Readable address) :
    ((s.cacheAccount address).inner.state address).map Account.storage =
      some (((s.inner.state address).map Account.storage).getD fun _ => none) := by
  cases hstate : s.inner.state address with
  | some account =>
    rw [Journal.cacheAccount_of_some hstate, hstate]
    rfl
  | none =>
    obtain ⟨info, hbasic⟩ := h hstate
    rw [Journal.cacheAccount, hstate, hbasic, Journal.state_setAccount, Function.update_self]
    rfl

@[simp] theorem Journal.transactionId_cacheAccount (s : Journal ε) (address : Address) :
    (s.cacheAccount address).inner.transactionId = s.inner.transactionId := by
  unfold cacheAccount
  split <;> rfl

@[simp] theorem Journal.warmAddresses_cacheAccount (s : Journal ε) (address : Address) :
    (s.cacheAccount address).inner.warmAddresses = s.inner.warmAddresses := by
  unfold cacheAccount
  split <;> rfl

@[simp] theorem Journal.database_cacheAccount (s : Journal ε) (address : Address) :
    (s.cacheAccount address).database = s.database := by
  unfold cacheAccount
  split <;> rfl

/-- Cached, the slots of journals with the same slots agree, of an absent account too. -/
theorem slotsAgree_cacheAccount {address : Address} (hs : s.Readable address)
    (ht : t.Readable address)
    (hstorage : ((s.inner.state address).map Account.storage).getD (fun _ => none) =
      ((t.inner.state address).map Account.storage).getD fun _ => none)
    (htransaction : s.inner.transactionId = t.inner.transactionId)
    (hwarm : s.inner.warmAddresses = t.inner.warmAddresses) (hdatabase : s.database = t.database) :
    SlotsAgree address (s.cacheAccount address) (t.cacheAccount address) := by
  refine ⟨?_, ?_, ?_, ?_⟩
  · rw [storage_cacheAccount hs, storage_cacheAccount ht, hstorage]
  · simpa using htransaction
  · simpa using hwarm
  · simpa using hdatabase

/-- The journal over another database. -/
def Journal.withDatabase (s : Journal ε) (database : Database ε) : Journal ε :=
  { s with database := database }

/-- The journal that a failed lookup leaves: as before, or with the account cached. -/
def AfterFailure (s s' : Journal ε) : Prop :=
  s' = s ∨ s' = s.rollbackLoad historyStorageAddress ∧ s.Readable historyStorageAddress

theorem AfterFailure.noTrace (h : AfterFailure s s') : NoTrace s s' := by
  rcases h with rfl | ⟨rfl, -⟩
  · exact .refl _
  · exact noTrace_rollbackLoad s historyStorageAddress

theorem rollbackLoad_inner (s : Journal ε) (address : Address) :
    (s.rollbackLoad address).inner.transactionId = s.inner.transactionId ∧
      (s.rollbackLoad address).inner.warmAddresses = s.inner.warmAddresses := by
  unfold Journal.rollbackLoad
  cases s.inner.state address with
  | some account =>
    dsimp only
    split <;> exact ⟨rfl, rfl⟩
  | none => exact ⟨by simp, by simp⟩

/-- A failed lookup leaves an account that was readable before over the database of the
next try, with the slots it had. -/
theorem AfterFailure.slotsAgree (h : AfterFailure s s') {database : Database ε}
    (hreadable : (s.withDatabase database).Readable historyStorageAddress) :
    (s'.withDatabase database).Readable historyStorageAddress ∧
      SlotsAgree historyStorageAddress
        ((s.withDatabase database).cacheAccount historyStorageAddress)
        ((s'.withDatabase database).cacheAccount historyStorageAddress) := by
  rcases h with rfl | ⟨rfl, hbefore⟩
  · exact ⟨hreadable, rfl, rfl, rfl, rfl⟩
  have hstorage : ((s.rollbackLoad historyStorageAddress).inner.state
      historyStorageAddress).map Account.storage =
        some (((s.inner.state historyStorageAddress).map Account.storage).getD
          fun _ => none) := by
    cases hstate : s.inner.state historyStorageAddress with
    | some account => exact storage_rollbackLoad hstate
    | none => rw [Journal.rollbackLoad_of_none hstate, storage_cacheAccount hbefore, hstate]
  obtain ⟨account, haccount, -⟩ := Option.map_eq_some_iff.mp hstorage
  have hreadable' : ((s.rollbackLoad historyStorageAddress).withDatabase database).Readable
      historyStorageAddress := fun hnone => by
    have hnone' : (s.rollbackLoad historyStorageAddress).inner.state
      historyStorageAddress = none := hnone
    rw [haccount] at hnone'
    cases hnone'
  have hinner := rollbackLoad_inner s historyStorageAddress
  refine ⟨hreadable', slotsAgree_cacheAccount hreadable hreadable' ?_ hinner.1.symm
    hinner.2.symm rfl⟩
  change Option.getD _ _ = (((s.rollbackLoad historyStorageAddress).inner.state
    historyStorageAddress).map Account.storage).getD _
  rw [hstorage]
  rfl

section Blockhash

variable {J : Type} [JournalTr J ε] [LawfulJournal J]
variable {env : Env} {number : U256} {machine machine' : Machine J} {rest : List U256}
variable {halt : InstructionResult}

/-- What a run charges and returns: the stack and the gas it leaves. -/
def charged {K : Type} (result : EStateM.Result InstructionResult (Machine K) Unit) :
    Except InstructionResult (List U256 × U64) :=
  (returned result).map fun exit => (exit.2.stack, exit.2.gas)

theorem charged_mapState {K L : Type} (view : K → L)
    (result : EStateM.Result InstructionResult (Machine K) Unit) :
    charged (mapState (Machine.mapHost view) result) = charged result := by
  cases result <;> rfl

/-- A halt of the instruction is one of the lookup. -/
theorem chargedLookup_of_blockhash_halts (hspec : env.cfg.spec.isEnabledIn .tsukiV2 = true)
    (hwindow : InWindow env number) (hstack : machine.stack = number :: rest)
    {keccak256 : Bytes → U256}
    (hrun : (blockhash keccak256 env).run machine = .error halt machine') :
    (chargedLookup eip7709HistorySload env.cfg.gasParams (historySlot number)).run
        (machine.mapHost JournalTr.view) = .error halt (machine'.mapHost JournalTr.view) := by
  have hstack' : (machine.mapHost JournalTr.view).stack = number :: rest := hstack
  have hview := (blockhash_simulates keccak256 env).error hrun
  rw [blockhash, run_blockhashWith_of_inWindow hspec hwindow hstack'] at hview
  rcases run_bind_eq_error.mp hview with hlookup | ⟨value, t, -, hset⟩
  · exact hlookup
  · cases hset

theorem afterFailure_of_chargedLookup {gasParams : GasParams} {index : U256}
    {m m' : Machine (Journal ε)}
    (h : (chargedLookup eip7709HistorySload gasParams index).run m = .error halt m') :
    AfterFailure m.host m'.host := by
  rcases chargedLookup_halts h with ⟨-, -, rfl⟩ | ⟨-, e, hload, -⟩
  · exact Or.inl rfl
  · exact eip7709HistorySload_error hload

/-- Two tries from journals in which the account is readable and has the same slots charge
the same. -/
theorem charged_blockhash_of_slotsAgree (hspec : env.cfg.spec.isEnabledIn .tsukiV2 = true)
    (hwindow : InWindow env number) {first retry : Machine J}
    (hfirst : first.stack = number :: rest) (hretry : retry.stack = number :: rest)
    (hgas : first.gas = retry.gas)
    (hreadable : (JournalTr.view first.host).Readable historyStorageAddress)
    (hreadable' : (JournalTr.view retry.host).Readable historyStorageAddress)
    (hagree : SlotsAgree historyStorageAddress
      ((JournalTr.view first.host).cacheAccount historyStorageAddress)
      ((JournalTr.view retry.host).cacheAccount historyStorageAddress))
    (keccak256 : Bytes → U256) :
    charged ((blockhash keccak256 env).run first) =
      charged ((blockhash keccak256 env).run retry) := by
  have hview (m : Machine J) : charged ((blockhash keccak256 env).run m) =
      charged (mapState (Machine.mapHost JournalTr.view) ((blockhash keccak256 env).run m)) :=
    (charged_mapState _ _).symm
  rw [hview first, hview retry, charged, charged,
    returned_blockhash hspec hwindow hfirst hreadable,
    returned_blockhash hspec hwindow hretry hreadable', hgas]
  rcases hagree.sload env.cfg.gasParams (historySlot number) retry.gas with
    ⟨halt, hs, ht⟩ | ⟨value, left, s', t', -, hs, ht, -⟩
  · rw [hs, ht]
  · rw [hs, ht]
    rfl

/-- From TsukiV2 on, a lookup in the window that halts leaves no trace, and out of gas it
has not read the storage of the database. So the next try, with any gas and over any
database that answers for the account, charges what it would have charged before. -/
theorem failed_blockhash_noTrace (hspec : env.cfg.spec.isEnabledIn .tsukiV2 = true)
    (hwindow : InWindow env number) (hstack : machine.stack = number :: rest)
    {keccak256 : Bytes → U256}
    (hrun : (blockhash keccak256 env).run machine = .error halt machine') :
    let s := JournalTr.view machine.host
    let s' := JournalTr.view machine'.host
    NoTrace s s' ∧
      (halt = .outOfGas → ∀ (storage : Address → U256 → Except ε U256) (other : Machine J),
        other.stack = machine.stack → other.gas = machine.gas →
        JournalTr.view other.host = s.withStorage storage →
        ∃ other', (blockhash keccak256 env).run other = .error .outOfGas other' ∧
          JournalTr.view other'.host = s'.withStorage storage) ∧
      ∀ (database : Database ε) (first retry : Machine J),
        (database = s.database ∨ (s.withDatabase database).Readable historyStorageAddress) →
        JournalTr.view first.host = s.withDatabase database →
        JournalTr.view retry.host = s'.withDatabase database →
        first.stack = machine.stack → retry.stack = machine.stack → first.gas = retry.gas →
        charged ((blockhash keccak256 env).run first) =
          charged ((blockhash keccak256 env).run retry) := by
  intro s s'
  have hlookup := chargedLookup_of_blockhash_halts hspec hwindow hstack hrun
  have hafter : AfterFailure s s' := afterFailure_of_chargedLookup hlookup
  refine ⟨hafter.noTrace, ?_, ?_⟩
  · rintro rfl storage other hother hgas hview
    have hstorage := chargedLookup_outOfGas_withStorage hlookup storage
    have hmachine : ({ machine.mapHost JournalTr.view with
        host := (machine.mapHost JournalTr.view).host.withStorage storage } :
          Machine (Journal ε)) = other.mapHost JournalTr.view := by
      simp only [Machine.mapHost, hother, hgas, hview]
      rfl
    rw [hmachine] at hstorage
    have hstack' : (other.mapHost JournalTr.view).stack = number :: rest := hother.trans hstack
    have hblockhash : (blockhash keccak256 env).run (other.mapHost JournalTr.view) =
        .error .outOfGas { machine'.mapHost JournalTr.view with
          host := s'.withStorage storage } := by
      rw [blockhash, run_blockhashWith_of_inWindow hspec hwindow hstack',
        run_bind_of_error hstorage]
      rfl
    obtain ⟨other', hother', hexit⟩ := (blockhash_simulates keccak256 env).exists_error hblockhash
    exact ⟨other', hother', congrArg Machine.host hexit⟩
  · intro database first retry hdatabase hfirst hretry hfirstStack hretryStack hgas
    by_cases hreadable : (s.withDatabase database).Readable historyStorageAddress
    · obtain ⟨hreadable', hagree⟩ := hafter.slotsAgree hreadable
      refine charged_blockhash_of_slotsAgree hspec hwindow (hfirstStack.trans hstack)
        (hretryStack.trans hstack) hgas ?_ ?_ ?_ keccak256
      · rwa [hfirst]
      · rwa [hretry]
      · rwa [hfirst, hretry]
    · -- The account is still unreadable over the same database, and nothing was cached.
      obtain rfl := hdatabase.resolve_right hreadable
      have hsame : s' = s := hafter.resolve_right fun h => hreadable h.2
      have hviews : first.mapHost JournalTr.view = retry.mapHost JournalTr.view := by
        simp only [Machine.mapHost, hfirst, hretry, hsame, hfirstStack, hretryStack, hgas]
      have hview (m : Machine J) : charged ((blockhash keccak256 env).run m) =
          charged ((blockhash keccak256 env).run (m.mapHost JournalTr.view)) := by
        rw [← charged_mapState JournalTr.view, blockhash_simulates keccak256 env m]
      rw [hview first, hview retry, hviews]

end Blockhash

/-- One gas short of a cold lookup, and the next try with enough. -/
theorem failed_blockhash_noTrace_cold :
    let env := historyEnv 9000
    let run (gas : U64) (s : Journal Unit) := (blockhash (fun _ => 0) env).run ⟨[8999], gas, s⟩
    ∃ machine', run 2099 historyJournal = .error .outOfGas machine' ∧
      NoTrace historyJournal machine'.host ∧
      charged (run 2100 historyJournal) = charged (run 2100 machine'.host) := by
  intro env run
  have hhalt : charged (run 2099 historyJournal) = .error .outOfGas := by decide +kernel
  have hwindow : InWindow env 8999 := ⟨by decide, by decide⟩
  cases hrun : run 2099 historyJournal with
  | ok _ machine' =>
    rw [hrun] at hhalt
    cases hhalt
  | error halt machine' =>
    rw [hrun] at hhalt
    cases hhalt
    obtain ⟨htrace, -, hretry⟩ := failed_blockhash_noTrace rfl hwindow rfl hrun
    have hdatabase : machine'.host.database = historyJournal.database := htrace.database_eq
    have hhost : machine'.host = machine'.host.withDatabase historyJournal.database := by
      rw [← hdatabase]
      rfl
    exact ⟨machine', rfl, htrace, hretry historyJournal.database ⟨[8999], 2100, historyJournal⟩
      ⟨[8999], 2100, machine'.host⟩ (Or.inl rfl) rfl hhost rfl rfl rfl⟩

end ScrollRevm
