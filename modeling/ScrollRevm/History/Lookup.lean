import ScrollRevm.History.Warmth
import ScrollRevm.Journal.Slots

/-!
# The history lookup

From TsukiV2 on, a lookup inside the window reads the ring buffer slot as from a journal
that has the history account in its cache. How the account came into the cache does not
show, because the load that brings it there is rolled back: no step of the lookup
changes the warmth of the account.
-/

namespace ScrollRevm

open FixedWidth StateResult

namespace Journal

variable {ε : Type} {s : Journal ε}

/-- The journal with the account in its cache, where the database has it. The cached account
is not accessed. -/
def cacheAccount (s : Journal ε) (address : Address) : Journal ε :=
  match s.inner.state address, s.database.basic address with
  | none, .ok info =>
    s.setAccount address
      { Account.loaded (info.getD {}) s.inner.transactionId with
        isCold := s.isAccountCold address }
  | _, _ => s

/-- The journal after a load of the account and its rollback. -/
def rollbackLoad (s : Journal ε) (address : Address) : Journal ε :=
  match s.inner.state address with
  | some account =>
    if account.isColdTransactionId s.inner.transactionId then
      s.setAccount address
        { account.markWarmWithTransactionId s.inner.transactionId with isCold := true }
    else s
  | none => s.cacheAccount address

theorem cacheAccount_of_some {address : Address} {account : Account}
    (h : s.inner.state address = some account) : s.cacheAccount address = s := by
  rw [cacheAccount, h]

theorem rollbackLoad_of_none {address : Address} (h : s.inner.state address = none) :
    s.rollbackLoad address = s.cacheAccount address := by
  rw [rollbackLoad, h]

theorem undoAll_accountWarmed (state : Address → Option Account) (address : Address)
    (account : Account) :
    undoAll [.accountWarmed address] (Function.update state address (some account)) =
      Function.update state address (some { account with isCold := true }) := by
  funext other
  by_cases h : other = address
  · subst h
    simp [undoAll, undo, undoAccount]
  · cases hstate : state other <;>
      simp [undoAll, undo, undoAccount, Function.update_of_ne h, hstate, Ne.symm h]

/-- Reverting the entry of an account load. -/
theorem revertTo_push_accountWarmed (s : Journal ε) (address : Address) (account : Account) :
    ((s.deeper.setAccount address account).push (.accountWarmed address)).revertTo
        s.inner.journal.length =
      s.setAccount address { account with isCold := true } := by
  simp only [revertTo, push, setAccount, deeper, List.drop_left, List.take_left,
    Nat.add_sub_cancel, undoAll_accountWarmed, undoAllTransient_singleton, undoTransient]

/-- Reverting nothing ends the call. -/
theorem revertTo_deeper_setAccount (s : Journal ε) (address : Address) (account : Account) :
    (s.deeper.setAccount address account).revertTo s.inner.journal.length =
      s.setAccount address account := by
  simp only [revertTo, setAccount, deeper, List.drop_length, List.take_length, undoAll_nil,
    undoAllTransient_nil, Nat.add_sub_cancel]

theorem revertTo_deeper (s : Journal ε) :
    s.deeper.revertTo s.inner.journal.length = s := by
  simp only [revertTo, deeper, List.drop_length, List.take_length, undoAll_nil,
    undoAllTransient_nil, Nat.add_sub_cancel]

/-- An account load in a checkpoint of its own, and its rollback. -/
theorem revertTo_loadAccount {address : Address} {load : StateLoad Account} {s' : Journal ε}
    (h : (loadAccount address).run s.deeper = .ok load s') :
    s'.revertTo s.inner.journal.length = s.rollbackLoad address := by
  unfold rollbackLoad
  cases loads_of_run h with
  | @accessed account hstate hwarm =>
    have hstate' : s.inner.state address = some account := hstate
    have hwarm' : account.isColdTransactionId s.inner.transactionId = false := hwarm
    simp only [hstate', hwarm']
    exact revertTo_deeper s
  | @marked account hstate hcold =>
    have hstate' : s.inner.state address = some account := hstate
    have hcold' : account.isColdTransactionId s.inner.transactionId = true := hcold
    simp only [hstate', hcold', if_true]
    exact revertTo_push_accountWarmed s address _
  | @readCold info hstate hbasic hcold =>
    have hstate' : s.inner.state address = none := hstate
    have hbasic' : s.database.basic address = .ok info := hbasic
    have hcold' : s.isAccountCold address = true := hcold
    simp only [cacheAccount, hstate', hbasic', hcold']
    exact revertTo_push_accountWarmed s address _
  | @readWarm info hstate hbasic hwarm =>
    have hstate' : s.inner.state address = none := hstate
    have hbasic' : s.database.basic address = .ok info := hbasic
    have hwarm' : s.isAccountCold address = false := hwarm
    simp only [cacheAccount, hstate', hbasic', hwarm']
    exact revertTo_deeper_setAccount s address _

/-! ## SLOAD -/

/-- An unaffordable cold slot is left alone. -/
theorem run_sloadSkipColdLoad_of_skipped {address : Address} {account : Account} {key : U256}
    (hstate : s.inner.state address = some account) (hcold : s.isSlotCold address key = true) :
    (sloadSkipColdLoad address key true).run s = .error .coldLoadSkipped s := by
  change sloadSkipColdLoad address key true s = _
  simp only [sloadSkipColdLoad, hstate, hcold, Bool.and_self, if_true]

theorem run_sloadSkipColdLoad {address : Address} {account : Account} {key : U256}
    {skipColdLoad : Bool} (hstate : s.inner.state address = some account)
    (hload : (s.isSlotCold address key && skipColdLoad) = false) :
    (sloadSkipColdLoad address key skipColdLoad).run s =
      match sloadAccount address account key s with
      | .ok value s => .ok value s
      | .error e s => .error (.dbError e) s := by
  change sloadSkipColdLoad address key skipColdLoad s = _
  cases hslot : sloadAccount address account key s <;>
    simp only [sloadSkipColdLoad, hstate, hload, hslot, Bool.false_eq_true, if_false]

/-- Only an unaffordable cold slot of a cached account is skipped. -/
theorem sloadSkipColdLoad_skipped {address : Address} {account : Account} {key : U256}
    {skipColdLoad : Bool} {s' : Journal ε} (hstate : s.inner.state address = some account)
    (h : (sloadSkipColdLoad address key skipColdLoad).run s = .error .coldLoadSkipped s') :
    s.isSlotCold address key = true ∧ skipColdLoad = true ∧ s' = s := by
  by_cases hload : (s.isSlotCold address key && skipColdLoad) = false
  · rw [run_sloadSkipColdLoad hstate hload] at h
    split at h <;> cases h
  · rw [Bool.not_eq_false, Bool.and_eq_true] at hload
    obtain ⟨hcold, rfl⟩ := hload
    rw [run_sloadSkipColdLoad_of_skipped hstate hcold] at h
    cases h
    exact ⟨hcold, rfl, rfl⟩

theorem sloadAccount_isCold {address : Address} {account : Account} {key : U256}
    {load : StateLoad U256} {s' : Journal ε}
    (h : sloadAccount address account key s = .ok load s') :
    load.isCold = s.isSlotCold address key := by
  rw [sloadAccount_eq] at h
  split at h <;> cases h
  rfl

/-- The gas of an SLOAD (EIP-2929). -/
def sloadCost (gasParams : GasParams) (address : Address) (key : U256) (s : Journal ε) : Nat :=
  gasParams.warmStorageReadCost.toNat +
    if s.isSlotCold address key then gasParams.coldStorageAdditionalCost.toNat else 0

/-- SLOAD of a slot over a journal with the account in its cache: the value, the remaining
gas, and the journal. -/
def sload (gasParams : GasParams) (address : Address) (key : U256) (gas : U64)
    (s : Journal ε) : Except InstructionResult (U256 × U64 × Journal ε) :=
  let cost := s.sloadCost gasParams address key
  if gas.toNat < cost then .error .outOfGas
  else
    match s.inner.state address with
    | none => .error .fatalExternalError
    | some account =>
      match sloadAccount address account key s with
      | .ok value s => .ok (value.data, BitVec.ofNat 64 (gas.toNat - cost), s)
      | .error _ _ => .error .fatalExternalError

end Journal

/-- What a run returns, and its state. -/
def returned {ε σ α : Type} : EStateM.Result ε σ α → Except ε (α × σ)
  | .ok a s => .ok (a, s)
  | .error e _ => .error e

section Lookup

variable {ε : Type} {s : Journal ε}

theorem run_recordCost {J : Type} (cost : U64) (machine : Machine J) :
    (recordCost cost).run machine =
      match checkedSub machine.gas cost with
      | some rest => .ok () { machine with gas := rest }
      | none => .error .outOfGas machine := rfl

theorem run_onHost_of_ok {J ε' α : Type} {x : EStateM ε' J α} {machine : Machine J} {a : α}
    {host : J} (h : x.run machine.host = .ok a host) (halt : ε' → InstructionResult) :
    (onHost halt x).run machine = .ok a (machine.withHost host) := run_focus_of_ok h

theorem run_recordCost_of_le {J : Type} {cost : U64} {machine : Machine J}
    (h : cost ≤ machine.gas) :
    (recordCost cost).run machine = .ok () { machine with gas := machine.gas - cost } := by
  have hsub : checkedSub machine.gas cost = some (machine.gas - cost) := if_pos h
  rw [run_recordCost, hsub]

theorem run_recordCost_of_lt {J : Type} {cost : U64} {machine : Machine J}
    (h : machine.gas < cost) :
    (recordCost cost).run machine = .error .outOfGas machine := by
  rw [run_recordCost, checkedSub_eq_none.mpr h]

/-- Past the warm charge, a lookup is its load and the cold charge. -/
theorem run_chargedLookup_of_le {J : Type} [JournalTr J ε] {gasParams : GasParams}
    {index : U256} {machine : Machine J} (hle : gasParams.warmStorageReadCost ≤ machine.gas)
    (load : U256 → Bool → EStateM (LoadError ε) J (StateLoad U256)) :
    let rest := machine.gas - gasParams.warmStorageReadCost
    (chargedLookup load gasParams index).run machine =
      match (load index (decide (rest < gasParams.coldStorageAdditionalCost))).run machine.host with
      | .error e host => .error e.halt ⟨machine.stack, rest, host⟩
      | .ok value host =>
        if value.isCold then
          match checkedSub rest gasParams.coldStorageAdditionalCost with
          | some rest => .ok value.data ⟨machine.stack, rest, host⟩
          | none => .error .outOfGas ⟨machine.stack, rest, host⟩
        else .ok value.data ⟨machine.stack, rest, host⟩ := by
  intro rest
  unfold chargedLookup
  rw [run_bind_of_ok (run_recordCost_of_le hle)]
  change ((onHost LoadError.halt (load index (decide (rest < _)))) >>= _).run
    ⟨machine.stack, rest, machine.host⟩ = _
  rw [EStateM.run_bind, onHost, run_focus]
  cases hload : (load index (decide (rest < gasParams.coldStorageAdditionalCost))).run
      machine.host with
  | error e host => rfl
  | ok value host =>
    dsimp only
    cases value.isCold with
    | false => rfl
    | true =>
      change (recordCost _ >>= _).run ⟨machine.stack, rest, host⟩ = _
      rw [EStateM.run_bind, run_recordCost]
      dsimp only
      cases checkedSub rest gasParams.coldStorageAdditionalCost <;> rfl

/-- A slot read through the cache halts and returns as the SLOAD does. -/
theorem returned_chargedLookup_sload {address : Address} (gasParams : GasParams) (key : U256)
    {account : Account} {machine : Machine (Journal ε)}
    (hstate : machine.host.inner.state address = some account) :
    returned ((chargedLookup (Journal.sloadSkipColdLoad address) gasParams key).run machine) =
      (Journal.sload gasParams address key machine.gas machine.host).map
        fun (value, gas, s) => (value, { machine with gas := gas, host := s }) := by
  unfold Journal.sload
  by_cases hwarm : machine.gas < gasParams.warmStorageReadCost
  · have hlt : machine.gas.toNat < machine.host.sloadCost gasParams address key :=
      Nat.lt_add_right _ hwarm
    unfold chargedLookup
    rw [run_bind_of_error (run_recordCost_of_lt hwarm), if_pos hlt]
    rfl
  have hle := BitVec.not_lt.mp hwarm
  have hle' : gasParams.warmStorageReadCost.toNat ≤ machine.gas.toNat := hle
  have hrest : (machine.gas - gasParams.warmStorageReadCost).toNat =
      machine.gas.toNat - gasParams.warmStorageReadCost.toNat := BitVec.toNat_sub_of_le hle
  rw [run_chargedLookup_of_le hle, Journal.sloadCost]
  cases hcold : machine.host.isSlotCold address key with
  | false =>
    have hload (skipCold : Bool) : (machine.host.isSlotCold address key && skipCold) = false := by
      rw [hcold]
      rfl
    have hge : ¬machine.gas.toNat < gasParams.warmStorageReadCost.toNat := not_lt.mpr hle'
    rw [Journal.run_sloadSkipColdLoad hstate (hload _), if_neg Bool.false_ne_true, Nat.add_zero,
      if_neg hge, hstate, sub_eq_ofNat hle]
    dsimp only
    cases hslot : Journal.sloadAccount address account key machine.host with
    | error e s' => rfl
    | ok value s' =>
      have hvalue := Journal.sloadAccount_isCold hslot
      rw [hcold] at hvalue
      dsimp only
      rw [hvalue, if_neg Bool.false_ne_true]
      rfl
  | true =>
    by_cases hskip : machine.gas - gasParams.warmStorageReadCost <
        gasParams.coldStorageAdditionalCost
    · have hlt : machine.gas.toNat < gasParams.warmStorageReadCost.toNat +
          gasParams.coldStorageAdditionalCost.toNat := by
        rw [BitVec.lt_def, hrest] at hskip
        omega
      rw [decide_eq_true hskip, Journal.run_sloadSkipColdLoad_of_skipped hstate hcold]
      dsimp only
      rw [if_pos rfl, if_pos hlt]
      rfl
    · have hafford := BitVec.not_lt.mp hskip
      have hge : ¬machine.gas.toNat < gasParams.warmStorageReadCost.toNat +
          gasParams.coldStorageAdditionalCost.toNat := by
        rw [BitVec.le_def, hrest] at hafford
        omega
      have hload : (machine.host.isSlotCold address key && false) = false := Bool.and_false _
      have hcharged : checkedSub (machine.gas - gasParams.warmStorageReadCost)
          gasParams.coldStorageAdditionalCost = some (BitVec.ofNat 64 (machine.gas.toNat -
            (gasParams.warmStorageReadCost.toNat +
              gasParams.coldStorageAdditionalCost.toNat))) := by
        rw [Nat.sub_add_eq, ← hrest, ← sub_eq_ofNat hafford]
        exact if_pos hafford
      rw [decide_eq_false hskip, Journal.run_sloadSkipColdLoad hstate hload, if_pos rfl,
        if_neg hge, hstate]
      dsimp only
      cases hslot : Journal.sloadAccount address account key machine.host with
      | error e s' => rfl
      | ok value s' =>
        have hvalue := Journal.sloadAccount_isCold hslot
        rw [hcold] at hvalue
        dsimp only
        rw [hvalue, if_pos rfl, hcharged]
        rfl

/-- A lookup halts and returns as its load does. -/
theorem returned_chargedLookup_congr {gasParams : GasParams} {index : U256}
    {load load' : U256 → Bool → EStateM (LoadError ε) (Journal ε) (StateLoad U256)}
    {machine : Machine (Journal ε)} {host' : Journal ε}
    (h : ∀ skipCold, returned ((load index skipCold).run machine.host) =
      returned ((load' index skipCold).run host')) :
    returned ((chargedLookup load gasParams index).run machine) =
      returned ((chargedLookup load' gasParams index).run { machine with host := host' }) := by
  by_cases hwarm : machine.gas < gasParams.warmStorageReadCost
  · have hwarm' : ({ machine with host := host' } : Machine (Journal ε)).gas <
        gasParams.warmStorageReadCost := hwarm
    unfold chargedLookup
    rw [run_bind_of_error (run_recordCost_of_lt hwarm),
      run_bind_of_error (run_recordCost_of_lt hwarm')]
    rfl
  have hle := BitVec.not_lt.mp hwarm
  have hle' : gasParams.warmStorageReadCost ≤
      ({ machine with host := host' } : Machine (Journal ε)).gas := hle
  rw [run_chargedLookup_of_le hle, run_chargedLookup_of_le hle']
  dsimp only
  have hload := h (decide (machine.gas - gasParams.warmStorageReadCost <
    gasParams.coldStorageAdditionalCost))
  revert hload
  cases (load index _).run machine.host with
  | error e s₁ =>
    cases (load' index _).run host' with
    | error e' s₂ =>
      intro hload
      cases hload
      rfl
    | ok value s₂ => exact fun hload => nomatch hload
  | ok value s₁ =>
    cases (load' index _).run host' with
    | error e' s₂ => exact fun hload => nomatch hload
    | ok value' s₂ =>
      intro hload
      cases hload
      rfl

/-! ## The history slot -/

/-- The checkpoint of an isolated load is reverted before its slot is loaded. -/
theorem run_isolatedHistorySload_of_ok {index : U256} {skipCold : Bool}
    {info : StateLoad AccountInfo} {t : Journal ε}
    (h : (Journal.loadAccountInfoSkipColdLoad historyStorageAddress false).run s.deeper =
      .ok info t) :
    (isolatedHistorySload index skipCold).run s =
      (Journal.sloadSkipColdLoad historyStorageAddress index skipCold).run
        (t.revertTo s.inner.journal.length) := by
  have hcheckpoint : (focus id (fun s _ => s) LoadError.dbError
      (JournalTr.checkpoint (J := Journal ε))).run s = .ok ⟨s.inner.journal.length⟩ s.deeper := rfl
  have hattempt : (attempt (JournalTr.loadAccountInfoSkipColdLoad (J := Journal ε)
      historyStorageAddress false)).run s.deeper = .ok (.ok info) t := run_attempt_of_ok h
  unfold isolatedHistorySload
  rw [run_bind_of_ok hcheckpoint, run_bind_of_ok hattempt]
  rfl

theorem run_isolatedHistorySload_of_error {index : U256} {skipCold : Bool} {e : LoadError ε}
    {t : Journal ε}
    (h : (Journal.loadAccountInfoSkipColdLoad historyStorageAddress false).run s.deeper =
      .error e t) :
    (isolatedHistorySload index skipCold).run s = .error e (t.revertTo s.inner.journal.length) := by
  have hcheckpoint : (focus id (fun s _ => s) LoadError.dbError
      (JournalTr.checkpoint (J := Journal ε))).run s = .ok ⟨s.inner.journal.length⟩ s.deeper := rfl
  have hattempt : (attempt (JournalTr.loadAccountInfoSkipColdLoad (J := Journal ε)
      historyStorageAddress false)).run s.deeper = .ok (.error e) t := run_attempt_of_error h
  unfold isolatedHistorySload
  rw [run_bind_of_ok hcheckpoint, run_bind_of_ok hattempt]
  rfl

/-- An isolated load that can read the account is a load of the slot after the rollback. -/
theorem run_isolatedHistorySload {index : U256} {skipCold : Bool}
    (h : s.Readable historyStorageAddress) :
    (isolatedHistorySload index skipCold).run s =
      (Journal.sloadSkipColdLoad historyStorageAddress index skipCold).run
        (s.rollbackLoad historyStorageAddress) := by
  cases hload : (Journal.loadAccount historyStorageAddress).run s.deeper with
  | error e s' =>
    have hdeeper : s.deeper.Readable historyStorageAddress := h
    exact absurd hdeeper (Journal.not_readable_of_loadAccount_error hload)
  | ok load s' =>
    have hinfo : (Journal.loadAccountInfoSkipColdLoad historyStorageAddress false).run s.deeper =
        .ok ⟨load.data.info, load.isCold⟩ s' := by
      change Journal.loadAccountInfoSkipColdLoad historyStorageAddress false s.deeper = _
      have hload' : Journal.loadAccount historyStorageAddress s.deeper = .ok load s' := hload
      rw [Journal.loadAccountInfoSkipColdLoad, Bool.and_false, if_neg Bool.false_ne_true, hload']
    rw [run_isolatedHistorySload_of_ok hinfo, Journal.revertTo_loadAccount hload]

/-- An isolated load that cannot read the account fails and leaves no trace. -/
theorem run_isolatedHistorySload_of_not_readable (index : U256) (skipCold : Bool)
    (h : ¬s.Readable historyStorageAddress) :
    ∃ e, (isolatedHistorySload index skipCold).run s = .error (.dbError e) s := by
  cases hload : (Journal.loadAccount historyStorageAddress).run s.deeper with
  | ok load s' =>
    have hdeeper : s.deeper.Readable historyStorageAddress :=
      Journal.readable_of_loadAccount_ok hload
    exact absurd hdeeper h
  | error e s' =>
    obtain ⟨rfl, -⟩ := Journal.loadAccount_error hload
    have hinfo : (Journal.loadAccountInfoSkipColdLoad historyStorageAddress false).run s.deeper =
        .error (.dbError e) s.deeper := by
      change Journal.loadAccountInfoSkipColdLoad historyStorageAddress false s.deeper = _
      have hload' : Journal.loadAccount historyStorageAddress s.deeper = .error e s.deeper := hload
      rw [Journal.loadAccountInfoSkipColdLoad, Bool.and_false, if_neg Bool.false_ne_true, hload']
    rw [run_isolatedHistorySload_of_error hinfo, Journal.revertTo_deeper]
    exact ⟨e, rfl⟩

/-- The slots and what is warm are as before an isolated load of a cached account. -/
theorem Journal.isSlotCold_rollbackLoad {address : Address} {account : Account}
    (h : s.inner.state address = some account) (key : U256) :
    (s.rollbackLoad address).isSlotCold address key = s.isSlotCold address key := by
  unfold rollbackLoad
  rw [h]
  dsimp only
  split
  · rw [isSlotCold_eq, isSlotCold_eq, state_setAccount, Function.update_self, h]
    rfl
  · rfl

theorem Journal.rollbackLoad_cached {address : Address} {account : Account}
    (h : s.inner.state address = some account) :
    ∃ account', (s.rollbackLoad address).inner.state address = some account' := by
  unfold rollbackLoad
  rw [h]
  dsimp only
  split
  · exact ⟨_, by rw [state_setAccount, Function.update_self]⟩
  · exact ⟨account, h⟩

section FirstRead

variable {index : U256} {skipCold : Bool}

theorem run_eip7709HistorySload_of_ok {value : StateLoad U256} {s' : Journal ε}
    (h : (Journal.sloadSkipColdLoad historyStorageAddress index skipCold).run s =
      .ok value s') :
    (eip7709HistorySload index skipCold).run s = .ok value s' := by
  have hread : (JournalTr.sloadSkipColdLoad (J := Journal ε) historyStorageAddress index
      skipCold).run s = .ok value s' := h
  unfold eip7709HistorySload
  rw [run_bind_of_ok (run_attempt_of_ok hread)]
  rfl

theorem run_eip7709HistorySload_of_dbError {e : ε} {s' : Journal ε}
    (h : (Journal.sloadSkipColdLoad historyStorageAddress index skipCold).run s =
      .error (.dbError e) s') :
    (eip7709HistorySload index skipCold).run s = .error (.dbError e) s' := by
  have hread : (JournalTr.sloadSkipColdLoad (J := Journal ε) historyStorageAddress index
      skipCold).run s = .error (.dbError e) s' := h
  unfold eip7709HistorySload
  rw [run_bind_of_ok (run_attempt_of_error hread)]
  rfl

/-- A skipped read falls back to the isolated load. -/
theorem run_eip7709HistorySload_of_skipped {s' : Journal ε}
    (h : (Journal.sloadSkipColdLoad historyStorageAddress index skipCold).run s =
      .error .coldLoadSkipped s') :
    (eip7709HistorySload index skipCold).run s =
      (isolatedHistorySload index skipCold).run s' := by
  have hread : (JournalTr.sloadSkipColdLoad (J := Journal ε) historyStorageAddress index
      skipCold).run s = .error .coldLoadSkipped s' := h
  unfold eip7709HistorySload
  rw [run_bind_of_ok (run_attempt_of_error hread)]

/-- A slot of an absent account is skipped. -/
theorem Journal.run_sloadSkipColdLoad_of_none {address : Address}
    (h : s.inner.state address = none) :
    (sloadSkipColdLoad address index skipCold).run s = .error .coldLoadSkipped s := by
  change sloadSkipColdLoad address index skipCold s = _
  rw [sloadSkipColdLoad, h]

/-- The history slot is read as from the cache. -/
theorem returned_eip7709HistorySload (h : s.Readable historyStorageAddress) :
    returned ((eip7709HistorySload index skipCold).run s) =
      returned ((Journal.sloadSkipColdLoad historyStorageAddress index skipCold).run
        (s.cacheAccount historyStorageAddress)) := by
  cases hstate : s.inner.state historyStorageAddress with
  | none =>
    rw [run_eip7709HistorySload_of_skipped (Journal.run_sloadSkipColdLoad_of_none hstate),
      run_isolatedHistorySload h, Journal.rollbackLoad_of_none hstate]
  | some account =>
    rw [Journal.cacheAccount_of_some hstate]
    cases hread : (Journal.sloadSkipColdLoad historyStorageAddress index skipCold).run s with
    | ok value s' => rw [run_eip7709HistorySload_of_ok hread]
    | error e s' =>
      cases e with
      | dbError e => rw [run_eip7709HistorySload_of_dbError hread]
      | coldLoadSkipped =>
        obtain ⟨hcold, rfl, rfl⟩ := Journal.sloadSkipColdLoad_skipped hstate hread
        obtain ⟨account', hstate'⟩ := Journal.rollbackLoad_cached hstate
        have hcold' := (Journal.isSlotCold_rollbackLoad hstate index).trans hcold
        rw [run_eip7709HistorySload_of_skipped hread, run_isolatedHistorySload h,
          Journal.run_sloadSkipColdLoad_of_skipped hstate' hcold']
        rfl

/-- The history slot cannot be read where the account cannot. -/
theorem run_eip7709HistorySload_of_not_readable (h : ¬s.Readable historyStorageAddress) :
    ∃ e, (eip7709HistorySload index skipCold).run s = .error (.dbError e) s := by
  have hstate : s.inner.state historyStorageAddress = none := by
    by_contra hstate
    exact h fun hnone => absurd hnone hstate
  rw [run_eip7709HistorySload_of_skipped (Journal.run_sloadSkipColdLoad_of_none hstate)]
  exact run_isolatedHistorySload_of_not_readable index skipCold h

end FirstRead

end Lookup

/-! ## The warmth of the account -/

section Warmth

variable {ε : Type}

/-- The second journal extends the first one without a change of the account's warmth. -/
structure KeepsWarmth (address : Address) (s s' : Journal ε) : Prop where
  isAccountCold_eq : s'.isAccountCold address = s.isAccountCold address
  warmAddresses_eq : s'.inner.warmAddresses = s.inner.warmAddresses
  journal_eq : ∃ entries, s'.inner.journal = s.inner.journal ++ entries ∧
    .accountWarmed address ∉ entries

variable {address : Address} {s s' t : Journal ε}

theorem KeepsWarmth.refl (s : Journal ε) : KeepsWarmth address s s :=
  ⟨rfl, rfl, [], (List.append_nil _).symm, List.not_mem_nil⟩

theorem KeepsWarmth.trans (h : KeepsWarmth address s s') (h' : KeepsWarmth address s' t) :
    KeepsWarmth address s t := by
  obtain ⟨entries, hentries, hnot⟩ := h.journal_eq
  obtain ⟨entries', hentries', hnot'⟩ := h'.journal_eq
  refine ⟨h'.isAccountCold_eq.trans h.isAccountCold_eq,
    h'.warmAddresses_eq.trans h.warmAddresses_eq, entries ++ entries', ?_, ?_⟩
  · rw [hentries', hentries, List.append_assoc]
  · rw [List.mem_append]
    exact not_or.mpr ⟨hnot, hnot'⟩

/-- The warmth of the account stays the same after a revert to any earlier point. -/
theorem KeepsWarmth.isAccountCold_revertTo (h : KeepsWarmth address s s') {n : Nat}
    (hn : n ≤ s.inner.journal.length) :
    (s'.revertTo n).isAccountCold address = (s.revertTo n).isAccountCold address := by
  obtain ⟨entries, hentries, hnot⟩ := h.journal_eq
  have hmem : (.accountWarmed address ∈ s'.inner.journal.drop n) ↔
      .accountWarmed address ∈ s.inner.journal.drop n := by
    rw [hentries, List.drop_append_of_le_length hn, List.mem_append, or_iff_left hnot]
  rw [Journal.isAccountCold_revertTo, Journal.isAccountCold_revertTo, h.isAccountCold_eq,
    h.warmAddresses_eq]
  simp only [hmem]

theorem keepsWarmth_accessSlot {account : Account} (hstate : s.inner.state address = some account)
    (key : U256) (slot : EvmStorageSlot) :
    KeepsWarmth address s (s.accessSlot address account key slot) := by
  refine ⟨?_, Journal.warmAddresses_accessSlot _ _ _ _ _, _,
    Journal.journal_accessSlot _ _ _ _ _, ?_⟩
  · rw [Journal.isAccountCold_eq, Journal.isAccountCold_eq, Journal.state_accessSlot,
      Function.update_self, hstate, Journal.transactionId_accessSlot,
      Journal.warmAddresses_accessSlot]
    rfl
  · split <;> simp

/-- A slot read keeps the warmth of the account. -/
theorem sloadSkipColdLoad_keepsWarmth (address : Address) (key : U256) (skipColdLoad : Bool) :
    Exits (KeepsWarmth address)
      (Journal.sloadSkipColdLoad (ε := ε) address key skipColdLoad) := by
  intro s
  cases hstate : s.inner.state address with
  | none =>
    rw [Journal.run_sloadSkipColdLoad_of_none hstate]
    exact .refl s
  | some account =>
    by_cases hload : (s.isSlotCold address key && skipColdLoad) = false
    · rw [Journal.run_sloadSkipColdLoad hstate hload, Journal.sloadAccount_eq]
      cases s.accessedSlot address account key with
      | error e => exact .refl s
      | ok slot => exact keepsWarmth_accessSlot hstate key slot
    · rw [Bool.not_eq_false, Bool.and_eq_true] at hload
      obtain ⟨hcold, rfl⟩ := hload
      rw [Journal.run_sloadSkipColdLoad_of_skipped hstate hcold]
      exact .refl s

theorem keepsWarmth_setAccount {account : Account}
    (h : (Journal.coldAccount s.inner.transactionId (some account) &&
        !s.inner.warmAddresses.isWarm address) = s.isAccountCold address) :
    KeepsWarmth address s (s.setAccount address account) := by
  refine ⟨?_, rfl, [], (List.append_nil _).symm, List.not_mem_nil⟩
  rw [← h, Journal.isAccountCold_eq, Journal.state_setAccount, Function.update_self]
  rfl

/-- A load that is rolled back keeps the warmth of the account. -/
theorem rollbackLoad_keepsWarmth (s : Journal ε) (address : Address) :
    KeepsWarmth address s (s.rollbackLoad address) := by
  unfold Journal.rollbackLoad
  cases hstate : s.inner.state address with
  | some account =>
    dsimp only
    split
    · rename_i hcold
      have hbefore : Journal.coldAccount s.inner.transactionId (some account) = true := hcold
      have hafter : Journal.coldAccount s.inner.transactionId
          (some { account.markWarmWithTransactionId s.inner.transactionId with
            isCold := true }) = true := Bool.or_true _
      apply keepsWarmth_setAccount
      rw [Journal.isAccountCold_eq, hstate, hbefore, hafter]
    · exact .refl s
  | none =>
    unfold Journal.cacheAccount
    rw [hstate]
    cases s.database.basic address with
    | error e => exact .refl s
    | ok info =>
      have hafter : Journal.coldAccount s.inner.transactionId
          (some { Account.loaded (info.getD {}) s.inner.transactionId with
            isCold := s.isAccountCold address }) = s.isAccountCold address := by
        simp [Journal.coldAccount, Account.isColdTransactionId, Account.loaded]
      apply keepsWarmth_setAccount
      rw [hafter, Journal.isAccountCold_eq, hstate, Journal.coldAccount, Option.elim_none,
        Bool.true_and, Bool.and_self]

/-- The history read keeps the warmth of the account. -/
theorem eip7709HistorySload_keepsWarmth (index : U256) (skipCold : Bool) :
    Exits (KeepsWarmth historyStorageAddress)
      (eip7709HistorySload (J := Journal ε) index skipCold) := by
  intro s
  have hfirst := sloadSkipColdLoad_keepsWarmth (ε := ε) historyStorageAddress index skipCold s
  cases hread : (Journal.sloadSkipColdLoad historyStorageAddress index skipCold).run s with
  | ok value s' =>
    rw [hread] at hfirst
    rwa [run_eip7709HistorySload_of_ok hread]
  | error e s' =>
    rw [hread] at hfirst
    cases e with
    | dbError e => rwa [run_eip7709HistorySload_of_dbError hread]
    | coldLoadSkipped =>
      rw [run_eip7709HistorySload_of_skipped hread]
      refine hfirst.trans ?_
      by_cases hreadable : s'.Readable historyStorageAddress
      · rw [run_isolatedHistorySload hreadable]
        exact (rollbackLoad_keepsWarmth s' historyStorageAddress).trans
          (sloadSkipColdLoad_keepsWarmth historyStorageAddress index skipCold _)
      · obtain ⟨e, hrun⟩ := run_isolatedHistorySload_of_not_readable index skipCold hreadable
        rw [hrun]
        exact .refl s'

/-- A charged lookup keeps the warmth of the account. -/
theorem chargedLookup_keepsWarmth (gasParams : GasParams) (index : U256) :
    Exits (fun m m' : Machine (Journal ε) => KeepsWarmth historyStorageAddress m.host m'.host)
      (chargedLookup eip7709HistorySload gasParams index) := by
  have htrans (m₁ m₂ m₃ : Machine (Journal ε))
      (h : KeepsWarmth historyStorageAddress m₁.host m₂.host)
      (h' : KeepsWarmth historyStorageAddress m₂.host m₃.host) :
      KeepsWarmth historyStorageAddress m₁.host m₃.host := h.trans h'
  have hrefl (m : Machine (Journal ε)) : KeepsWarmth historyStorageAddress m.host m.host :=
    .refl _
  have hcost (cost : U64) : Exits (fun m m' : Machine (Journal ε) =>
      KeepsWarmth historyStorageAddress m.host m'.host) (recordCost cost) := by
    intro m
    rw [run_recordCost]
    cases checkedSub m.gas cost <;> exact hrefl m
  refine (hcost _).bind htrans fun _ => ?_
  refine Exits.bind htrans (fun m => hrefl m) fun remaining => ?_
  refine Exits.bind htrans ((eip7709HistorySload_keepsWarmth index _).focus fun _ _ => rfl)
    fun value => ?_
  split
  · exact (hcost _).bind htrans fun _ => .pure hrefl _
  · exact .pure hrefl _

end Warmth

/-! ## The lookup inside the window -/

/-- The number is one of the last 256 ancestors of the block. -/
def InWindow (env : Env) (number : U256) : Prop :=
  number.toNat < env.block.number.toNat ∧ env.block.number.toNat ≤ number.toNat + 256

/-- The slot of the ring buffer that is read for a number. -/
def historySlot (number : U256) : U256 :=
  (asU64Saturated number % historyServeWindow).setWidth 256

theorem toNat_asU64Saturated (value : U256) :
    (asU64Saturated value).toNat = min value.toNat (2 ^ 64 - 1) := by
  unfold asU64Saturated
  split
  · rename_i hlt
    rw [BitVec.toNat_setWidth, Nat.mod_eq_of_lt hlt]
    omega
  · rename_i hge
    rw [BitVec.toNat_allOnes]
    omega

theorem toNat_historySlot (number : U256) :
    (historySlot number).toNat = min number.toNat (2 ^ 64 - 1) % 8191 := by
  have hwindow : historyServeWindow.toNat = 8191 := rfl
  rw [historySlot, BitVec.toNat_setWidth_of_le (by decide), BitVec.toNat_umod, hwindow,
    toNat_asU64Saturated]

section Window

variable {J ε : Type} [JournalTr J ε] {env : Env} {number : U256} {machine : Machine J}
variable {rest : List U256}

theorem run_top (hstack : machine.stack = number :: rest) :
    top.run machine = .ok number machine := by
  change top machine = _
  rw [top, hstack]

/-- From Feynman on, a number in the window is looked up in the ring buffer. -/
theorem run_blockhashWith_of_feynman (hspec : env.cfg.spec.isEnabledIn .feynman = true)
    (hwindow : InWindow env number) (hstack : machine.stack = number :: rest)
    (keccak256 : Bytes → U256)
    (load : U256 → Bool → EStateM (LoadError ε) J (StateLoad U256)) :
    (blockhashWith load keccak256 env).run machine =
      ((if env.cfg.spec.isEnabledIn .tsukiV2 then
          chargedLookup load env.cfg.gasParams (historySlot number)
        else freeLookup (historySlot number)) >>= setTop).run machine := by
  obtain ⟨hlt, hle⟩ := hwindow
  have hsub : checkedSub env.block.number number = some (env.block.number - number) :=
    if_pos hlt.le
  have hdiff : (asU64Saturated (env.block.number - number)).toNat =
      env.block.number.toNat - number.toNat := by
    rw [toNat_asU64Saturated, BitVec.toNat_sub_of_le hlt.le]
    omega
  have hzero : ¬asU64Saturated (env.block.number - number) = 0 := by
    intro h
    have htoNat : (0 : U64).toNat = 0 := rfl
    rw [h, htoNat] at hdiff
    omega
  have hrecent : ¬blockHashHistory < asU64Saturated (env.block.number - number) := by
    have htoNat : blockHashHistory.toNat = 256 := rfl
    rw [BitVec.lt_def, hdiff, htoNat]
    omega
  unfold blockhashWith
  rw [run_bind_of_ok (run_top hstack), hsub]
  dsimp only
  rw [if_neg hzero, if_neg hrecent, hspec, Bool.not_true, if_neg Bool.false_ne_true]
  by_cases hcharged : env.cfg.spec.isEnabledIn .tsukiV2 = true
  · rw [if_pos hcharged, if_pos hcharged]
    rfl
  · rw [if_neg hcharged, if_neg hcharged]
    rfl

/-- From TsukiV2 on, a number in the window is looked up at a charge. -/
theorem run_blockhashWith_of_inWindow (hspec : env.cfg.spec.isEnabledIn .tsukiV2 = true)
    (hwindow : InWindow env number) (hstack : machine.stack = number :: rest)
    (keccak256 : Bytes → U256)
    (load : U256 → Bool → EStateM (LoadError ε) J (StateLoad U256)) :
    (blockhashWith load keccak256 env).run machine =
      (chargedLookup load env.cfg.gasParams (historySlot number) >>= setTop).run machine := by
  have hfeynman : env.cfg.spec.isEnabledIn .feynman = true :=
    ScrollSpecId.isEnabledIn_trans hspec rfl
  rw [run_blockhashWith_of_feynman hfeynman hwindow hstack, if_pos hspec]

/-- Outside the window there is no hash. -/
theorem run_blockhashWith_of_not_inWindow (hwindow : ¬InWindow env number)
    (hstack : machine.stack = number :: rest) (keccak256 : Bytes → U256)
    (load : U256 → Bool → EStateM (LoadError ε) J (StateLoad U256)) :
    (blockhashWith load keccak256 env).run machine =
      .ok () { machine with stack := 0 :: rest } := by
  have hset : (setTop 0).run machine = .ok () { machine with stack := 0 :: rest } := by
    change EStateM.Result.ok () { machine with stack := 0 :: machine.stack.tail } = _
    rw [hstack, List.tail_cons]
  unfold blockhashWith
  rw [run_bind_of_ok (run_top hstack)]
  cases hsub : checkedSub env.block.number number with
  | none => exact hset
  | some diff =>
    dsimp only
    by_cases hzero : asU64Saturated diff = 0
    · rw [if_pos hzero]
      exact hset
    by_cases hold : blockHashHistory < asU64Saturated diff
    · rw [if_neg hzero, if_pos hold]
      exact hset
    obtain ⟨hle, hdiff⟩ := checkedSub_eq_some.mp hsub
    have hsaturated := toNat_asU64Saturated diff
    have hpos : (asU64Saturated diff).toNat ≠ 0 := fun h => hzero (BitVec.eq_of_toNat_eq h)
    have htoNat : blockHashHistory.toNat = 256 := rfl
    rw [BitVec.lt_def, htoNat] at hold
    exact absurd ⟨by omega, by omega⟩ hwindow

end Window

end ScrollRevm
