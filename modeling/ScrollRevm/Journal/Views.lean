import ScrollRevm.Journal.Interface
import ScrollRevm.Lib.Ledger

/-!
# What journal operations show

The effect of each operation on the account information that the journal shows. Loads
and touches change nothing of it, and every other operation changes the account it is
named for. The effects are proved for the documented operations and carried over to
every lawful journal.
-/

namespace ScrollRevm

open FixedWidth StateResult

/-- Bumping a nonce never lowers it. -/
theorem AccountInfo.nonce_le_bump (info : AccountInfo) : info.nonce ≤ info.bump.nonce := by
  rw [AccountInfo.bump]
  cases hadd : checkedAdd info.nonce 1 with
  | none => exact BitVec.le_refl _
  | some nonce =>
    rw [Option.getD_some, BitVec.le_def, checkedAdd_eq_some.mp hadd]
    exact Nat.le_add_right _ _

/-- Bumping any nonce but the last one raises it by one. -/
theorem AccountInfo.bump_nonce {info : AccountInfo} (h : info.nonce.toNat < 2 ^ 64 - 1) :
    info.bump.nonce = info.nonce + 1 := by
  have hone : (1 : U64).toNat = 1 := rfl
  have hadd : checkedAdd info.nonce 1 = some (info.nonce + 1) := if_pos (by omega)
  rw [AccountInfo.bump, hadd, Option.getD_some]

theorem AccountInfo.nonce_lt_bump {info : AccountInfo} (h : info.nonce.toNat < 2 ^ 64 - 1) :
    info.nonce < info.bump.nonce := by
  have hone : (1 : U64).toNat = 1 := rfl
  rw [AccountInfo.bump_nonce h, BitVec.lt_def, BitVec.toNat_add, hone,
    Nat.mod_eq_of_lt (by omega)]
  exact Nat.lt_succ_self _

namespace Journal

variable {ε : Type} {s s' : Journal ε} {address : Address} {account : Account}

@[simp] theorem state_setAccount (s : Journal ε) (address : Address) (account : Account) :
    (s.setAccount address account).inner.state =
      Function.update s.inner.state address (some account) := rfl

@[simp] theorem state_push (s : Journal ε) (entry : JournalEntry) :
    (s.push entry).inner.state = s.inner.state := rfl

@[simp] theorem database_setAccount (s : Journal ε) (address : Address) (account : Account) :
    (s.setAccount address account).database = s.database := rfl

@[simp] theorem database_push (s : Journal ε) (entry : JournalEntry) :
    (s.push entry).database = s.database := rfl

@[simp] theorem info_setAccount (s : Journal ε) (address : Address) (account : Account) :
    (s.setAccount address account).info = Function.update s.info address account.info := by
  funext other
  by_cases h : other = address
  · subst h
    simp [info]
  · simp [info, h]

@[simp] theorem info_push (s : Journal ε) (entry : JournalEntry) :
    (s.push entry).info = s.info := rfl

theorem info_of_state (h : s.inner.state address = some account) :
    s.info address = account.info := by
  rw [info, h]

theorem balance_of_info (h : s'.info = s.info) : s'.balance = s.balance := by
  funext a
  rw [balance, balance, h]

theorem nonce_of_info (h : s'.info = s.info) : s'.nonce = s.nonce := by
  ext1 a
  rw [nonce, nonce, h]

/-- Replacing an account by one with the same information shows nothing new. -/
theorem info_setAccount_of_eq (h : s.info address = account.info) :
    (s.setAccount address account).info = s.info := by
  rw [info_setAccount, ← h, Function.update_eq_self]

/-! ## Loads -/

theorem info_of_basic {info : Option AccountInfo} (hstate : s.inner.state address = none)
    (hbasic : s.database.basic address = .ok info) : s.info address = info.getD {} := by
  rw [Journal.info, hstate]
  simp only [Database.info, hbasic]
  cases info <;> rfl

/-- What an account load does: it finds an accessed account, marks a cached one as accessed,
or reads one from the database. -/
inductive Loads (address : Address) (s : Journal ε) : StateLoad Account → Journal ε → Prop
  | accessed {account : Account} (hstate : s.inner.state address = some account)
      (hwarm : account.isColdTransactionId s.inner.transactionId = false) :
    Loads address s ⟨account, s.isAccountCold address⟩ s
  | marked {account : Account} (hstate : s.inner.state address = some account)
      (hcold : account.isColdTransactionId s.inner.transactionId = true) :
    Loads address s
      ⟨account.markWarmWithTransactionId s.inner.transactionId, s.isAccountCold address⟩
      ((s.setAccount address (account.markWarmWithTransactionId s.inner.transactionId)).push
        (.accountWarmed address))
  | readCold {info : Option AccountInfo} (hstate : s.inner.state address = none)
      (hbasic : s.database.basic address = .ok info) (hcold : s.isAccountCold address = true) :
    Loads address s ⟨.loaded (info.getD {}) s.inner.transactionId, true⟩
      ((s.setAccount address (.loaded (info.getD {}) s.inner.transactionId)).push
        (.accountWarmed address))
  | readWarm {info : Option AccountInfo} (hstate : s.inner.state address = none)
      (hbasic : s.database.basic address = .ok info) (hwarm : s.isAccountCold address = false) :
    Loads address s ⟨.loaded (info.getD {}) s.inner.transactionId, false⟩
      (s.setAccount address (.loaded (info.getD {}) s.inner.transactionId))

theorem loads_of_run {load : StateLoad Account} (h : (loadAccount address).run s = .ok load s') :
    Loads address s load s' := by
  change loadAccount address s = .ok load s' at h
  unfold loadAccount at h
  cases hstate : s.inner.state address with
  | some account =>
    simp only [hstate] at h
    split at h
    · rename_i hcold
      cases h
      exact .marked hstate hcold
    · rename_i hwarm
      cases h
      exact .accessed hstate (Bool.not_eq_true _ ▸ hwarm)
  | none =>
    simp only [hstate] at h
    split at h
    · cases h
    · rename_i info hbasic
      cases h
      cases hcold : s.isAccountCold address with
      | true => exact .readCold hstate hbasic hcold
      | false => exact .readWarm hstate hbasic hcold

/-- A load returns the account it leaves in the journal, and shows no change. -/
theorem loadAccount_ok {load : StateLoad Account}
    (h : (loadAccount address).run s = .ok load s') :
    s'.inner.state address = some load.data ∧ load.data.info = s.info address ∧
      s'.info = s.info ∧ s'.database = s.database := by
  cases loads_of_run h with
  | accessed hstate => exact ⟨hstate, (info_of_state hstate).symm, rfl, rfl⟩
  | marked hstate =>
    have hinfo := info_of_state hstate
    exact ⟨by simp, hinfo.symm, (info_push _ _).trans (info_setAccount_of_eq hinfo), rfl⟩
  | readCold hstate hbasic =>
    have hinfo := info_of_basic hstate hbasic
    exact ⟨by simp, hinfo.symm, (info_push _ _).trans (info_setAccount_of_eq hinfo), rfl⟩
  | readWarm hstate hbasic =>
    have hinfo := info_of_basic hstate hbasic
    exact ⟨by simp, hinfo.symm, info_setAccount_of_eq hinfo, rfl⟩

/-- A load leaves the other accounts as they are. -/
theorem loadAccount_state_of_ne {other : Address} {load : StateLoad Account}
    (h : (loadAccount address).run s = .ok load s') (hne : other ≠ address) :
    s'.inner.state other = s.inner.state other := by
  cases loads_of_run h with
  | accessed => rfl
  | marked | readCold => rw [state_push, state_setAccount, Function.update_of_ne hne]
  | readWarm => rw [state_setAccount, Function.update_of_ne hne]

/-- A load keeps every cached account cached. -/
theorem loadAccount_keeps {other : Address} {load : StateLoad Account}
    (h : (loadAccount address).run s = .ok load s') (hother : s.inner.state other = some account) :
    ∃ account', s'.inner.state other = some account' := by
  by_cases heq : other = address
  · subst heq
    exact ⟨_, (loadAccount_ok h).1⟩
  · exact ⟨account, (loadAccount_state_of_ne h heq).trans hother⟩

/-- A load fails only by the database, where the account is not cached, and leaves the
journal as it was. -/
theorem loadAccount_error {e : ε} (h : (loadAccount address).run s = .error e s') :
    s' = s ∧ s.inner.state address = none := by
  change loadAccount address s = .error e s' at h
  unfold loadAccount at h
  cases hstate : s.inner.state address with
  | some account =>
    simp only [hstate] at h
    split at h <;> cases h
  | none =>
    simp only [hstate] at h
    split at h <;> cases h
    exact ⟨rfl, rfl⟩

/-- The account is cached or the database answers for it. -/
def Readable (s : Journal ε) (address : Address) : Prop :=
  s.inner.state address = none → ∃ info, s.database.basic address = .ok info

theorem readable_of_loadAccount_ok {load : StateLoad Account}
    (h : (loadAccount address).run s = .ok load s') : s.Readable address := by
  intro hnone
  cases loads_of_run h with
  | accessed hstate | marked hstate =>
    rw [hstate] at hnone
    cases hnone
  | readCold _ hbasic | readWarm _ hbasic => exact ⟨_, hbasic⟩

theorem not_readable_of_loadAccount_error {e : ε}
    (h : (loadAccount address).run s = .error e s') : ¬s.Readable address := by
  intro hreadable
  obtain ⟨-, hstate⟩ := loadAccount_error h
  obtain ⟨info, hbasic⟩ := hreadable hstate
  change loadAccount address s = .error e s' at h
  unfold loadAccount at h
  simp only [hstate, hbasic] at h
  cases h

/-- A load changes for no account whether it is readable. -/
theorem readable_loadAccount {other : Address} {load : StateLoad Account}
    (h : (loadAccount address).run s = .ok load s') :
    s'.Readable other ↔ s.Readable other := by
  by_cases heq : other = address
  · subst heq
    refine ⟨fun _ => readable_of_loadAccount_ok h, fun _ hnone => ?_⟩
    rw [(loadAccount_ok h).1] at hnone
    cases hnone
  · rw [Readable, Readable, loadAccount_state_of_ne h heq, (loadAccount_ok h).2.2.2]

theorem loadAccountMut_ok (h : (loadAccountMut address).run s = .ok account s') :
    s'.inner.state address = some account ∧ account.info = s.info address ∧
      s'.info = s.info ∧ s'.database = s.database := by
  obtain ⟨load, s₁, hload, hret⟩ := run_bind_eq_ok.mp h
  cases hret
  exact loadAccount_ok hload

theorem loadAccountMut_error {e : ε} (h : (loadAccountMut address).run s = .error e s') :
    s' = s ∧ s.inner.state address = none := by
  rcases run_bind_eq_error.mp h with hload | ⟨_, _, _, hret⟩
  · exact loadAccount_error hload
  · cases hret

/-! ## Changes of a loaded account -/

theorem touchAccount_state (h : s.inner.state address = some account) :
    (touchAccount address account s).inner.state =
      Function.update s.inner.state address (some { account with isTouched := true }) := by
  unfold touchAccount
  split
  · rename_i htouched
    have heq : { account with isTouched := true } = account := by
      cases account
      simp_all
    rw [heq, ← h, Function.update_eq_self]
  · rfl

theorem touchAccount_info (h : s.inner.state address = some account) :
    (touchAccount address account s).info = s.info := by
  have hinfo := info_of_state h
  unfold touchAccount
  split
  · rfl
  · rw [info_push]
    exact info_setAccount_of_eq hinfo

@[simp] theorem touchAccount_database (s : Journal ε) (address : Address) (account : Account) :
    (touchAccount address account s).database = s.database := by
  unfold touchAccount
  split <;> rfl

theorem setBalance_info (h : s.inner.state address = some account) (balance : U256) :
    (setBalance address account balance s).info =
      Function.update s.info address { account.info with balance := balance } := by
  unfold setBalance
  dsimp only
  split
  · rename_i heq
    have hinfo : ({ account.info with balance := balance } : AccountInfo) = s.info address := by
      rw [info_of_state h, ← heq]
    rw [touchAccount_info h, hinfo, Function.update_eq_self]
  · rw [info_push, info_setAccount, touchAccount_info h]
    rfl

theorem setBalance_state (h : s.inner.state address = some account) (balance : U256) :
    (setBalance address account balance s).inner.state address =
      some { account.setBalance balance with isTouched := true } := by
  unfold setBalance
  dsimp only
  split
  · rename_i heq
    rw [touchAccount_state h, Function.update_self, Account.setBalance, ← heq]
  · rw [state_push, state_setAccount, Function.update_self]

@[simp] theorem setBalance_database (s : Journal ε) (address : Address) (account : Account)
    (balance : U256) : (setBalance address account balance s).database = s.database := by
  unfold setBalance
  dsimp only
  split
  · exact touchAccount_database s address account
  · exact touchAccount_database s address account

/-- A deduction succeeds exactly where the balance covers it. -/
theorem decrBalance_run (h : s.inner.state address = some account) (amount : U256) :
    ∃ s', (decrBalance address amount).run s =
        .ok (decide (amount ≤ account.info.balance)) s' ∧ s'.database = s.database ∧
      s'.info = if amount ≤ account.info.balance then
        Function.update s.info address
          { account.info with balance := account.info.balance - amount }
      else s.info := by
  change ∃ s', decrBalance address amount s = _ ∧ _
  unfold decrBalance modifyAccount
  simp only [h]
  by_cases hle : amount ≤ account.info.balance
  · have hsub : checkedSub account.info.balance amount = some (account.info.balance - amount) :=
      if_pos hle
    refine ⟨setBalance address account (account.info.balance - amount) s, ?_,
      setBalance_database _ _ _ _, ?_⟩
    · rw [hsub, decide_eq_true hle]
    · rw [if_pos hle, setBalance_info h]
  · have hsub : checkedSub account.info.balance amount = none := if_neg hle
    refine ⟨s, ?_, rfl, ?_⟩
    · rw [hsub, decide_eq_false hle]
    · rw [if_neg hle]

/-- A credit that overflows leaves the balance. -/
theorem balanceIncr_ok {amount : U256} (h : (balanceIncr address amount).run s = .ok () s') :
    s'.info = Function.update s.info address ((s.info address).credit amount) ∧
      s'.database = s.database := by
  obtain ⟨load, s₁, hload, hmodify⟩ := run_bind_eq_ok.mp h
  obtain ⟨hstate, hinfo, hsame, hdb⟩ := loadAccount_ok hload
  change modifyAccount address _ () s₁ = _ at hmodify
  simp only [modifyAccount, hstate] at hmodify
  rw [AccountInfo.credit, ← hinfo]
  cases hadd : checkedAdd load.data.info.balance amount with
  | none =>
    rw [hadd] at hmodify
    cases hmodify
    refine ⟨?_, (touchAccount_database _ _ _).trans hdb⟩
    rw [Option.getD_none, touchAccount_info hstate, hsame, hinfo, Function.update_eq_self]
  | some balance =>
    rw [hadd] at hmodify
    cases hmodify
    refine ⟨?_, (setBalance_database _ _ _ _).trans hdb⟩
    rw [Option.getD_some, setBalance_info hstate, hsame]

/-- Bumping the nonce of a loaded account; the last nonce stays. -/
theorem bumpNonce_run (h : s.inner.state address = some account) :
    ∃ bumped s', (bumpNonce address).run s = .ok bumped s' ∧ s'.database = s.database ∧
      s'.inner.state address ≠ none ∧
      s'.info = Function.update s.info address account.info.bump := by
  change ∃ bumped s', bumpNonce address s = _ ∧ _
  unfold bumpNonce modifyAccount
  simp only [h]
  rw [AccountInfo.bump]
  cases hadd : checkedAdd account.info.nonce 1 with
  | none =>
    refine ⟨false, touchAccount address account s, rfl, touchAccount_database _ _ _, ?_, ?_⟩
    · rw [touchAccount_state h]
      simp
    · rw [Option.getD_none, touchAccount_info h, ← info_of_state h, Function.update_eq_self]
  | some nonce =>
    refine ⟨true, _, rfl, touchAccount_database _ _ _, ?_, ?_⟩
    · simp
    · rw [Option.getD_some, info_push, info_setAccount, touchAccount_info h]
      rfl

/-- A touch shows no change. -/
theorem touch_run (s : Journal ε) (address : Address) :
    ∃ s', (touch address).run s = .ok () s' ∧ s'.info = s.info ∧ s'.database = s.database := by
  change ∃ s', touch address s = _ ∧ _
  unfold touch modifyAccount
  cases h : s.inner.state address with
  | none => exact ⟨s, rfl, rfl, rfl⟩
  | some account =>
    exact ⟨_, rfl, touchAccount_info h, touchAccount_database _ _ _⟩

/-! ## Transfers -/

/-- The result of a transfer between loaded accounts, and the account information it
shows: a credit that overflows leaves the debit in place. -/
def transferOutcome (info : Address → AccountInfo) (source target : Address) (amount : U256) :
    Option TransferError × (Address → AccountInfo) :=
  if (info source).balance < amount then (some .outOfFunds, info)
  else if source = target then (none, info)
  else
    let debited := Function.update info source
      { info source with balance := (info source).balance - amount }
    match checkedAdd (info target).balance amount with
    | none => (some .overflowPayment, debited)
    | some sum => (none, Function.update debited target { info target with balance := sum })

theorem transferOutcome_of_lt {info : Address → AccountInfo} {source target : Address}
    {amount : U256} (h : (info source).balance < amount) :
    transferOutcome info source target amount = (some .outOfFunds, info) := if_pos h

theorem transferOutcome_self {info : Address → AccountInfo} {address : Address} {amount : U256}
    (h : ¬(info address).balance < amount) :
    transferOutcome info address address amount = (none, info) := by
  rw [transferOutcome, if_neg h, if_pos rfl]

/-- Transferring nothing shows no change. -/
theorem transferOutcome_zero (info : Address → AccountInfo) (source target : Address) :
    transferOutcome info source target 0 = (none, info) := by
  have hlt : ¬(info source).balance < 0 := Nat.not_lt_zero _
  have hadd : checkedAdd (info target).balance 0 = some (info target).balance :=
    checkedAdd_eq_some.mpr rfl
  have hdebited : Function.update info source
      { info source with balance := (info source).balance - 0 } = info := by
    rw [BitVec.ofNat_eq_ofNat, BitVec.sub_zero, Function.update_eq_self]
  unfold transferOutcome
  rw [if_neg hlt]
  split
  · rfl
  · dsimp only
    rw [hdebited, hadd]
    dsimp only
    rw [Function.update_eq_self]

/-- A transfer succeeds exactly where the source covers it and the target can hold it. -/
theorem transferOutcome_fst_eq_none {info : Address → AccountInfo} {source target : Address}
    {amount : U256} :
    (transferOutcome info source target amount).1 = none ↔
      amount ≤ (info source).balance ∧
        (source = target ∨ (info target).balance.toNat + amount.toNat < 2 ^ 256) := by
  unfold transferOutcome
  by_cases hlt : (info source).balance < amount
  · rw [if_pos hlt]
    refine ⟨fun h => (Option.some_ne_none _ h).elim, fun h => ?_⟩
    exact absurd hlt (BitVec.not_lt.mpr h.1)
  rw [if_neg hlt]
  by_cases heq : source = target
  · rw [if_pos heq]
    exact ⟨fun _ => ⟨BitVec.not_lt.mp hlt, Or.inl heq⟩, fun _ => rfl⟩
  rw [if_neg heq]
  dsimp only
  cases hadd : checkedAdd (info target).balance amount with
  | none =>
    refine ⟨fun h => (Option.some_ne_none _ h).elim, fun h => ?_⟩
    exact absurd (h.2.resolve_left heq) (not_lt.mpr (checkedAdd_eq_none.mp hadd))
  | some sum =>
    refine ⟨fun _ => ⟨BitVec.not_lt.mp hlt, Or.inr ?_⟩, fun _ => rfl⟩
    rw [← checkedAdd_eq_some.mp hadd]
    exact sum.isLt

/-- Where the target can hold the amount, a refused transfer changes nothing. -/
theorem transferOutcome_snd_of_ne_none {info : Address → AccountInfo}
    {source target : Address} {amount : U256}
    (hroom : source = target ∨ (info target).balance.toNat + amount.toNat < 2 ^ 256)
    (h : (transferOutcome info source target amount).1 ≠ none) :
    (transferOutcome info source target amount).2 = info := by
  by_cases hlt : (info source).balance < amount
  · rw [transferOutcome_of_lt hlt]
  · exact absurd (transferOutcome_fst_eq_none.mpr ⟨BitVec.not_lt.mp hlt, hroom⟩) h

/-- What a transfer does to the balances. -/
structure Transferred (before after : Address → U256) (source target : Address)
    (amount : U256) : Prop where
  self : source = target → after = before
  debit : source ≠ target → (after source).toNat + amount.toNat = (before source).toNat
  credit : source ≠ target → (after target).toNat = (before target).toNat + amount.toNat
  other : ∀ a, a ≠ source → a ≠ target → after a = before a

/-- A transfer keeps the sum of all balances. -/
theorem Transferred.total_eq {before after : Address → U256} {source target : Address}
    {amount : U256} (h : Transferred before after source target amount) :
    Ledger.total after = Ledger.total before := by
  by_cases heq : source = target
  · rw [h.self heq]
  have hafter : after =
      Function.update (Function.update before source (after source)) target (after target) := by
    funext a
    by_cases htarget : a = target
    · rw [htarget, Function.update_self]
    rw [Function.update_of_ne htarget]
    by_cases hsource : a = source
    · rw [hsource, Function.update_self]
    rw [Function.update_of_ne hsource, h.other a hsource htarget]
  rw [hafter]
  exact Ledger.total_move heq (h.debit heq) (h.credit heq)

/-- A transfer that succeeds moves the amount. -/
theorem transferOutcome_transferred {info : Address → AccountInfo} {source target : Address}
    {amount : U256} (h : (transferOutcome info source target amount).1 = none) :
    Transferred (fun a => (info a).balance)
      (fun a => ((transferOutcome info source target amount).2 a).balance)
      source target amount := by
  obtain ⟨hle, hroom⟩ := transferOutcome_fst_eq_none.mp h
  by_cases heq : source = target
  · subst heq
    rw [transferOutcome_self (BitVec.not_lt.mpr hle)]
    exact ⟨fun _ => rfl, fun hne => absurd rfl hne, fun hne => absurd rfl hne, fun _ _ _ => rfl⟩
  have hadd : checkedAdd (info target).balance amount =
      some ((info target).balance + amount) := if_pos (hroom.resolve_left heq)
  rw [transferOutcome, if_neg (BitVec.not_lt.mpr hle), if_neg heq]
  simp only [hadd]
  refine ⟨fun h => absurd h heq, fun _ => ?_, fun _ => ?_, fun a hsource htarget => ?_⟩
  · rw [Function.update_of_ne heq, Function.update_self]
    dsimp only
    rw [BitVec.toNat_sub_of_le hle]
    exact Nat.sub_add_cancel hle
  · rw [Function.update_self]
    exact checkedAdd_eq_some.mp hadd
  · rw [Function.update_of_ne htarget, Function.update_of_ne hsource]

/-- A transfer changes no nonce. -/
theorem transferOutcome_nonce (info : Address → AccountInfo) (source target : Address)
    (amount : U256) (a : Address) :
    ((transferOutcome info source target amount).2 a).nonce = (info a).nonce := by
  unfold transferOutcome
  split
  · rfl
  split
  · rfl
  dsimp only
  have hdebited : (Function.update info source
      { info source with balance := (info source).balance - amount } a).nonce =
        (info a).nonce := by
    by_cases ha : a = source
    · subst ha
      rw [Function.update_self]
    · rw [Function.update_of_ne ha]
  split
  · exact hdebited
  · dsimp only
    by_cases ha : a = target
    · subst ha
      rw [Function.update_self]
    · rw [Function.update_of_ne ha]
      exact hdebited

theorem transferLoaded_run {source target : Address} {debited credited : Account}
    (hsource : s.inner.state source = some debited)
    (htarget : s.inner.state target = some credited) (amount : U256) :
    ∃ r s', (transferLoaded source target amount).run s = .ok r s' ∧
      s'.database = s.database ∧ (r, s'.info) = transferOutcome s.info source target amount := by
  have hinfoSource := info_of_state hsource
  have hinfoTarget := info_of_state htarget
  change ∃ r s', transferLoaded source target amount s = _ ∧ _
  unfold transferLoaded
  by_cases heq : source = target
  · subst heq
    rw [if_pos rfl]
    by_cases hlt : s.balance source < amount
    · rw [if_pos hlt]
      exact ⟨_, _, rfl, rfl, (transferOutcome_of_lt hlt).symm⟩
    · rw [if_neg hlt]
      exact ⟨_, _, rfl, rfl, (transferOutcome_self hlt).symm⟩
  rw [if_neg heq]
  by_cases hzero : amount = 0
  · subst hzero
    rw [if_pos rfl, htarget, transferOutcome_zero]
    exact ⟨_, _, rfl, touchAccount_database _ _ _, by rw [touchAccount_info htarget]⟩
  rw [if_neg hzero]
  simp only [hsource, htarget]
  by_cases hlt : debited.info.balance < amount
  · have hsub : checkedSub debited.info.balance amount = none := checkedSub_eq_none.mpr hlt
    rw [hsub]
    refine ⟨_, _, rfl, touchAccount_database _ _ _, ?_⟩
    rw [touchAccount_info hsource, transferOutcome_of_lt (hinfoSource ▸ hlt)]
  have hsub : checkedSub debited.info.balance amount = some (debited.info.balance - amount) :=
    if_pos (BitVec.not_lt.mp hlt)
  rw [hsub]
  -- the account of the source is written back before the one of the target is touched
  have htouched : ((touchAccount source debited s).setAccount source
      { debited.setBalance (debited.info.balance - amount) with
        isTouched := true }).inner.state target = some credited := by
    rw [state_setAccount, Function.update_of_ne (Ne.symm heq), touchAccount_state hsource,
      Function.update_of_ne (Ne.symm heq), htarget]
  have hdebited : ((touchAccount source debited s).setAccount source
      { debited.setBalance (debited.info.balance - amount) with isTouched := true }).info =
        Function.update s.info source
          { s.info source with balance := (s.info source).balance - amount } := by
    rw [info_setAccount, touchAccount_info hsource, hinfoSource]
    rfl
  unfold transferOutcome
  rw [if_neg (hinfoSource ▸ hlt), if_neg heq, hinfoTarget]
  dsimp only
  cases hadd : checkedAdd credited.info.balance amount with
  | none =>
    refine ⟨_, _, rfl, ?_, ?_⟩
    · rw [touchAccount_database, database_setAccount, touchAccount_database]
    · rw [touchAccount_info htouched, hdebited]
  | some sum =>
    refine ⟨_, _, rfl, ?_, ?_⟩
    · rw [database_push, database_setAccount, touchAccount_database, database_setAccount,
        touchAccount_database]
    · rw [info_push, info_setAccount, touchAccount_info htouched, hdebited]
      rfl

/-- A transfer that returns has loaded both accounts, which shows no change. -/
theorem transfer_ok {source target : Address} {amount : U256} {r : Option TransferError}
    (h : (transfer source target amount).run s = .ok r s') :
    (r, s'.info) = transferOutcome s.info source target amount := by
  obtain ⟨debited, s₁, hsource, h₁⟩ := run_bind_eq_ok.mp h
  obtain ⟨credited, s₂, htarget, h₂⟩ := run_bind_eq_ok.mp h₁
  obtain ⟨hstate₁, -, hsame₁, -⟩ := loadAccount_ok hsource
  obtain ⟨hstate₂, -, hsame₂, -⟩ := loadAccount_ok htarget
  obtain ⟨account, hcached⟩ := loadAccount_keeps htarget hstate₁
  obtain ⟨r', s₃, hrun, -, hinfo⟩ := transferLoaded_run hcached hstate₂ amount
  cases hrun.symm.trans h₂
  rw [hinfo, hsame₂, hsame₁]

theorem transfer_nonce {source target : Address} {amount : U256} {r : Option TransferError}
    (h : (transfer source target amount).run s = .ok r s') (a : Address) :
    s'.nonce a = s.nonce a := by
  have hinfo := congrArg Prod.snd (transfer_ok h)
  rw [nonce, nonce, ← transferOutcome_nonce s.info source target amount a, ← hinfo]

/-- A transfer returns only where both accounts are readable. -/
theorem readable_of_transfer_ok {source target : Address} {amount : U256}
    {r : Option TransferError} (h : (transfer source target amount).run s = .ok r s') :
    s.Readable source ∧ s.Readable target := by
  obtain ⟨debited, s₁, hsource, h₁⟩ := run_bind_eq_ok.mp h
  obtain ⟨credited, s₂, htarget, -⟩ := run_bind_eq_ok.mp h₁
  exact ⟨readable_of_loadAccount_ok hsource,
    (readable_loadAccount hsource).mp (readable_of_loadAccount_ok htarget)⟩

/-- A transfer that fails shows no change. -/
theorem transfer_error {source target : Address} {amount : U256} {e : ε}
    (h : (transfer source target amount).run s = .error e s') :
    s'.info = s.info ∧ ¬(s.Readable source ∧ s.Readable target) := by
  rcases run_bind_eq_error.mp h with hsource | ⟨debited, s₁, hsource, h₁⟩
  · rw [(loadAccount_error hsource).1]
    exact ⟨rfl, fun hreadable => not_readable_of_loadAccount_error hsource hreadable.1⟩
  obtain ⟨hstate₁, -, hsame₁, -⟩ := loadAccount_ok hsource
  rcases run_bind_eq_error.mp h₁ with htarget | ⟨credited, s₂, htarget, h₂⟩
  · rw [(loadAccount_error htarget).1, hsame₁]
    refine ⟨rfl, fun hreadable => not_readable_of_loadAccount_error htarget ?_⟩
    exact (readable_loadAccount hsource).mpr hreadable.2
  obtain ⟨hstate₂, -, hsame₂, -⟩ := loadAccount_ok htarget
  obtain ⟨account, hcached⟩ := loadAccount_keeps htarget hstate₁
  obtain ⟨r', s₃, hrun, -⟩ := transferLoaded_run hcached hstate₂ amount
  cases hrun.symm.trans h₂

/-! ## Checkpoints -/

/-- The journal one call deeper. -/
def deeper (s : Journal ε) : Journal ε :=
  { s with inner := { s.inner with depth := s.inner.depth + 1 } }

theorem run_checkpoint (s : Journal ε) :
    checkpoint.run s = .ok ⟨s.inner.journal.length⟩ s.deeper := rfl

/-- The journal after a revert to its first `n` entries. -/
def revertTo (s : Journal ε) (n : Nat) : Journal ε :=
  { s with inner := { s.inner with
      depth := s.inner.depth - 1
      state := undoAll (s.inner.journal.drop n) s.inner.state
      transientStorage := undoAllTransient (s.inner.journal.drop n) s.inner.transientStorage
      journal := s.inner.journal.take n } }

@[simp] theorem undoAllTransient_nil (storage : Address → U256 → U256) :
    undoAllTransient [] storage = storage := rfl

@[simp] theorem undoAllTransient_singleton (entry : JournalEntry)
    (storage : Address → U256 → U256) :
    undoAllTransient [entry] storage = undoTransient entry storage := rfl

theorem undoAllTransient_append (entries entries' : List JournalEntry)
    (storage : Address → U256 → U256) :
    undoAllTransient (entries ++ entries') storage =
      undoAllTransient entries (undoAllTransient entries' storage) :=
  List.foldr_append ..

end Journal

end ScrollRevm
