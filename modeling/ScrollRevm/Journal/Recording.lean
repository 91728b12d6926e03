import ScrollRevm.Journal.Accounts

/-!
# The log restores balances and nonces

What undoing the log does to the balance and the nonce of an account, and whether the
account is touched, is read off the entries alone. An operation is recorded where undoing
its entries brings back the funds of before; a transaction of recorded operations can so be
discarded without a trace, and a committed one reaches the database whole.
-/

namespace ScrollRevm

open FixedWidth StateResult

/-- The balance and the nonce of an account. -/
structure Funds where
  balance : U256
  nonce : U64
  deriving DecidableEq

def AccountInfo.funds (info : AccountInfo) : Funds := ⟨info.balance, info.nonce⟩

/-- The funds of an account and the mark that it was touched. -/
@[ext] structure FundsView where
  funds : Funds
  touched : Bool

/-- Undoing entries keeps an account in the journal. -/
theorem Journal.undoAll_eq_none (entries : List JournalEntry) (state : Address → Option Account)
    (address : Address) : undoAll entries state address = none ↔ state address = none := by
  induction entries with
  | nil => rfl
  | cons entry rest ih => exact Option.map_eq_none_iff.trans ih

namespace FundsView

def setBalance (self : FundsView) (balance : U256) : FundsView :=
  { self with funds := { self.funds with balance := balance } }

def setNonce (self : FundsView) (nonce : U64) : FundsView :=
  { self with funds := { self.funds with nonce := nonce } }

/-- What undoing an entry does to the view of an account. -/
def undo (address : Address) (entry : JournalEntry) (self : FundsView) : FundsView :=
  match entry with
  | .accountTouched touched =>
    if touched = address ∧ touched ≠ precompile3 then { self with touched := false } else self
  | .balanceChange changed oldBalance =>
    if changed = address then self.setBalance oldBalance else self
  | .balanceTransfer source target balance =>
    if source = address then self.setBalance (self.funds.balance + balance)
    else if target = address then self.setBalance (self.funds.balance - balance)
    else self
  | .nonceChange changed previousNonce =>
    if changed = address then self.setNonce previousNonce else self
  | .accountCreated created => if created = address then self.setNonce 0 else self
  | .accountWarmed _ | .storageChanged _ _ _ | .storageWarmed _ _
  | .transientStorageChange _ _ _ | .codeChange _ => self

/-- Undoes entries, the last one first. -/
def undoAll (address : Address) (entries : List JournalEntry) (self : FundsView) : FundsView :=
  entries.foldr (undo address) self

@[simp] theorem undoAll_append (address : Address) (entries entries' : List JournalEntry)
    (self : FundsView) :
    undoAll address (entries ++ entries') self =
      undoAll address entries (undoAll address entries' self) :=
  List.foldr_append

/-- The entry records nothing of the account. -/
def Neutral (address : Address) (entry : JournalEntry) : Prop :=
  ∀ self : FundsView, undo address entry self = self

/-- The views show the same funds, and the second is touched only if the first is: the
touch of one precompile survives a revert. -/
structure Covers (view other : FundsView) : Prop where
  funds_eq : view.funds = other.funds
  touched_of : view.touched = false → other.touched = false

theorem Covers.refl (view : FundsView) : view.Covers view := ⟨rfl, id⟩

theorem Covers.trans {view other third : FundsView} (h : view.Covers other)
    (h' : other.Covers third) : view.Covers third :=
  ⟨h.funds_eq.trans h'.funds_eq, fun htouched => h'.touched_of (h.touched_of htouched)⟩

theorem Covers.undo {view other : FundsView} (h : view.Covers other) (address : Address)
    (entry : JournalEntry) : (view.undo address entry).Covers (other.undo address entry) := by
  obtain ⟨hfunds, htouched⟩ := h
  unfold FundsView.undo
  cases entry with
  | accountTouched touched =>
    dsimp only
    split
    · exact ⟨hfunds, fun _ => rfl⟩
    · exact ⟨hfunds, htouched⟩
  | balanceChange changed oldBalance =>
    dsimp only
    split
    · exact ⟨by rw [setBalance, setBalance, hfunds], htouched⟩
    · exact ⟨hfunds, htouched⟩
  | balanceTransfer source target balance =>
    dsimp only
    split
    · exact ⟨by rw [setBalance, setBalance, hfunds], htouched⟩
    · split
      · exact ⟨by rw [setBalance, setBalance, hfunds], htouched⟩
      · exact ⟨hfunds, htouched⟩
  | nonceChange changed previousNonce =>
    dsimp only
    split
    · exact ⟨by rw [setNonce, setNonce, hfunds], htouched⟩
    · exact ⟨hfunds, htouched⟩
  | accountCreated created =>
    dsimp only
    split
    · exact ⟨by rw [setNonce, setNonce, hfunds], htouched⟩
    · exact ⟨hfunds, htouched⟩
  | accountWarmed | storageChanged | storageWarmed | transientStorageChange | codeChange =>
    exact ⟨hfunds, htouched⟩

theorem Covers.undoAll {view other : FundsView} (h : view.Covers other) (address : Address)
    (entries : List JournalEntry) :
    (view.undoAll address entries).Covers (other.undoAll address entries) := by
  induction entries with
  | nil => exact h
  | cons entry rest ih => exact ih.undo address entry

/-- The view of a journaled account over a database. -/
def ofAccount {ε : Type} (database : Database ε) (address : Address) (account : Option Account) :
    FundsView where
  funds := (account.elim (database.info address) Account.info).funds
  touched := account.elim false Account.isTouched

/-- Undoing an entry in an account undoes it in the view; only an account that is in the
journal has entries. -/
theorem ofAccount_undo {ε : Type} (database : Database ε) {address : Address}
    {entry : JournalEntry} {account : Option Account}
    (h : Neutral address entry ∨ account ≠ none) :
    ofAccount database address (account.map (Journal.undoAccount entry address)) =
      (ofAccount database address account).undo address entry := by
  cases account with
  | none => exact (h.resolve_right (fun hne => hne rfl) _).symm
  | some account =>
    unfold FundsView.undo Journal.undoAccount
    cases entry with
    | storageChanged | storageWarmed | accountWarmed | accountTouched | balanceChange
    | nonceChange | accountCreated | codeChange =>
      dsimp only [Option.map_some]
      split <;> rfl
    | transientStorageChange => rfl
    | balanceTransfer =>
      dsimp only [Option.map_some]
      split
      · rfl
      · split <;> rfl

/-- Undoing entries in an account undoes them in the view. -/
theorem ofAccount_undoAll {ε : Type} (database : Database ε) {address : Address}
    (entries : List JournalEntry) (state : Address → Option Account)
    (h : ∀ entry ∈ entries, Neutral address entry ∨ state address ≠ none) :
    ofAccount database address (Journal.undoAll entries state address) =
      (ofAccount database address (state address)).undoAll address entries := by
  induction entries with
  | nil => rfl
  | cons entry rest ih =>
    have hrest := ih fun entry hentry => h entry (List.mem_cons_of_mem _ hentry)
    have hcached : Neutral address entry ∨ Journal.undoAll rest state address ≠ none :=
      (h entry List.mem_cons_self).imp_right fun hne hnone =>
        hne ((Journal.undoAll_eq_none rest state address).mp hnone)
    exact (ofAccount_undo database hcached).trans (congrArg (undo address entry) hrest)

end FundsView

namespace Journal

variable {ε : Type} {s s' t : Journal ε} {address other : Address} {account : Account}

/-- The funds of an account. -/
def funds (s : Journal ε) (address : Address) : Funds := (s.info address).funds

def fundsView (s : Journal ε) (address : Address) : FundsView :=
  ⟨s.funds address, s.touched address⟩

theorem fundsView_eq (s : Journal ε) (address : Address) :
    s.fundsView address = FundsView.ofAccount s.database address (s.inner.state address) := by
  unfold fundsView funds info touched FundsView.ofAccount
  cases s.inner.state address <;> rfl

theorem fundsView_of_state (h : s.inner.state address = some account) :
    s.fundsView address = ⟨account.info.funds, account.isTouched⟩ := by
  rw [fundsView_eq, h]
  rfl

/-- An untouched account shows the funds of the database. -/
def FundsClean (s : Journal ε) (address : Address) : Prop :=
  s.touched address = false → s.funds address = (s.database.info address).funds

/-- The second journal was reached from the first by recorded changes: undoing the new
entries shows the funds of before. -/
structure Recorded (address : Address) (s s' : Journal ε) : Prop where
  database_eq : s'.database = s.database
  entries : ∃ new, s'.inner.journal = s.inner.journal ++ new ∧
    ((s'.fundsView address).undoAll address new).Covers (s.fundsView address) ∧
    ∀ entry ∈ new, FundsView.Neutral address entry ∨ s'.inner.state address ≠ none
  cached : s.inner.state address ≠ none → s'.inner.state address ≠ none
  clean : s.FundsClean address → s'.FundsClean address

/-- A change that shows the same account and records nothing of it is recorded. -/
theorem Recorded.of_eq (hdatabase : s'.database = s.database) {new : List JournalEntry}
    (hjournal : s'.inner.journal = s.inner.journal ++ new)
    (hneutral : ∀ entry ∈ new, FundsView.Neutral address entry)
    (hview : s'.fundsView address = s.fundsView address)
    (hcached : s.inner.state address ≠ none → s'.inner.state address ≠ none) :
    Recorded address s s' := by
  have hundo : (s'.fundsView address).undoAll address new = s'.fundsView address := by
    clear hjournal
    induction new with
    | nil => rfl
    | cons entry rest ih =>
      have hrest := ih fun entry hentry => hneutral entry (List.mem_cons_of_mem _ hentry)
      exact (congrArg _ hrest).trans (hneutral entry List.mem_cons_self _)
  refine ⟨hdatabase, ⟨new, hjournal, ?_, fun entry hentry => Or.inl (hneutral entry hentry)⟩,
    hcached, fun hclean htouched => ?_⟩
  · rw [hundo, hview]
    exact .refl _
  · have hfunds : s'.funds address = s.funds address := congrArg FundsView.funds hview
    have hmark : s'.touched address = s.touched address := congrArg FundsView.touched hview
    rw [hfunds, hdatabase]
    exact hclean (hmark.symm.trans htouched)

theorem Recorded.refl (address : Address) (s : Journal ε) : Recorded address s s :=
  .of_eq rfl (List.append_nil _).symm (fun _ h => nomatch h) rfl id

theorem Recorded.trans (h : Recorded address s s') (h' : Recorded address s' t) :
    Recorded address s t := by
  obtain ⟨new, hjournal, hundo, hnew⟩ := h.entries
  obtain ⟨new', hjournal', hundo', hnew'⟩ := h'.entries
  refine ⟨h'.database_eq.trans h.database_eq, ⟨new ++ new', ?_, ?_, ?_⟩,
    fun hcached => h'.cached (h.cached hcached), fun hclean => h'.clean (h.clean hclean)⟩
  · rw [hjournal', hjournal, List.append_assoc]
  · rw [FundsView.undoAll_append]
    exact (hundo'.undoAll address new).trans hundo
  · intro entry hentry
    rcases List.mem_append.mp hentry with hold | hlater
    · exact (hnew entry hold).imp_right h'.cached
    · exact hnew' entry hlater

/-! ## Changes of one account -/

/-- Recording an entry that is neutral. -/
theorem recorded_push (s : Journal ε) {entry : JournalEntry}
    (h : FundsView.Neutral address entry) : Recorded address s (s.push entry) := by
  refine .of_eq rfl rfl ?_ rfl id
  intro entry' hentry
  rw [List.mem_singleton.mp hentry]
  exact h

/-- Replacing another account. -/
theorem recorded_setAccount_of_ne (s : Journal ε) (account : Account) (h : address ≠ other) :
    Recorded address s (s.setAccount other account) := by
  have hstate : (s.setAccount other account).inner.state address = s.inner.state address := by
    rw [state_setAccount, Function.update_of_ne h]
  refine .of_eq rfl (List.append_nil _).symm (fun _ h => nomatch h) ?_ fun hcached => ?_
  · rw [fundsView_eq, hstate]
    exact (fundsView_eq s address).symm
  · rwa [hstate]

/-- Replacing an account by one with its funds and mark. -/
theorem recorded_setAccount (hfunds : account.info.funds = s.funds other)
    (htouched : account.isTouched = s.touched other) :
    Recorded address s (s.setAccount other account) := by
  by_cases hother : address = other
  · subst hother
    have hstate : (s.setAccount address account).inner.state address = some account := by
      rw [state_setAccount, Function.update_self]
    refine .of_eq rfl (List.append_nil _).symm (fun _ h => nomatch h) ?_ fun _ => ?_
    · rw [fundsView_of_state hstate, hfunds, htouched]
      rfl
    · rw [hstate]
      exact Option.some_ne_none account
  · exact recorded_setAccount_of_ne s account hother

/-- Replacing a cached account and recording how to undo it. -/
theorem recorded_change {account' : Account} {entry : JournalEntry}
    (h : s.inner.state other = some account) (htouched : account'.isTouched = true)
    (hundo : (FundsView.undo other entry ⟨account'.info.funds, true⟩).Covers
      ⟨account.info.funds, account.isTouched⟩)
    (hneutral : ∀ address, address ≠ other → FundsView.Neutral address entry) :
    Recorded address s ((s.setAccount other account').push entry) := by
  by_cases hother : address = other
  · subst hother
    have hstate : ((s.setAccount address account').push entry).inner.state address =
        some account' := by
      rw [state_push, state_setAccount, Function.update_self]
    refine ⟨rfl, ⟨[entry], rfl, ?_, fun _ _ => Or.inr ?_⟩, fun _ => ?_, fun _ hclean => ?_⟩
    · rw [fundsView_of_state hstate, fundsView_of_state h, htouched]
      exact hundo
    · rw [hstate]
      exact Option.some_ne_none account'
    · rw [hstate]
      exact Option.some_ne_none account'
    · have hmark := congrArg FundsView.touched (fundsView_of_state hstate)
      have hfalse : true = false := htouched.symm.trans (hmark.symm.trans hclean)
      cases hfalse
  · exact (recorded_setAccount_of_ne s account' hother).trans
      (recorded_push _ (hneutral address hother))

/-- Touching a cached account is recorded. -/
theorem recorded_touchAccount (h : s.inner.state other = some account) :
    Recorded address s (touchAccount other account s) := by
  unfold touchAccount
  split
  · exact .refl address s
  · rename_i huntouched
    rw [Bool.not_eq_true] at huntouched
    refine recorded_change h rfl ?_ fun a ha => ?_
    · unfold FundsView.undo
      dsimp only
      rw [huntouched]
      split
      · exact .refl _
      · exact ⟨rfl, fun _ => rfl⟩
    · exact fun _ => if_neg fun h => ha h.1.symm

/-- Changing the funds of a touched account is recorded. -/
theorem recorded_changeTouched {account' : Account} {entry : JournalEntry}
    (h : s.inner.state other = some account) (hmark : account.isTouched = true)
    (htouched : account'.isTouched = true)
    (hundo : FundsView.undo other entry ⟨account'.info.funds, true⟩ =
      ⟨account.info.funds, true⟩)
    (hneutral : ∀ address, address ≠ other → FundsView.Neutral address entry) :
    Recorded address s ((s.setAccount other account').push entry) := by
  refine recorded_change h htouched ?_ hneutral
  rw [hundo, hmark]
  exact .refl _

/-- Setting a balance of a cached account is recorded. -/
theorem recorded_setBalance (h : s.inner.state other = some account) (balance : U256) :
    Recorded address s (setBalance other account balance s) := by
  have htouch : Recorded address s (touchAccount other account s) := recorded_touchAccount h
  unfold setBalance
  dsimp only
  split
  · exact htouch
  · have hcached := congrFun (touchAccount_state h) other
    rw [Function.update_self] at hcached
    refine htouch.trans (recorded_changeTouched hcached rfl rfl ?_ fun a ha => ?_)
    · exact if_pos rfl
    · exact fun _ => if_neg (Ne.symm ha)

/-! ## Operations on accounts -/

/-- A computation whose exits are recorded. -/
abbrev IsRecorded {ε' α : Type} (address : Address) (x : EStateM ε' (Journal ε) α) : Prop :=
  Exits (Recorded address) x

theorem IsRecorded.pure {ε' α : Type} (a : α) :
    IsRecorded address (Pure.pure a : EStateM ε' (Journal ε) α) :=
  Exits.pure (Recorded.refl address) a

theorem IsRecorded.bind {ε' α β : Type} {x : EStateM ε' (Journal ε) α}
    {f : α → EStateM ε' (Journal ε) β} (hx : IsRecorded address x)
    (hf : ∀ a, IsRecorded address (f a)) : IsRecorded address (x >>= f) :=
  Exits.bind (fun _ _ _ h h' => h.trans h') hx hf

theorem isRecorded_modifyAccount {ε α : Type} {f : Account → Journal ε → α × Journal ε}
    {default : α}
    (h : ∀ account s, s.inner.state other = some account → Recorded address s (f account s).2) :
    IsRecorded address (modifyAccount other f default) := by
  intro s
  change Recorded address s (exitState (modifyAccount other f default s))
  unfold modifyAccount
  cases hstate : s.inner.state other with
  | some account => exact h account s hstate
  | none => exact .refl address s

theorem isRecorded_loadAccount (address other : Address) :
    IsRecorded address (loadAccount (ε := ε) other) := by
  intro s
  have hread {info : Option AccountInfo} (hstate : s.inner.state other = none)
      (hbasic : s.database.basic other = .ok info) :
      Recorded address s
        (s.setAccount other (.loaded (info.getD {}) s.inner.transactionId)) := by
    refine recorded_setAccount (congrArg AccountInfo.funds (info_of_basic hstate hbasic)).symm ?_
    rw [touched, hstate]
    rfl
  cases hrun : (loadAccount other).run s with
  | error e s' =>
    obtain ⟨rfl, -⟩ := loadAccount_error hrun
    exact .refl address s'
  | ok load s' =>
    cases loads_of_run hrun with
    | accessed => exact .refl address s
    | marked hstate =>
      refine .trans (recorded_setAccount ?_ ?_) (recorded_push _ fun _ => rfl)
      · exact (congrArg AccountInfo.funds (info_of_state hstate)).symm
      · rw [touched, hstate]
        rfl
    | readCold hstate hbasic => exact (hread hstate hbasic).trans (recorded_push _ fun _ => rfl)
    | readWarm hstate hbasic => exact hread hstate hbasic

theorem isRecorded_loadAccountMut (address other : Address) :
    IsRecorded address (loadAccountMut (ε := ε) other) :=
  (isRecorded_loadAccount address other).bind fun _ => .pure _

theorem isRecorded_touch (address other : Address) :
    IsRecorded address (touch (ε := ε) other) :=
  isRecorded_modifyAccount fun _ _ h => recorded_touchAccount h

theorem isRecorded_decrBalance (address other : Address) (amount : U256) :
    IsRecorded address (decrBalance (ε := ε) other amount) := by
  refine isRecorded_modifyAccount fun account s h => ?_
  cases checkedSub account.info.balance amount with
  | some balance => exact recorded_setBalance h balance
  | none => exact .refl address s

theorem isRecorded_balanceIncr (address other : Address) (amount : U256) :
    IsRecorded address (balanceIncr (ε := ε) other amount) := by
  refine (isRecorded_loadAccount address other).bind fun _ => ?_
  refine isRecorded_modifyAccount fun account s h => ?_
  cases checkedAdd account.info.balance amount with
  | some balance => exact recorded_setBalance h balance
  | none => exact recorded_touchAccount h

theorem isRecorded_bumpNonce (address other : Address) :
    IsRecorded address (bumpNonce (ε := ε) other) := by
  refine isRecorded_modifyAccount fun account s h => ?_
  have htouch : Recorded address s (touchAccount other account s) := recorded_touchAccount h
  dsimp only
  cases checkedAdd account.info.nonce 1 with
  | none => exact htouch
  | some nonce =>
    have hcached := congrFun (touchAccount_state h) other
    rw [Function.update_self] at hcached
    refine htouch.trans (recorded_changeTouched hcached rfl rfl ?_ fun a ha => ?_)
    · exact if_pos rfl
    · exact fun _ => if_neg (Ne.symm ha)

/-- Touching an account and replacing another one can be exchanged. -/
theorem touchAccount_setAccount (s : Journal ε) {account' : Account} (h : other ≠ address) :
    touchAccount other account (s.setAccount address account') =
      (touchAccount other account s).setAccount address account' := by
  unfold touchAccount
  split
  · rfl
  · unfold setAccount push
    simp only [Function.update_comm (Ne.symm h)]

/-- Moving an amount between two touched accounts is recorded by one entry. -/
theorem recorded_move (address : Address) {source target : Address}
    {debited credited : Account} {amount rest : U256}
    (hne : source ≠ target) (hsource : s.inner.state source = some debited)
    (htarget : s.inner.state target = some credited) (hdebited : debited.isTouched = true)
    (hcredited : credited.isTouched = true) (hrest : rest + amount = debited.info.balance) :
    Recorded address s
      (((s.setAccount source { debited.setBalance rest with isTouched := true }).setAccount target
        { credited.setBalance (credited.info.balance + amount) with isTouched := true }).push
          (.balanceTransfer source target amount)) := by
  have hstate (a : Address) : (((s.setAccount source
      { debited.setBalance rest with isTouched := true }).setAccount target
        { credited.setBalance (credited.info.balance + amount) with isTouched := true }).push
          (.balanceTransfer source target amount)).inner.state a =
      if a = target then
        some { credited.setBalance (credited.info.balance + amount) with isTouched := true }
      else if a = source then some { debited.setBalance rest with isTouched := true }
      else s.inner.state a := by
    rw [state_push, state_setAccount, Function.update_apply, state_setAccount,
      Function.update_apply]
  by_cases ha : address = target
  · subst ha
    have hcached := hstate address
    rw [if_pos rfl] at hcached
    refine ⟨rfl, ⟨[.balanceTransfer source address amount], rfl, ?_, fun _ _ => Or.inr ?_⟩,
      fun _ => ?_, fun _ hclean => ?_⟩
    · rw [fundsView_of_state hcached, fundsView_of_state htarget, hcredited]
      change FundsView.Covers (if source = address then _ else if address = address then _ else _) _
      rw [if_neg hne, if_pos rfl]
      refine ⟨?_, id⟩
      change (⟨credited.info.balance + amount - amount, _⟩ : Funds) = credited.info.funds
      rw [BitVec.add_sub_cancel]
      rfl
    · rw [hcached]
      exact Option.some_ne_none _
    · rw [hcached]
      exact Option.some_ne_none _
    · rw [touched, hcached] at hclean
      cases hclean
  by_cases hb : address = source
  · subst hb
    have hcached := hstate address
    rw [if_neg hne, if_pos rfl] at hcached
    refine ⟨rfl, ⟨[.balanceTransfer address target amount], rfl, ?_, fun _ _ => Or.inr ?_⟩,
      fun _ => ?_, fun _ hclean => ?_⟩
    · rw [fundsView_of_state hcached, fundsView_of_state hsource, hdebited]
      change FundsView.Covers (if address = address then _ else _) _
      rw [if_pos rfl]
      refine ⟨?_, id⟩
      change (⟨rest + amount, _⟩ : Funds) = debited.info.funds
      rw [hrest]
      rfl
    · rw [hcached]
      exact Option.some_ne_none _
    · rw [hcached]
      exact Option.some_ne_none _
    · rw [touched, hcached] at hclean
      cases hclean
  · refine (recorded_setAccount_of_ne s _ hb).trans ((recorded_setAccount_of_ne _ _ ha).trans
      (recorded_push _ fun view => ?_))
    change (if source = address then _ else if target = address then _ else _) = view
    rw [if_neg (Ne.symm hb), if_neg (Ne.symm ha)]

/-- A transfer is recorded where the target can hold the amount. -/
theorem recorded_transferLoaded {source target : Address} {amount : U256}
    (hroom : source ≠ target → amount ≤ s.balance source →
      (s.balance target).toNat + amount.toNat < 2 ^ 256) :
    Recorded address s (exitState ((transferLoaded source target amount).run s)) := by
  change Recorded address s (exitState (transferLoaded source target amount s))
  unfold transferLoaded
  split
  · split <;> exact .refl address s
  rename_i hne
  split
  · cases hstate : s.inner.state target with
    | some account => exact recorded_touchAccount hstate
    | none => exact .refl address s
  cases hsource : s.inner.state source with
  | none => exact .refl address s
  | some debited =>
    cases htarget : s.inner.state target with
    | none => exact .refl address s
    | some credited =>
      have hfirst : Recorded address s (touchAccount source debited s) :=
        recorded_touchAccount hsource
      dsimp only
      cases hsub : checkedSub debited.info.balance amount with
      | none => exact hfirst
      | some rest =>
        have hrest : rest + amount = debited.info.balance := by
          have hnat := checkedSub_eq_some.mp hsub
          exact BitVec.eq_of_toNat_eq (by rw [BitVec.toNat_add]; omega)
        have hle : amount ≤ debited.info.balance := by
          have hnat := checkedSub_eq_some.mp hsub
          rw [BitVec.le_def]
          omega
        have hadd : checkedAdd credited.info.balance amount =
            some (credited.info.balance + amount) := by
          rw [balance, balance, info_of_state htarget, info_of_state hsource] at hroom
          exact if_pos (hroom hne hle)
        have htouchedTarget : (touchAccount source debited s).inner.state target =
            some credited := by
          rw [touchAccount_state hsource, Function.update_of_ne (Ne.symm hne), htarget]
        have hstates := touchAccount_state htouchedTarget
        have hcredited := congrFun hstates target
        have hdebited := congrFun hstates source
        rw [Function.update_self] at hcredited
        rw [Function.update_of_ne hne, touchAccount_state hsource, Function.update_self] at hdebited
        have hmove := recorded_move address hne hdebited hcredited rfl rfl hrest
        dsimp only
        rw [hadd, touchAccount_setAccount _ (Ne.symm hne)]
        exact (hfirst.trans (recorded_touchAccount htouchedTarget)).trans hmove

/-- A transfer of loaded accounts, with the loads before it. -/
theorem recorded_transfer {source target : Address} {amount : U256}
    (hroom : source ≠ target → amount ≤ s.balance source →
      (s.balance target).toNat + amount.toNat < 2 ^ 256) :
    Recorded address s (exitState ((transfer source target amount).run s)) := by
  have hsourceLoad := isRecorded_loadAccount (ε := ε) address source
  have htargetLoad := isRecorded_loadAccount (ε := ε) address target
  unfold transfer
  cases hsource : (loadAccount source).run s with
  | error e s₁ =>
    rw [run_bind_of_error hsource]
    exact hsourceLoad.error hsource
  | ok debited s₁ =>
    rw [run_bind_of_ok hsource]
    refine (hsourceLoad.ok hsource).trans ?_
    cases htarget : (loadAccount target).run s₁ with
    | error e s₂ =>
      rw [run_bind_of_error htarget]
      exact htargetLoad.error htarget
    | ok credited s₂ =>
      rw [run_bind_of_ok htarget]
      refine (htargetLoad.ok htarget).trans (recorded_transferLoaded ?_)
      have hsame := (loadAccount_ok htarget).2.2.1.trans (loadAccount_ok hsource).2.2.1
      rwa [balance_of_info hsame]

/-! ## Reverts -/

/-- A revert to the length that the log had shows the funds of then. -/
theorem Recorded.covers_revertTo (h : Recorded address s t) :
    ((t.revertTo s.inner.journal.length).fundsView address).Covers (s.fundsView address) := by
  obtain ⟨new, hjournal, hundo, hnew⟩ := h.entries
  have hdrop : t.inner.journal.drop s.inner.journal.length = new := by
    rw [hjournal, List.drop_left]
  have hview := FundsView.ofAccount_undoAll t.database new t.inner.state hnew
  rw [← fundsView_eq, ← hdrop] at hview
  rw [← hdrop, ← hview] at hundo
  rwa [fundsView_eq]

/-- A reverted journal is recorded as the earlier one was. -/
theorem Recorded.revertTo {r : Journal ε} (h : Recorded address r s) (h' : Recorded address s t) :
    Recorded address r (t.revertTo s.inner.journal.length) := by
  obtain ⟨new, hjournal, hundo, hnew⟩ := h.entries
  obtain ⟨new', hjournal', -, -⟩ := h'.entries
  have hcovers := h'.covers_revertTo
  have htake : (t.revertTo s.inner.journal.length).inner.journal = s.inner.journal := by
    change t.inner.journal.take _ = _
    rw [hjournal', List.take_left]
  have hcached (hne : s.inner.state address ≠ none) :
      (t.revertTo s.inner.journal.length).inner.state address ≠ none :=
    fun hnone => h'.cached hne ((undoAll_eq_none _ t.inner.state address).mp hnone)
  refine ⟨h'.database_eq.trans h.database_eq, ⟨new, htake.trans hjournal, ?_, fun entry hentry =>
    (hnew entry hentry).imp_right hcached⟩, fun hne => hcached (h.cached hne),
    fun hclean htouched => ?_⟩
  · exact (hcovers.undoAll address new).trans hundo
  · have hfunds : (t.revertTo s.inner.journal.length).funds address = s.funds address :=
      hcovers.funds_eq
    rw [hfunds, h.clean hclean (hcovers.touched_of htouched), ← h'.database_eq]
    rfl

/-! ## The end of a transaction -/

/-- The log is empty and every untouched account shows the funds of the database. -/
structure Settled (s : Journal ε) : Prop where
  journal_eq : s.inner.journal = []
  clean : ∀ address, s.FundsClean address

/-- An accepted transaction keeps the funds it shows. -/
theorem Settled.commitTx (h : s.Settled) (hst : ∀ address, Recorded address s t)
    (hcommit : Journal.commitTx.run t = .ok () s') : s'.Settled ∧ s'.funds = t.funds := by
  cases hcommit
  exact ⟨⟨rfl, fun address => (hst address).clean (h.clean address)⟩, rfl⟩

/-- A discarded transaction leaves the funds of before. -/
theorem Settled.discardTx (h : s.Settled) (hst : ∀ address, Recorded address s t)
    (hdiscard : Journal.discardTx.run t = .ok () s') : s'.Settled ∧ s'.funds = s.funds := by
  obtain ⟨hstate, hdatabase, hempty⟩ : s'.inner.state = undoAll t.inner.journal t.inner.state ∧
      s'.database = t.database ∧ s'.inner.journal = [] := by
    cases hdiscard
    exact ⟨rfl, rfl, rfl⟩
  have hview (address : Address) : (s'.fundsView address).Covers (s.fundsView address) := by
    obtain ⟨new, hjournal, hundo, hnew⟩ := (hst address).entries
    rw [h.journal_eq, List.nil_append] at hjournal
    rw [fundsView_eq, hstate, hdatabase, hjournal,
      FundsView.ofAccount_undoAll t.database new t.inner.state hnew, ← fundsView_eq]
    exact hundo
  refine ⟨⟨hempty, fun address htouched => ?_⟩, funext fun address => (hview address).funds_eq⟩
  have huntouched : s.touched address = false := (hview address).touched_of htouched
  rw [hdatabase, (hst address).database_eq, ← h.clean address huntouched]
  exact (hview address).funds_eq

/-- Writing the state back to the database keeps the funds it shows. -/
theorem Settled.commit (h : s.Settled) {state : Address → Option Account}
    (hfinalize : Journal.finalize.run s = .ok state t)
    (hcommit : (Journal.commit state).run t = .ok () s') : s'.Settled ∧ s'.funds = s.funds := by
  cases hfinalize
  cases hcommit
  refine ⟨⟨rfl, fun _ _ => rfl⟩, funext fun address => ?_⟩
  change (Database.info _ address).funds = (s.info address).funds
  unfold Database.info
  dsimp only
  cases hstate : s.inner.state address with
  | none =>
    rw [info, hstate]
    rfl
  | some account =>
    dsimp only
    cases htouched : account.isTouched with
    | false =>
      have huntouched : s.touched address = false := by
        rw [touched, hstate, Option.elim_some, htouched]
      rw [if_neg Bool.false_ne_true]
      exact (h.clean address huntouched).symm
    | true =>
      rw [if_pos rfl, info, hstate]

end Journal

end ScrollRevm
