import ScrollRevm.Journal.Rollback

/-!
# The operations log their changes

Every operation of the journal is logged, and all but the write of a slot show the storage
of before, whether they return or fail.
-/

namespace ScrollRevm

open FixedWidth StateResult

namespace Journal

variable {ε : Type} {s s' t : Journal ε} {address other : Address} {account : Account}

/-- A logged change that shows the same storage. -/
structure Quiet (address : Address) (s s' : Journal ε) : Prop extends Logged address s s' where
  storageAt_eq : s'.storageAt address = s.storageAt address

theorem Quiet.refl (address : Address) (s : Journal ε) : Quiet address s s :=
  ⟨.refl address s, rfl⟩

theorem Quiet.trans (h : Quiet address s s') (h' : Quiet address s' t) : Quiet address s t :=
  ⟨h.toLogged.trans h'.toLogged, h'.storageAt_eq.trans h.storageAt_eq⟩

/-- A checkpoint and its end show the storage of before. -/
theorem quiet_depth (address : Address) (s : Journal ε) (depth : Nat) :
    Quiet address s { s with inner := { s.inner with depth := depth } } :=
  ⟨.of_eq rfl (List.append_nil _).symm (fun _ h => nomatch h) rfl rfl fun _ h => h, rfl⟩

/-! ## Changes of one account -/

/-- Recording an entry that is neutral. -/
theorem quiet_push (s : Journal ε) {entry : JournalEntry}
    (h : StorageView.Neutral address entry)
    (htransient : undoTransient entry s.inner.transientStorage = s.inner.transientStorage) :
    Quiet address s (s.push entry) := by
  refine ⟨.of_eq rfl rfl ?_ htransient rfl fun _ hslot => hslot, rfl⟩
  intro entry' hentry
  rw [List.mem_singleton.mp hentry]
  exact h

/-- Replacing another account. -/
theorem quiet_setAccount_of_ne (s : Journal ε) (account : Account) (h : address ≠ other) :
    Quiet address s (s.setAccount other account) := by
  have hstate : (s.setAccount other account).inner.state address = s.inner.state address := by
    rw [state_setAccount, Function.update_of_ne h]
  have hview : (s.setAccount other account).storageView address = s.storageView address := by
    rw [storageView_eq, hstate]
    rfl
  refine ⟨.of_eq rfl (List.append_nil _).symm (fun _ h => nomatch h) rfl hview fun key hslot => ?_,
    congrArg StorageView.storage hview⟩
  rw [slot, hstate]
  exact hslot

/-- Replacing an account by one with the same values, slots and mark. -/
theorem quiet_setAccount
    (hstorage : ∀ key, ((account.storage key).map EvmStorageSlot.presentValue).getD
      (s.database.slot other key) = s.storageAt other key)
    (htouched : account.isTouched = s.touched other)
    (hslot : ∀ key, s.slot other key ≠ none → account.storage key ≠ none) :
    Quiet address s (s.setAccount other account) := by
  by_cases hother : address = other
  · subst hother
    have hstate : (s.setAccount address account).inner.state address = some account := by
      rw [state_setAccount, Function.update_self]
    have hview : (s.setAccount address account).storageView address = s.storageView address := by
      rw [storageView_eq, hstate]
      exact StorageView.ext (funext hstorage) htouched
    refine ⟨.of_eq rfl (List.append_nil _).symm (fun _ h => nomatch h) rfl hview fun key h => ?_,
      congrArg StorageView.storage hview⟩
    rw [slot, hstate]
    exact hslot key h
  · exact quiet_setAccount_of_ne s account hother

/-- Replacing a cached account by one with its storage and mark. -/
theorem quiet_setAccount_of_state {account' : Account}
    (h : s.inner.state other = some account) (hstorage : account'.storage = account.storage)
    (htouched : account'.isTouched = account.isTouched) :
    Quiet address s (s.setAccount other account') := by
  refine quiet_setAccount (fun key => ?_) ?_ fun key hslot => ?_
  · rw [hstorage, storageAt, journaled, h, Option.bind_some]
  · rw [htouched, touched, h, Option.elim_some]
  · rw [hstorage]
    rwa [slot, h] at hslot

/-- Touching a cached account is logged. -/
theorem quiet_touchAccount (h : s.inner.state other = some account) :
    Quiet address s (touchAccount other account s) := by
  obtain ⟨-, hstorage, htouched⟩ := touchAccount_accounts h
  unfold touchAccount at hstorage htouched ⊢
  split
  · exact .refl address s
  · rename_i huntouched
    rw [if_neg huntouched] at hstorage htouched
    have huntouched' : s.touched other = false := by
      rw [touched, h, Option.elim_some, Bool.eq_false_iff]
      exact huntouched
    by_cases hother : other = address
    · subst hother
      refine ⟨⟨rfl, ⟨[.accountTouched other], rfl, ?_, rfl, ?_⟩, fun key hslot => ?_,
        fun _ hmark => ?_⟩,
        congrFun hstorage other⟩
      · refine StorageView.ext ?_ ?_
        · change StorageView.storage (if other = other then _ else _) = _
          rw [if_pos rfl]
          exact congrFun hstorage other
        · change StorageView.touched (if other = other then _ else _) = _
          rw [if_pos rfl]
          exact huntouched'.symm
      · intro entry hentry key hadValue heq
        rw [List.mem_singleton.mp hentry] at heq
        cases heq
      · rw [slot, state_push, state_setAccount, Function.update_self]
        rwa [slot, h] at hslot
      · rw [htouched, Function.update_self] at hmark
        cases hmark
    · have hneutral : StorageView.Neutral address (.accountTouched other) := fun _ => if_neg hother
      exact (quiet_setAccount_of_ne s _ (Ne.symm hother)).trans (quiet_push _ hneutral rfl)

/-- Setting a balance of a cached account is logged. -/
theorem quiet_setBalance (h : s.inner.state other = some account) (balance : U256) :
    Quiet address s (setBalance other account balance s) := by
  have htouch : Quiet address s (touchAccount other account s) := quiet_touchAccount h
  unfold setBalance
  dsimp only
  split
  · exact htouch
  · have hcached := touchAccount_state h
    refine htouch.trans (.trans ?_ (quiet_push _ (fun _ => rfl) rfl))
    exact quiet_setAccount_of_state (congrFun hcached other |>.trans (Function.update_self ..))
      rfl rfl

/-! ## Operations on accounts -/

/-- A computation whose exits are logged and show the storage of before. -/
abbrev IsQuiet {ε' α : Type} (address : Address) (x : EStateM ε' (Journal ε) α) : Prop :=
  Exits (Quiet address) x

theorem IsQuiet.pure {ε' α : Type} (a : α) :
    IsQuiet address (Pure.pure a : EStateM ε' (Journal ε) α) :=
  Exits.pure (Quiet.refl address) a

theorem IsQuiet.bind {ε' α β : Type} {x : EStateM ε' (Journal ε) α}
    {f : α → EStateM ε' (Journal ε) β} (hx : IsQuiet address x) (hf : ∀ a, IsQuiet address (f a)) :
    IsQuiet address (x >>= f) :=
  Exits.bind (fun _ _ _ h h' => h.trans h') hx hf

theorem isQuiet_modifyAccount {ε α : Type} {f : Account → Journal ε → α × Journal ε} {default : α}
    (h : ∀ account s, s.inner.state other = some account →
      Quiet address s (f account s).2) :
    IsQuiet address (modifyAccount other f default) := by
  intro s
  change Quiet address s (exitState (modifyAccount other f default s))
  unfold modifyAccount
  cases hstate : s.inner.state other with
  | some account => exact h account s hstate
  | none => exact .refl address s

theorem isQuiet_loadAccount (address other : Address) :
    IsQuiet address (loadAccount (ε := ε) other) := by
  intro s
  have hread (info : AccountInfo) (hstate : s.inner.state other = none) :
      Quiet address s (s.setAccount other (.loaded info s.inner.transactionId)) := by
    refine quiet_setAccount (fun key => ?_) ?_ fun key hslot => absurd ?_ hslot
    · rw [storageAt, journaled, hstate]
      rfl
    · rw [touched, hstate]
      rfl
    · rw [slot, hstate]
      rfl
  cases hrun : (loadAccount other).run s with
  | error e s' =>
    obtain ⟨rfl, -⟩ := loadAccount_error hrun
    exact .refl address s'
  | ok load s' =>
    cases loads_of_run hrun with
    | accessed => exact .refl address s
    | marked hstate =>
      refine .trans ?_ (quiet_push _ (fun _ => rfl) rfl)
      exact quiet_setAccount_of_state hstate rfl rfl
    | readCold hstate => exact (hread _ hstate).trans (quiet_push _ (fun _ => rfl) rfl)
    | readWarm hstate => exact hread _ hstate

theorem isQuiet_loadAccountMut (address other : Address) :
    IsQuiet address (loadAccountMut (ε := ε) other) :=
  (isQuiet_loadAccount address other).bind fun _ => .pure _

theorem isQuiet_touch (address other : Address) : IsQuiet address (touch (ε := ε) other) :=
  isQuiet_modifyAccount fun _ _ h => quiet_touchAccount h

theorem isQuiet_decrBalance (address other : Address) (amount : U256) :
    IsQuiet address (decrBalance (ε := ε) other amount) := by
  refine isQuiet_modifyAccount fun account s h => ?_
  cases checkedSub account.info.balance amount with
  | some balance => exact quiet_setBalance h balance
  | none => exact .refl address s

theorem isQuiet_balanceIncr (address other : Address) (amount : U256) :
    IsQuiet address (balanceIncr (ε := ε) other amount) := by
  refine (isQuiet_loadAccount address other).bind fun _ => ?_
  refine isQuiet_modifyAccount fun account s h => ?_
  cases checkedAdd account.info.balance amount with
  | some balance => exact quiet_setBalance h balance
  | none => exact quiet_touchAccount h

theorem isQuiet_bumpNonce (address other : Address) :
    IsQuiet address (bumpNonce (ε := ε) other) := by
  refine isQuiet_modifyAccount fun account s h => ?_
  have htouch : Quiet address s (touchAccount other account s) := quiet_touchAccount h
  dsimp only
  cases checkedAdd account.info.nonce 1 with
  | none => exact htouch
  | some nonce =>
    have hcached := touchAccount_state h
    refine htouch.trans (.trans ?_ (quiet_push _ (fun _ => rfl) rfl))
    exact quiet_setAccount_of_state (congrFun hcached other |>.trans (Function.update_self ..))
      rfl rfl

theorem isQuiet_loadAccountInfoSkipColdLoad (address other : Address) (skipColdLoad : Bool) :
    IsQuiet address (loadAccountInfoSkipColdLoad (ε := ε) other skipColdLoad) := by
  intro s
  have hload := isQuiet_loadAccount (ε := ε) address other s
  change Quiet address s (exitState (loadAccount other s)) at hload
  change Quiet address s (exitState (loadAccountInfoSkipColdLoad other skipColdLoad s))
  unfold loadAccountInfoSkipColdLoad
  split
  · exact .refl address s
  · cases hrun : loadAccount other s with
    | ok load s' =>
      rw [hrun] at hload
      exact hload
    | error e s' =>
      rw [hrun] at hload
      exact hload

/-- A transfer changes balances and marks only. -/
theorem isQuiet_transferLoaded (address source target : Address) (amount : U256) :
    IsQuiet address (transferLoaded (ε := ε) source target amount) := by
  intro s
  change Quiet address s (exitState (transferLoaded source target amount s))
  unfold transferLoaded
  split
  · split <;> exact .refl address s
  rename_i hne
  split
  · cases hstate : s.inner.state target with
    | some account => exact quiet_touchAccount hstate
    | none => exact .refl address s
  cases hsource : s.inner.state source with
  | none => exact .refl address s
  | some debited =>
    cases htarget : s.inner.state target with
    | none => exact .refl address s
    | some credited =>
      have htouched : Quiet address s (touchAccount source debited s) :=
        quiet_touchAccount hsource
      dsimp only
      cases checkedSub debited.info.balance amount with
      | none => exact htouched
      | some rest =>
        have hdebited : (touchAccount source debited s).inner.state source =
            some { debited with isTouched := true } := by
          rw [touchAccount_state hsource, Function.update_self]
        have hcredited : ((touchAccount source debited s).setAccount source
            { debited.setBalance rest with isTouched := true }).inner.state target =
              some credited := by
          rw [state_setAccount, touchAccount_state hsource, Function.update_of_ne (Ne.symm hne),
            Function.update_of_ne (Ne.symm hne), htarget]
        have hpaid : Quiet address s ((touchAccount source debited s).setAccount source
            { debited.setBalance rest with isTouched := true }) :=
          htouched.trans (quiet_setAccount_of_state hdebited rfl rfl)
        have hreceived := hpaid.trans (quiet_touchAccount hcredited)
        have hcached := congrFun (touchAccount_state hcredited) target
        rw [Function.update_self] at hcached
        dsimp only
        cases checkedAdd credited.info.balance amount with
        | none => exact hreceived
        | some sum =>
          refine .trans (hreceived.trans ?_) (quiet_push _ (fun _ => rfl) rfl)
          exact quiet_setAccount_of_state hcached rfl rfl

theorem isQuiet_transfer (address source target : Address) (amount : U256) :
    IsQuiet address (transfer (ε := ε) source target amount) :=
  (isQuiet_loadAccount address source).bind fun _ =>
    (isQuiet_loadAccount address target).bind fun _ => isQuiet_transferLoaded _ _ _ _

/-! ## Operations on storage -/

/-- A slot load fails and changes nothing, or accesses the slot of a cached account. -/
theorem sloadSkipColdLoad_cases (s : Journal ε) (other : Address) (key : U256)
    (skipColdLoad : Bool) :
    (∃ e, (sloadSkipColdLoad other key skipColdLoad).run s = .error e s) ∨
      ∃ account slot load, s.inner.state other = some account ∧
        s.accessedSlot other account key = .ok slot ∧
        (sloadSkipColdLoad other key skipColdLoad).run s =
          .ok load (s.accessSlot other account key slot) := by
  change (∃ e, sloadSkipColdLoad other key skipColdLoad s = _) ∨ ∃ account slot load, _ ∧ _ ∧
    sloadSkipColdLoad other key skipColdLoad s = _
  unfold sloadSkipColdLoad
  cases hstate : s.inner.state other with
  | none => exact Or.inl ⟨_, rfl⟩
  | some account =>
    dsimp only
    split
    · exact Or.inl ⟨_, rfl⟩
    · rw [sloadAccount_eq]
      cases hslot : s.accessedSlot other account key with
      | error e => exact Or.inl ⟨_, rfl⟩
      | ok slot => exact Or.inr ⟨account, slot, _, rfl, hslot, rfl⟩

theorem quiet_accessSlot {key : U256} {slot : EvmStorageSlot}
    (hstate : s.inner.state other = some account)
    (hslot : s.accessedSlot other account key = .ok slot) :
    Quiet address s (s.accessSlot other account key slot) := by
  have hset : Quiet address s (s.setAccount other (account.setSlot key slot)) := by
    refine quiet_setAccount (fun otherKey => ?_) ?_ fun otherKey hcached => ?_
    · rw [storage_setSlot]
      split
      · rename_i hkey
        rw [hkey, ← presentValue_accessedSlot hstate hslot]
        rfl
      · rw [storageAt, journaled, hstate]
        rfl
    · rw [touched, hstate]
      rfl
    · rw [storage_setSlot]
      split
      · exact Option.some_ne_none slot
      · rwa [Journal.slot, hstate] at hcached
  unfold accessSlot
  dsimp only
  split
  · exact hset.trans (quiet_push _ (fun _ => rfl) rfl)
  · exact hset

theorem isQuiet_sloadSkipColdLoad (address other : Address) (key : U256) (skipColdLoad : Bool) :
    IsQuiet address (sloadSkipColdLoad (ε := ε) other key skipColdLoad) := by
  intro s
  rcases sloadSkipColdLoad_cases s other key skipColdLoad with
    ⟨e, hrun⟩ | ⟨account, slot, load, hstate, hslot, hrun⟩
  · rw [hrun]
    exact .refl address s
  · rw [hrun]
    exact quiet_accessSlot hstate hslot

/-- The present value of a slot. -/
def writeSlot (other : Address) (account : Account) (key : U256) (slot : EvmStorageSlot)
    (value : U256) (s : Journal ε) : Journal ε :=
  if slot.presentValue = value then s
  else
    (s.setAccount other (account.setSlot key { slot with presentValue := value })).push
      (.storageChanged other key slot.presentValue)

/-- Writing a cached slot of a touched account is logged and sets its value. -/
theorem logged_writeSlot {key value : U256} {cached : EvmStorageSlot}
    (hstate : s.inner.state other = some account) (hslot : account.storage key = some cached)
    (htouched : account.isTouched = true) :
    Logged address s (writeSlot other account key cached value s) ∧
      (writeSlot other account key cached value s).storageAt address =
        if other = address then Function.update (s.storageAt address) key value
        else s.storageAt address := by
  have hvalue : s.storageAt other key = cached.presentValue := by
    rw [storageAt, journaled, hstate, Option.bind_some, hslot]
    rfl
  have hmark : s.touched other = true := by
    rw [touched, hstate, Option.elim_some, htouched]
  unfold writeSlot
  by_cases hsame : cached.presentValue = value
  · rw [if_pos hsame]
    refine ⟨.refl address s, ?_⟩
    split
    · rename_i hother
      subst hother
      rw [← hsame, ← hvalue, Function.update_eq_self]
    · rfl
  rw [if_neg hsame]
  by_cases hother : other = address
  · subst hother
    rw [if_pos rfl]
    have hwritten : ((s.setAccount other (account.setSlot key
        { cached with presentValue := value })).push
          (.storageChanged other key cached.presentValue)).storageView other =
            ⟨Function.update (s.storageAt other) key value, true⟩ := by
      refine StorageView.ext (funext fun otherKey => ?_) ?_
      · rw [storageView_eq, state_push, state_setAccount, Function.update_self]
        change Option.getD (Option.map _ (Account.storage _ otherKey)) _ =
          Function.update (s.storageAt other) key value otherKey
        rw [storage_setSlot, Function.update_apply]
        split
        · rfl
        · rw [storageAt, journaled, hstate]
          rfl
      · rw [storageView_eq, state_push, state_setAccount, Function.update_self]
        exact htouched
    refine ⟨⟨rfl, ⟨[.storageChanged other key cached.presentValue], rfl, ?_, rfl, ?_⟩,
      fun otherKey hcached => ?_, fun _ hclean => ?_⟩, congrArg StorageView.storage hwritten⟩
    · rw [hwritten]
      refine StorageView.ext ?_ ?_
      · change StorageView.storage (if other = other then _ else _) = _
        rw [if_pos rfl]
        change Function.update (Function.update (s.storageAt other) key value) key
          cached.presentValue = _
        rw [Function.update_idem, ← hvalue, Function.update_eq_self]
        rfl
      · change StorageView.touched (if other = other then _ else _) = _
        rw [if_pos rfl]
        exact hmark.symm
    · intro entry hentry otherKey hadValue heq
      rw [List.mem_singleton.mp hentry] at heq
      cases heq
      rw [state_push, state_setAccount, Function.update_self, Option.bind_some, storage_setSlot,
        if_pos rfl]
      exact Option.some_ne_none _
    · rw [slot, state_push, state_setAccount, Function.update_self, Option.bind_some,
        storage_setSlot]
      split
      · exact Option.some_ne_none _
      · rwa [slot, hstate] at hcached
    · have hfalse : true = false := (congrArg StorageView.touched hwritten).symm.trans hclean
      cases hfalse
  · rw [if_neg hother]
    have hneutral : StorageView.Neutral address
        (.storageChanged other key cached.presentValue) := fun _ => if_neg hother
    have hquiet := (quiet_setAccount_of_ne s (account.setSlot key
      { cached with presentValue := value }) (Ne.symm hother)).trans (quiet_push _ hneutral rfl)
    exact ⟨hquiet.toLogged, hquiet.storageAt_eq⟩

/-- The touch of a cached account before a write. -/
def touchCached (other : Address) (s : Journal ε) : Journal ε :=
  match s.inner.state other with
  | some account => touchAccount other account s
  | none => s

/-- The write of a cached slot. -/
def writeCached (other : Address) (key value : U256) (s : Journal ε) : Journal ε :=
  match s.inner.state other with
  | some account =>
    match account.storage key with
    | some slot => writeSlot other account key slot value s
    | none => s
  | none => s

/-- A write touches the account, loads the slot and replaces its value. -/
theorem run_sstore (s : Journal ε) (other : Address) (key value : U256) (skipColdLoad : Bool) :
    (sstore other key value skipColdLoad).run s =
      match (sloadSkipColdLoad other key skipColdLoad).run (s.touchCached other) with
      | .ok load s => .ok load (s.writeCached other key value)
      | .error e s => .error e s := by
  have htouch : (modify (touchCached other) : EStateM (LoadError ε) (Journal ε) Unit).run s =
      .ok () (s.touchCached other) := rfl
  refine (run_bind_of_ok htouch).trans ?_
  cases hrun : (sloadSkipColdLoad other key skipColdLoad).run (s.touchCached other) with
  | ok load s' => exact run_bind_of_ok hrun
  | error e s' => exact run_bind_of_error hrun

theorem quiet_touchCached (s : Journal ε) : Quiet address s (s.touchCached other) := by
  unfold touchCached
  cases hstate : s.inner.state other with
  | none => exact .refl address s
  | some account => exact quiet_touchAccount hstate

theorem isTouched_touchCached (h : (s.touchCached other).inner.state other = some account) :
    account.isTouched = true := by
  unfold touchCached at h
  cases hstate : s.inner.state other with
  | none =>
    rw [hstate] at h
    exact absurd (h.symm.trans hstate) (Option.some_ne_none account)
  | some cached =>
    rw [hstate] at h
    dsimp only at h
    rw [touchAccount_state hstate, Function.update_self] at h
    cases h
    rfl

/-- A write that returns is logged and sets the value of the slot. -/
theorem sstore_ok {key value : U256} {skipColdLoad : Bool} {load : StateLoad U256}
    (h : (sstore other key value skipColdLoad).run s = .ok load s') :
    Logged address s s' ∧
      s'.storageAt address =
        if other = address then Function.update (s.storageAt address) key value
        else s.storageAt address := by
  rw [run_sstore] at h
  rcases sloadSkipColdLoad_cases (s.touchCached other) other key skipColdLoad with
    ⟨e, hrun⟩ | ⟨account, slot, load', hstate, hslot, hrun⟩
  · rw [hrun] at h
    cases h
  · rw [hrun] at h
    cases h
    have haccess : Quiet address s ((s.touchCached other).accessSlot other account key slot) :=
      (quiet_touchCached s).trans (quiet_accessSlot hstate hslot)
    have hcached : ((s.touchCached other).accessSlot other account key slot).inner.state other =
        some (account.setSlot key slot) := by
      rw [state_accessSlot, Function.update_self]
    have hkey : (account.setSlot key slot).storage key = some slot := by
      rw [storage_setSlot, if_pos rfl]
    have hmark : account.isTouched = true := isTouched_touchCached hstate
    have htouched : (account.setSlot key slot).isTouched = true := hmark
    obtain ⟨hlogged, hvalue⟩ := logged_writeSlot hcached hkey htouched
    rw [haccess.storageAt_eq] at hvalue
    unfold writeCached
    rw [hcached]
    dsimp only
    rw [hkey]
    exact ⟨haccess.toLogged.trans hlogged, hvalue⟩

/-- A write that fails is logged and shows the same storage. -/
theorem sstore_error {key value : U256} {skipColdLoad : Bool} {e : LoadError ε}
    (h : (sstore other key value skipColdLoad).run s = .error e s') : Quiet address s s' := by
  have hload := isQuiet_sloadSkipColdLoad address other key skipColdLoad (s.touchCached other)
  rw [run_sstore] at h
  cases hrun : (sloadSkipColdLoad other key skipColdLoad).run (s.touchCached other) with
  | ok load s₁ =>
    rw [hrun] at h
    cases h
  | error e' s₁ =>
    rw [hrun] at h hload
    cases h
    exact (quiet_touchCached s).trans hload

/-! ## Between transactions -/

/-- The log is empty and an untouched account shows the storage of the database. -/
structure AtRest (address : Address) (s : Journal ε) : Prop where
  journal_eq : s.inner.journal = []
  clean : s.Clean address

/-- An accepted transaction keeps the storage it shows. -/
theorem AtRest.commitTx (h : AtRest address s) (hst : Logged address s t)
    (hcommit : Journal.commitTx.run t = .ok () s') :
    AtRest address s' ∧ s'.storageAt address = t.storageAt address := by
  cases hcommit
  exact ⟨⟨rfl, hst.clean h.clean⟩, rfl⟩

/-- A discarded transaction leaves the storage of before. -/
theorem AtRest.discardTx (h : AtRest address s) (haddress : address ≠ precompile3)
    (hst : Logged address s t) (hdiscard : Journal.discardTx.run t = .ok () s') :
    AtRest address s' ∧ s'.storageAt address = s.storageAt address := by
  cases hdiscard
  obtain ⟨new, hjournal, hundo, -, hrestorable⟩ := hst.entries
  rw [h.journal_eq, List.nil_append] at hjournal
  have hview := ofAccount_undoAll t.database haddress new t.inner.state hrestorable
  rw [← storageView_eq, hundo, ← hjournal] at hview
  refine ⟨⟨rfl, fun huntouched => ?_⟩, congrArg StorageView.storage hview⟩
  have hclean := h.clean ((congrArg StorageView.touched hview).symm.trans huntouched)
  refine (congrArg StorageView.storage hview).trans (hclean.trans ?_)
  rw [← hst.database_eq]

/-- Writing the state back to the database keeps the storage it shows. -/
theorem AtRest.commit (h : AtRest address s) {state : Address → Option Account}
    (hfinalize : Journal.finalize.run s = .ok state t)
    (hcommit : (Journal.commit state).run t = .ok () s') :
    AtRest address s' ∧ s'.storageAt address = s.storageAt address := by
  cases hfinalize
  cases hcommit
  refine ⟨⟨rfl, fun _ => rfl⟩, funext fun key => ?_⟩
  change Database.slot _ address key = s.storageAt address key
  unfold Database.slot
  dsimp only
  cases hstate : s.inner.state address with
  | none =>
    rw [storageAt, journaled, hstate]
    rfl
  | some account =>
    dsimp only
    cases htouched : account.isTouched with
    | false =>
      have huntouched : s.touched address = false := by
        rw [touched, hstate, Option.elim_some, htouched]
      rw [if_neg Bool.false_ne_true, h.clean huntouched]
      rfl
    | true =>
      rw [if_pos rfl, storageAt, journaled, hstate, Option.bind_some]
      cases account.storage key <;> rfl

end Journal

end ScrollRevm
