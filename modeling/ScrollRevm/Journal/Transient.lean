import ScrollRevm.Journal.Logging
import ScrollRevm.Journal.Recording

/-!
# Transient storage in the log

A write of transient storage is one entry that restores the value of before; it touches no
account. Accesses leave the transient storage, and so does a revert of them.
-/

namespace ScrollRevm

open FixedWidth StateResult

namespace Journal

variable {ε : Type} {s s' : Journal ε} {address : Address} {key : U256}

/-! ## Writes -/

/-- Undoing a write. -/
theorem setTransient_setTransient (address : Address) (key value : U256)
    (storage : Address → U256 → U256) :
    setTransient address key (storage address key) (setTransient address key value storage) =
      storage := by
  unfold setTransient
  rw [Function.update_self, Function.update_idem, Function.update_idem, Function.update_eq_self,
    Function.update_eq_self]

/-- A write shows the accounts of before, and logs a value that it changes. -/
theorem tstore_cases (s : Journal ε) (address : Address) (key value : U256) :
    (s.tstore address key value).inner.state = s.inner.state ∧
      (s.tstore address key value).database = s.database ∧
      ∃ new, (s.tstore address key value).inner.journal = s.inner.journal ++ new ∧
        (∀ entry ∈ new, ∃ hadValue, entry = .transientStorageChange address key hadValue) ∧
        undoAllTransient new (s.tstore address key value).inner.transientStorage =
          s.inner.transientStorage := by
  have hundo := setTransient_setTransient address key value s.inner.transientStorage
  unfold tstore
  dsimp only
  split
  · rename_i hsame
    refine ⟨rfl, rfl, [], (List.append_nil _).symm, (fun _ h => nomatch h), ?_⟩
    -- the value was there before
    change setTransient address key value s.inner.transientStorage = _
    rw [← hsame, tload]
    unfold setTransient
    rw [Function.update_eq_self, Function.update_eq_self]
  · refine ⟨rfl, rfl, [.transientStorageChange address key (s.tload address key)], rfl,
      fun entry hentry => ⟨_, List.mem_singleton.mp hentry⟩, hundo⟩

/-- A write of transient storage is logged and shows the storage of before. -/
theorem quiet_tstore (other address : Address) (s : Journal ε) (key value : U256) :
    Quiet other s (s.tstore address key value) := by
  obtain ⟨hstate, hdatabase, new, hjournal, hnew, hundo⟩ := tstore_cases s address key value
  have hview : (s.tstore address key value).storageView other = s.storageView other := by
    rw [storageView_eq, storageView_eq, hstate, hdatabase]
  refine ⟨.of_eq hdatabase hjournal (fun entry hentry view => ?_) hundo hview fun key hslot => ?_,
    congrArg StorageView.storage hview⟩
  · obtain ⟨hadValue, rfl⟩ := hnew entry hentry
    rfl
  · rwa [slot, hstate]

/-- A write of transient storage records no change of an account. -/
theorem recorded_tstore (other address : Address) (s : Journal ε) (key value : U256) :
    Recorded other s (s.tstore address key value) := by
  obtain ⟨hstate, hdatabase, new, hjournal, hnew, -⟩ := tstore_cases s address key value
  refine .of_eq hdatabase hjournal (fun entry hentry view => ?_) ?_ fun hcached => ?_
  · obtain ⟨hadValue, rfl⟩ := hnew entry hentry
    rfl
  · rw [fundsView_eq, fundsView_eq, hstate, hdatabase]
  · rwa [hstate]

theorem info_tstore (s : Journal ε) (address : Address) (key value : U256) :
    (s.tstore address key value).info = s.info := by
  obtain ⟨hstate, hdatabase, -⟩ := tstore_cases s address key value
  funext other
  rw [info, info, hstate, hdatabase]

/-! ## Accesses -/

/-- A computation that leaves the transient storage. -/
abbrev KeepsTransient {ε' α : Type} (x : EStateM ε' (Journal ε) α) : Prop :=
  Exits (fun s s' => s'.inner.transientStorage = s.inner.transientStorage) x

theorem keepsTransient_loadAccount (address : Address) :
    KeepsTransient (loadAccount (ε := ε) address) := by
  intro s
  cases hrun : (loadAccount address).run s with
  | error e s' =>
    obtain ⟨rfl, -⟩ := loadAccount_error hrun
    rfl
  | ok load s' =>
    cases loads_of_run hrun with
    | accessed => rfl
    | marked => rfl
    | readCold => rfl
    | readWarm => rfl

theorem keepsTransient_loadAccountDelegated (address : Address) :
    KeepsTransient (loadAccountDelegated (ε := ε) address) := by
  refine Exits.bind (fun _ _ _ h h' => h'.trans h) (keepsTransient_loadAccount address) ?_
  intro load
  cases load.data.info.code with
  | legacy bytes => exact fun s => rfl
  | eip7702 target =>
    exact Exits.bind (fun _ _ _ h h' => h'.trans h) (keepsTransient_loadAccount target)
      fun _ _ => rfl

theorem keepsTransient_sloadSkipColdLoad (address : Address) (key : U256)
    (skipColdLoad : Bool) :
    KeepsTransient (sloadSkipColdLoad (ε := ε) address key skipColdLoad) := by
  intro s
  rcases sloadSkipColdLoad_cases s address key skipColdLoad with
    ⟨e, hrun⟩ | ⟨account, slot, load, -, -, hrun⟩
  · rw [hrun]
    rfl
  · rw [hrun]
    change (s.accessSlot address account key slot).inner.transientStorage = _
    unfold accessSlot
    dsimp only
    split <;> rfl

/-- A load in a checkpoint of its own, once reverted, leaves the transient storage. -/
theorem transient_revertTo_load (s : Journal ε) (address : Address) (skipColdLoad : Bool) :
    ((exitState ((loadAccountInfoSkipColdLoad address skipColdLoad).run s.deeper)).revertTo
        s.inner.journal.length).inner.transientStorage = s.inner.transientStorage := by
  have hdeeper : Quiet address s s.deeper := quiet_depth address s _
  have hload := isQuiet_loadAccountInfoSkipColdLoad address address skipColdLoad s.deeper
  exact (hdeeper.trans hload).toLogged.transient_revertTo

end Journal

end ScrollRevm
