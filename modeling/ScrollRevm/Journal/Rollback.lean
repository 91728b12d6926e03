import ScrollRevm.Journal.Accounts
import ScrollRevm.Lib.UndoLog

/-!
# Rolling storage back

What the journal shows of one account's storage, and whether the account is touched, is
undone entry by entry without looking at the rest of the journal. An operation that logs
its changes can so be rolled back to the view before it.
-/

namespace ScrollRevm

open FixedWidth StateResult

/-- The storage of an account and the mark that it was touched. -/
@[ext] structure StorageView where
  storage : U256 → U256
  touched : Bool

namespace StorageView

/-- What undoing an entry does to the view of an account. -/
def undo (address : Address) (entry : JournalEntry) (self : StorageView) : StorageView :=
  match entry with
  | .accountTouched touched => if touched = address then { self with touched := false } else self
  | .storageChanged changed key hadValue =>
    if changed = address then
      { self with storage := Function.update self.storage key hadValue }
    else self
  | _ => self

/-- Undoes entries, the last one first. -/
def undoAll (address : Address) (entries : List JournalEntry) (self : StorageView) :
    StorageView :=
  entries.foldr (undo address) self

@[simp] theorem undoAll_append (address : Address) (entries entries' : List JournalEntry)
    (self : StorageView) :
    undoAll address (entries ++ entries') self =
      undoAll address entries (undoAll address entries' self) :=
  List.foldr_append

/-- The entry records nothing of the view. -/
def Neutral (address : Address) (entry : JournalEntry) : Prop :=
  ∀ self : StorageView, undo address entry self = self

/-- The view of a journaled account over a database. -/
def ofAccount {ε : Type} (database : Database ε) (address : Address) (account : Option Account) :
    StorageView where
  storage key :=
    ((account.bind fun account => (account.storage key).map EvmStorageSlot.presentValue)).getD
      (database.slot address key)
  touched := account.elim false Account.isTouched

/-- The slot that an entry restores is in the account. -/
def Restorable (address : Address) (account : Option Account) (entry : JournalEntry) : Prop :=
  ∀ key hadValue, entry = .storageChanged address key hadValue →
    (account.bind fun account => account.storage key) ≠ none

end StorageView

namespace Journal

variable {ε : Type}

theorem storage_setSlot (account : Account) (key other : U256) (slot : EvmStorageSlot) :
    (account.setSlot key slot).storage other =
      if other = key then some slot else account.storage other :=
  Function.update_apply _ _ _ _

theorem storage_modifySlot (account : Account) (key other : U256)
    (f : EvmStorageSlot → EvmStorageSlot) :
    (account.modifySlot key f).storage other =
      if other = key then (account.storage key).map f else account.storage other :=
  Function.update_apply _ _ _ _

/-- Undoing an entry keeps the slots of an account. -/
theorem storage_undoAccount (entry : JournalEntry) (address : Address) (account : Account)
    (key : U256) :
    (undoAccount entry address account).storage key = none ↔ account.storage key = none := by
  have hmodify (other : U256) (f : EvmStorageSlot → EvmStorageSlot) :
      (account.modifySlot other f).storage key = none ↔ account.storage key = none := by
    rw [storage_modifySlot]
    split
    · rename_i hkey
      rw [Option.map_eq_none_iff, hkey]
    · rfl
  cases entry with
  | storageChanged | storageWarmed =>
    unfold undoAccount
    dsimp only
    split
    · exact hmodify _ _
    · rfl
  | accountWarmed | accountTouched | balanceChange | nonceChange | accountCreated | codeChange =>
    unfold undoAccount
    dsimp only
    split <;> rfl
  | transientStorageChange => rfl
  | balanceTransfer =>
    unfold undoAccount
    dsimp only
    split
    · rfl
    · split <;> rfl

/-- Undoing entries keeps the slots of an account. -/
theorem slot_undoAll {address : Address} {key : U256} (entries : List JournalEntry)
    (state : Address → Option Account) :
    ((undoAll entries state address).bind fun account => account.storage key) = none ↔
      ((state address).bind fun account => account.storage key) = none := by
  induction entries with
  | nil => rfl
  | cons entry rest ih =>
    rw [← ih]
    change (((undoAll rest state address).map (undoAccount entry address)).bind _) = none ↔ _
    cases undoAll rest state address with
    | none => rfl
    | some account => exact storage_undoAccount entry address account key

/-- Undoing an entry in an account undoes it in the view. -/
theorem ofAccount_undo (database : Database ε) {address : Address}
    (haddress : address ≠ precompile3) {entry : JournalEntry} {account : Option Account}
    (h : StorageView.Restorable address account entry) :
    StorageView.ofAccount database address (account.map (undoAccount entry address)) =
      (StorageView.ofAccount database address account).undo address entry := by
  cases account with
  | none =>
    cases entry with
    | accountTouched touched =>
      unfold StorageView.undo
      dsimp only
      split <;> rfl
    | storageChanged changed key hadValue =>
      unfold StorageView.undo
      dsimp only
      split
      · rename_i hchanged
        subst hchanged
        exact absurd rfl (h key hadValue rfl)
      · rfl
    | _ => rfl
  | some account =>
    have hview {account' : Account}
        (hstorage : ∀ key, (account'.storage key).map EvmStorageSlot.presentValue =
          (account.storage key).map EvmStorageSlot.presentValue)
        (htouched : account'.isTouched = account.isTouched) :
        StorageView.ofAccount database address (some account') =
          StorageView.ofAccount database address (some account) := by
      refine StorageView.ext (funext fun key => ?_) htouched
      exact congrArg (fun value => Option.getD value _) (hstorage key)
    cases entry with
    | accountTouched touched =>
      unfold StorageView.undo undoAccount
      dsimp only [Option.map_some]
      by_cases htouched : touched = address
      · subst htouched
        rw [if_pos ⟨rfl, haddress⟩, if_pos rfl]
        rfl
      · rw [if_neg (fun h => htouched h.1), if_neg htouched]
    | storageChanged changed key hadValue =>
      unfold StorageView.undo undoAccount
      dsimp only [Option.map_some]
      by_cases hchanged : changed = address
      · subst hchanged
        rw [if_pos rfl, if_pos rfl]
        refine StorageView.ext (funext fun other => ?_) rfl
        obtain ⟨slot, hslot⟩ := Option.ne_none_iff_exists'.mp (h key hadValue rfl)
        change account.storage key = some slot at hslot
        change (((account.modifySlot key _).storage other).map _).getD _ =
          Function.update (StorageView.ofAccount database changed (some account)).storage key
            hadValue other
        rw [storage_modifySlot, hslot]
        by_cases hother : other = key
        · subst hother
          rw [if_pos rfl, Function.update_self]
          rfl
        · rw [if_neg hother, Function.update_of_ne hother]
          rfl
      · rw [if_neg hchanged, if_neg hchanged]
    | storageWarmed warmed key =>
      unfold StorageView.undo undoAccount
      dsimp only [Option.map_some]
      split
      · refine hview (fun other => ?_) rfl
        rw [storage_modifySlot]
        split
        · rename_i hkey
          rw [hkey, Option.map_map]
          rfl
        · rfl
      · rfl
    | accountWarmed | balanceChange | nonceChange | accountCreated | codeChange =>
      unfold undoAccount
      dsimp only [Option.map_some]
      split <;> rfl
    | transientStorageChange => rfl
    | balanceTransfer =>
      unfold undoAccount
      dsimp only [Option.map_some]
      split
      · rfl
      · split <;> rfl

/-- Undoing entries in an account undoes them in the view. -/
theorem ofAccount_undoAll (database : Database ε) {address : Address}
    (haddress : address ≠ precompile3) (entries : List JournalEntry)
    (state : Address → Option Account)
    (h : ∀ entry ∈ entries, StorageView.Restorable address (state address) entry) :
    StorageView.ofAccount database address (undoAll entries state address) =
      (StorageView.ofAccount database address (state address)).undoAll address entries := by
  induction entries with
  | nil => rfl
  | cons entry rest ih =>
    have hrest := ih fun entry hentry => h entry (List.mem_cons_of_mem _ hentry)
    have hrestorable : StorageView.Restorable address (undoAll rest state address) entry := by
      intro key hadValue hentry hnone
      exact h entry List.mem_cons_self key hadValue hentry ((slot_undoAll rest state).mp hnone)
    exact (ofAccount_undo database haddress hrestorable).trans
      (congrArg (StorageView.undo address entry) hrest)

/-! ## Logged changes -/

variable {s s' t : Journal ε} {address : Address}

/-- What the journal shows of the storage of an account. -/
def storageView (s : Journal ε) (address : Address) : StorageView :=
  ⟨s.storageAt address, s.touched address⟩

theorem storageView_eq (s : Journal ε) (address : Address) :
    s.storageView address =
      StorageView.ofAccount s.database address (s.inner.state address) := rfl

/-- The journaled slot. -/
def slot (s : Journal ε) (address : Address) (key : U256) : Option EvmStorageSlot :=
  (s.inner.state address).bind fun account => account.storage key

/-- An untouched account shows the storage of the database. -/
def Clean (s : Journal ε) (address : Address) : Prop :=
  s.touched address = false → s.storageAt address = s.database.slot address

/-- The second journal was reached from the first by logged changes: undoing the new entries
shows the storage of before, the transient one too. -/
structure Logged (address : Address) (s s' : Journal ε) : Prop where
  database_eq : s'.database = s.database
  entries : ∃ new, s'.inner.journal = s.inner.journal ++ new ∧
    (s'.storageView address).undoAll address new = s.storageView address ∧
    undoAllTransient new s'.inner.transientStorage = s.inner.transientStorage ∧
    ∀ entry ∈ new, StorageView.Restorable address (s'.inner.state address) entry
  slot_ne : ∀ key, s.slot address key ≠ none → s'.slot address key ≠ none
  clean : s.Clean address → s'.Clean address

/-- A change that shows the same storage and records nothing of it is logged. -/
theorem Logged.of_eq (hdatabase : s'.database = s.database) {new : List JournalEntry}
    (hjournal : s'.inner.journal = s.inner.journal ++ new)
    (hneutral : ∀ entry ∈ new, StorageView.Neutral address entry)
    (htransient : undoAllTransient new s'.inner.transientStorage = s.inner.transientStorage)
    (hview : s'.storageView address = s.storageView address)
    (hslot : ∀ key, s.slot address key ≠ none → s'.slot address key ≠ none) :
    Logged address s s' := by
  have hundo : (s'.storageView address).undoAll address new = s'.storageView address := by
    clear hjournal htransient
    induction new with
    | nil => rfl
    | cons entry rest ih =>
      have hrest := ih fun entry hentry => hneutral entry (List.mem_cons_of_mem _ hentry)
      exact (congrArg _ hrest).trans (hneutral entry List.mem_cons_self _)
  refine ⟨hdatabase, ⟨new, hjournal, hundo.trans hview, htransient, ?_⟩, hslot, ?_⟩
  · rintro entry hentry key hadValue rfl
    -- an entry that restores a slot is not neutral
    have hrestore := hneutral _ hentry ⟨fun _ => hadValue + 1, false⟩
    have hvalue := congrFun (congrArg StorageView.storage hrestore) key
    simp [StorageView.undo] at hvalue
  · intro hclean htouched
    have hstorage : s'.storageAt address = s.storageAt address :=
      congrArg StorageView.storage hview
    have hmark : s'.touched address = s.touched address := congrArg StorageView.touched hview
    rw [hstorage, hdatabase]
    exact hclean (hmark.symm.trans htouched)

theorem Logged.refl (address : Address) (s : Journal ε) : Logged address s s :=
  .of_eq rfl (List.append_nil _).symm (fun _ h => nomatch h) rfl rfl fun _ h => h

theorem Logged.trans (h : Logged address s s') (h' : Logged address s' t) :
    Logged address s t := by
  obtain ⟨new, hjournal, hundo, htransient, hrestorable⟩ := h.entries
  obtain ⟨new', hjournal', hundo', htransient', hrestorable'⟩ := h'.entries
  refine ⟨h'.database_eq.trans h.database_eq, ⟨new ++ new', ?_, ?_, ?_, ?_⟩,
    fun key hkey => h'.slot_ne key (h.slot_ne key hkey), fun hclean => h'.clean (h.clean hclean)⟩
  · rw [hjournal', hjournal, List.append_assoc]
  · rw [StorageView.undoAll_append, hundo', hundo]
  · rw [undoAllTransient_append, htransient', htransient]
  · intro entry hentry
    rcases List.mem_append.mp hentry with hold | hnew
    · intro key hadValue heq
      exact h'.slot_ne key (hrestorable entry hold key hadValue heq)
    · exact hrestorable' entry hnew

/-- A revert to the length that the log had shows the storage of then. -/
theorem Logged.storageView_revertTo (h : Logged address s t) (haddress : address ≠ precompile3) :
    (t.revertTo s.inner.journal.length).storageView address = s.storageView address := by
  obtain ⟨new, hjournal, hundo, -, hrestorable⟩ := h.entries
  have hdrop : t.inner.journal.drop s.inner.journal.length = new := by
    rw [hjournal, List.drop_left]
  have hview := ofAccount_undoAll t.database haddress new t.inner.state hrestorable
  rw [← hundo, storageView_eq t, ← hview, ← hdrop]
  rfl

/-- A revert to the length that the log had leaves the transient storage of then. -/
theorem Logged.transient_revertTo (h : Logged address s t) :
    (t.revertTo s.inner.journal.length).inner.transientStorage = s.inner.transientStorage := by
  obtain ⟨new, hjournal, -, htransient, -⟩ := h.entries
  change undoAllTransient (t.inner.journal.drop s.inner.journal.length) _ = _
  rw [hjournal, List.drop_left, htransient]

/-- A reverted journal is logged as the earlier one was. -/
theorem Logged.revertTo {r : Journal ε} (h : Logged address r s) (h' : Logged address s t)
    (haddress : address ≠ precompile3) :
    Logged address r (t.revertTo s.inner.journal.length) := by
  obtain ⟨new, hjournal, hundo, htransient, hrestorable⟩ := h.entries
  obtain ⟨new', hjournal', -⟩ := h'.entries
  have hview := h'.storageView_revertTo haddress
  have htake : (t.revertTo s.inner.journal.length).inner.journal = s.inner.journal := by
    change t.inner.journal.take _ = _
    rw [hjournal', List.take_left]
  have hslot (key : U256) (hkey : s.slot address key ≠ none) :
      (t.revertTo s.inner.journal.length).slot address key ≠ none :=
    fun hnone => h'.slot_ne key hkey ((slot_undoAll _ t.inner.state).mp hnone)
  refine ⟨h'.database_eq.trans h.database_eq, ⟨new, htake.trans hjournal, hview ▸ hundo,
    h'.transient_revertTo ▸ htransient, ?_⟩, fun key hkey => hslot key (h.slot_ne key hkey),
    fun hclean htouched => ?_⟩
  · intro entry hentry key hadValue heq
    exact hslot key (hrestorable entry hentry key hadValue heq)
  · have hstorage : (t.revertTo s.inner.journal.length).storageAt address =
        s.storageAt address := congrArg StorageView.storage hview
    have hmark : (t.revertTo s.inner.journal.length).touched address = s.touched address :=
      congrArg StorageView.touched hview
    rw [hstorage, h.clean hclean (hmark.symm.trans htouched), ← h'.database_eq]
    rfl

/-- The journal is an undo log of the storage of an account. -/
def undoLog (address : Address) (haddress : address ≠ precompile3) :
    UndoLog (Journal ε) (U256 → U256) where
  value s := s.storageAt address
  position s := s.inner.journal.length
  Extends := Logged address
  revert n s := s.revertTo n
  refl := Logged.refl address
  trans := Logged.trans
  value_revert h := congrArg StorageView.storage (h.storageView_revertTo haddress)
  extends_revert h h' := h.revertTo h' haddress

end Journal

end ScrollRevm
