import ScrollRevm.History.Lookup

/-!
# BLOCKHASH as an SLOAD of the history contract

From TsukiV2 on, `BLOCKHASH` of a number in the window halts, returns, charges and
records exactly what an SLOAD of the ring buffer slot does, whether the SLOAD runs with
the history account just cached or really loaded.
-/

namespace ScrollRevm

open FixedWidth StateResult

variable {ε : Type}

/-! ## Journals with the same slots -/

/-- Two journals that have the same slots of an account. -/
structure SlotsAgree (address : Address) (s t : Journal ε) : Prop where
  storage_eq : (s.inner.state address).map Account.storage =
    (t.inner.state address).map Account.storage
  transactionId_eq : s.inner.transactionId = t.inner.transactionId
  warmAddresses_eq : s.inner.warmAddresses = t.inner.warmAddresses
  database_eq : s.database = t.database

/-- Two accesses of the same slots, which started from `s` and `t`: they leave the same
cached slots and record the same entries, and the slots have the same warmth now and
after a revert to any point before both. -/
structure SameSlots (address : Address) (s t s' t' : Journal ε) : Prop where
  storage_eq : (s'.inner.state address).map Account.storage =
    (t'.inner.state address).map Account.storage
  entries : ∃ entries, s'.inner.journal = s.inner.journal ++ entries ∧
    t'.inner.journal = t.inner.journal ++ entries
  isSlotCold_eq : ∀ key, s'.isSlotCold address key = t'.isSlotCold address key
  isSlotCold_revertTo : ∀ n ≤ s.inner.journal.length, ∀ key,
    (s'.revertTo n).isSlotCold address key = (t'.revertTo n).isSlotCold address key

/-- Two accesses halt alike, or return the same value and gas and access the same slots. -/
inductive SameAccess (address : Address) (s t : Journal ε) :
    Except InstructionResult (U256 × U64 × Journal ε) →
      Except InstructionResult (U256 × U64 × Journal ε) → Prop
  | halt (result : InstructionResult) : SameAccess address s t (.error result) (.error result)
  | access {s' t' : Journal ε} (value : U256) (gas : U64)
      (slots : SameSlots address s t s' t') :
      SameAccess address s t (.ok (value, gas, s')) (.ok (value, gas, t'))

section SlotsAgree

variable {address : Address} {s t : Journal ε}

theorem coldSlot_of_storage_eq {account account' : Option Account}
    (h : account.map Account.storage = account'.map Account.storage) (transactionId : Nat)
    (key : U256) :
    Journal.coldSlot transactionId account key = Journal.coldSlot transactionId account' key := by
  have hbind (account : Option Account) : (account.bind fun account => account.storage key) =
      (account.map Account.storage).bind fun storage => storage key := by
    cases account <;> rfl
  rw [Journal.coldSlot, Journal.coldSlot, hbind, hbind, h]

theorem SlotsAgree.isSlotCold_eq (h : SlotsAgree address s t) (key : U256) :
    s.isSlotCold address key = t.isSlotCold address key := by
  rw [Journal.isSlotCold_eq, Journal.isSlotCold_eq, h.transactionId_eq, h.warmAddresses_eq,
    coldSlot_of_storage_eq h.storage_eq]

/-- An SLOAD acts alike on journals with the same slots. -/
theorem SlotsAgree.sload (h : SlotsAgree address s t) (gasParams : GasParams) (key : U256)
    (gas : U64) :
    (∃ halt, Journal.sload gasParams address key gas s = .error halt ∧
        Journal.sload gasParams address key gas t = .error halt) ∨
      ∃ value rest s' t' entries,
        Journal.sload gasParams address key gas s = .ok (value, rest, s') ∧
          Journal.sload gasParams address key gas t = .ok (value, rest, t') ∧
          SlotsAgree address s' t' ∧
          s'.inner.journal = s.inner.journal ++ entries ∧
          t'.inner.journal = t.inner.journal ++ entries := by
  have hcold := h.isSlotCold_eq key
  have hcost : s.sloadCost gasParams address key = t.sloadCost gasParams address key := by
    rw [Journal.sloadCost, Journal.sloadCost, hcold]
  unfold Journal.sload
  rw [hcost]
  dsimp only
  by_cases hgas : gas.toNat < t.sloadCost gasParams address key
  · rw [if_pos hgas, if_pos hgas]
    exact Or.inl ⟨_, rfl, rfl⟩
  rw [if_neg hgas, if_neg hgas]
  cases hs : s.inner.state address with
  | none =>
    have hstorage := h.storage_eq
    rw [hs] at hstorage
    have ht : t.inner.state address = none := Option.map_eq_none_iff.mp hstorage.symm
    rw [ht]
    exact Or.inl ⟨_, rfl, rfl⟩
  | some account =>
    have hstorage := h.storage_eq
    rw [hs] at hstorage
    obtain ⟨account', ht, hsame⟩ := Option.map_eq_some_iff.mp hstorage.symm
    rw [ht]
    have haccessed : s.accessedSlot address account key = t.accessedSlot address account' key := by
      rw [Journal.accessedSlot, Journal.accessedSlot, hsame, h.transactionId_eq, h.database_eq]
    simp only [Journal.sloadAccount_eq, haccessed]
    cases t.accessedSlot address account' key with
    | error e => exact Or.inl ⟨_, rfl, rfl⟩
    | ok slot =>
      refine Or.inr ⟨_, _, _, _, _, rfl, rfl, ⟨?_, ?_, ?_, ?_⟩,
        Journal.journal_accessSlot _ _ _ _ _, ?_⟩
      · simp [Account.setSlot, hsame]
      · simpa using h.transactionId_eq
      · simpa using h.warmAddresses_eq
      · simpa using h.database_eq
      · rw [Journal.journal_accessSlot, hcold]

/-- Where only `t` recorded entries before, none of them a slot access, the two SLOADs are
the same access. -/
theorem SlotsAgree.sameAccess (h : SlotsAgree address s t) {entries : List JournalEntry}
    (hentries : t.inner.journal = s.inner.journal ++ entries)
    (hnot : ∀ key, .storageWarmed address key ∉ entries) (gasParams : GasParams) (key : U256)
    (gas : U64) :
    SameAccess address s t (Journal.sload gasParams address key gas s)
      (Journal.sload gasParams address key gas t) := by
  rcases h.sload gasParams key gas with
    ⟨halt, hs, ht⟩ | ⟨value, rest, s', t', recorded, hs, ht, hagree, hs', ht'⟩
  · rw [hs, ht]
    exact .halt halt
  rw [hs, ht]
  refine .access value rest ⟨hagree.storage_eq, ⟨recorded, hs', ht'⟩, hagree.isSlotCold_eq, ?_⟩
  intro n hn key
  have hmem : (.storageWarmed address key ∈ s'.inner.journal.drop n) ↔
      .storageWarmed address key ∈ t'.inner.journal.drop n := by
    rw [hs', ht', hentries, List.append_assoc, List.drop_append_of_le_length hn,
      List.drop_append_of_le_length hn]
    simp only [List.mem_append, hnot key, false_or]
  rw [Journal.isSlotCold_revertTo, Journal.isSlotCold_revertTo, hagree.isSlotCold_eq,
    hagree.warmAddresses_eq]
  simp only [hmem]

end SlotsAgree

/-! ## The history account, cached or loaded -/

section Loaded

variable {address : Address} {s s' : Journal ε}

@[simp] theorem Journal.journal_cacheAccount (s : Journal ε) (address : Address) :
    (s.cacheAccount address).inner.journal = s.inner.journal := by
  unfold cacheAccount
  split <;> rfl

/-- A real load of the account finds the slots that the cached account has, and records no
slot access. -/
theorem slotsAgree_loadAccount {load : StateLoad Account}
    (h : (Journal.loadAccount address).run s = .ok load s') :
    SlotsAgree address (s.cacheAccount address) s' ∧
      ∃ entries, s'.inner.journal = s.inner.journal ++ entries ∧
        ∀ key, .storageWarmed address key ∉ entries := by
  have hpush (t : Journal ε) (account : Account) :
      ((t.setAccount address account).push (.accountWarmed address)).inner.journal =
        t.inner.journal ++ [.accountWarmed address] := rfl
  have hnot (key : U256) : JournalEntry.storageWarmed address key ∉
      [JournalEntry.accountWarmed address] := by simp
  unfold Journal.cacheAccount
  cases Journal.loads_of_run h with
  | accessed hstate =>
    rw [hstate]
    exact ⟨⟨rfl, rfl, rfl, rfl⟩, [], (List.append_nil _).symm, fun _ => List.not_mem_nil⟩
  | marked hstate =>
    rw [hstate]
    refine ⟨⟨?_, rfl, rfl, rfl⟩, _, hpush s _, hnot⟩
    simp [hstate, Account.markWarmWithTransactionId]
  | readCold hstate hbasic =>
    rw [hstate]
    simp only [hbasic]
    refine ⟨⟨?_, rfl, rfl, rfl⟩, _, hpush s _, hnot⟩
    simp [Account.loaded]
  | readWarm hstate hbasic =>
    rw [hstate]
    simp only [hbasic]
    refine ⟨⟨?_, rfl, rfl, rfl⟩, [], (List.append_nil _).symm, fun _ => List.not_mem_nil⟩
    simp [Account.loaded]

end Loaded

end ScrollRevm
