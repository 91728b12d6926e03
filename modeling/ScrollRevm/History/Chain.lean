import ScrollRevm.History.Failure
import ScrollRevm.Lib.RingBuffer

/-!
# BLOCKHASH along a chain

From some block on, the EIP-2935 system contract writes the hash of the parent block
into the ring buffer at the start of every block. A journal inside a block has every
hash of its window in the buffer, however often the ring came round, and `BLOCKHASH`
returns it on every read path.
-/

namespace ScrollRevm

open FixedWidth StateResult RingBuffer ReferenceMainnet

variable {ε : Type}

/-- The cell of the ring buffer that holds the hash of a block. -/
def ringSlot (number : Nat) : U256 := BitVec.ofNat 256 (number % 8191)

theorem toNat_ringSlot (number : Nat) : (ringSlot number).toNat = number % 8191 := by
  have hlt : number % 8191 < 2 ^ 256 :=
    (Nat.mod_lt number (by decide)).trans (by decide)
  rw [ringSlot, BitVec.toNat_ofNat, Nat.mod_eq_of_lt hlt]

theorem ringSlot_separates : Separates ringSlot 8191 := by
  refine separates_of_mod fun i j heq => ?_
  rw [← toNat_ringSlot, ← toNat_ringSlot, heq]

/-- A number of 64 bits is looked up in its cell. -/
theorem historySlot_eq_ringSlot {number : U256} (h : number.toNat < 2 ^ 64) :
    historySlot number = ringSlot number.toNat := by
  apply BitVec.eq_of_toNat_eq
  rw [toNat_historySlot, toNat_ringSlot]
  omega

/-- A journal inside the block `number` of a chain with the given hashes, on which the
system contract writes the hash of the parent from block `start` on and nothing else
writes its storage. -/
inductive InBlock (hash : Nat → U256) (start : Nat) : Nat → Journal ε → Prop
  /-- Before the first write the storage may be anything. -/
  | unwritten {number : Nat} (s : Journal ε) (h : number ≤ start - 1) :
      InBlock hash start number s
  /-- The system call at the start of a block. -/
  | systemCall {number : Nat} {s s' : Journal ε} (h : InBlock hash start number s)
      (hstart : start ≤ number + 1)
      (hwrite : s'.storageAt historyStorageAddress =
        Function.update (s.storageAt historyStorageAddress) (ringSlot number) (hash number)) :
      InBlock hash start (number + 1) s'
  /-- Anything else. -/
  | step {number : Nat} {s s' : Journal ε} (h : InBlock hash start number s)
      (hkeep : s'.storageAt historyStorageAddress = s.storageAt historyStorageAddress) :
      InBlock hash start number s'

variable {hash : Nat → U256} {start number : Nat} {s s' : Journal ε}

/-- Inside a block the ring buffer is filled with the hashes of the blocks before it. -/
theorem InBlock.storageAt_eq (h : InBlock hash start number s) :
    ∃ initial, s.storageAt historyStorageAddress =
      written ringSlot hash (start - 1) initial number := by
  induction h with
  | unwritten s h => exact ⟨_, (written_of_le h).symm⟩
  | systemCall _ hstart hwrite ih =>
    obtain ⟨initial, hinitial⟩ := ih
    refine ⟨initial, ?_⟩
    rw [hwrite, hinitial, written_succ (by omega)]
  | step _ hkeep ih =>
    obtain ⟨initial, hinitial⟩ := ih
    exact ⟨initial, hkeep.trans hinitial⟩

/-- Inside a block the cell of every block in the window holds its hash. -/
theorem InBlock.storageAt_ringSlot (h : InBlock hash start number s)
    (hfilled : start = 1 ∨ start + 255 ≤ number) {i : Nat} (hlt : i < number)
    (hle : number ≤ i + 256) : s.storageAt historyStorageAddress (ringSlot i) = hash i := by
  obtain ⟨initial, hinitial⟩ := h.storageAt_eq
  rw [hinitial]
  exact written_slot ringSlot_separates (by omega) hlt (by omega)

/-! ## The read paths -/

section Paths

variable {address : Address} {key : U256}

theorem noTrace_cacheAccount (s : Journal ε) (address : Address) :
    NoTrace s (s.cacheAccount address) := by
  cases hstate : s.inner.state address with
  | some account =>
    rw [Journal.cacheAccount_of_some hstate]
    exact .refl s
  | none =>
    rw [← Journal.rollbackLoad_of_none hstate]
    exact noTrace_rollbackLoad s address

theorem NoTrace.storageAt_eq (h : NoTrace s s') : s'.storageAt = s.storageAt :=
  Journal.storageAt_eq (funext fun address => funext fun key => h.journaled_eq address key)
    h.database_eq

theorem NoTrace.sloadCost_eq (h : NoTrace s s') (gasParams : GasParams) :
    s'.sloadCost gasParams address key = s.sloadCost gasParams address key := by
  rw [Journal.sloadCost, Journal.sloadCost, h.isSlotCold_eq]

/-- An affordable SLOAD of a cached account returns the slot and changes no slot. -/
theorem sload_ok {account : Account} (hstate : s.inner.state address = some account)
    (hanswers : s.database.Answers) {gasParams : GasParams} {gas : U64}
    (hgas : s.sloadCost gasParams address key ≤ gas.toNat) :
    ∃ left s', Journal.sload gasParams address key gas s =
      .ok (s.storageAt address key, left, s') ∧ s'.storageAt = s.storageAt := by
  obtain ⟨value, hvalue⟩ := hanswers.storage address key
  obtain ⟨slot, hslot⟩ := Journal.exists_accessedSlot s account hvalue
  refine ⟨BitVec.ofNat 64 (gas.toNat - s.sloadCost gasParams address key),
    s.accessSlot address account key slot, ?_, Journal.storageAt_accessSlot hstate hslot⟩
  unfold Journal.sload
  rw [if_neg (not_lt.mpr hgas), hstate]
  dsimp only
  rw [Journal.sloadAccount_eq, hslot, ← Journal.presentValue_accessedSlot hstate hslot]

theorem loadAccount_of_answers (hanswers : s.database.Answers) (address : Address) :
    ∃ load s', (Journal.loadAccount address).run s = .ok load s' := by
  cases hload : (Journal.loadAccount address).run s with
  | ok load s' => exact ⟨load, s', rfl⟩
  | error e s' =>
    exact absurd (fun _ => hanswers.basic address) (Journal.not_readable_of_loadAccount_error hload)

/-- The account and its delegation load, and no slot changes. -/
theorem loadAccountDelegated_of_answers (hanswers : s.database.Answers) (address : Address) :
    ∃ load s', (Journal.loadAccountDelegated address).run s = .ok load s' ∧
      (∃ account, s'.inner.state address = some account) ∧ s'.storageAt = s.storageAt ∧
      s'.database = s.database := by
  obtain ⟨load, t, hload⟩ := loadAccount_of_answers hanswers address
  obtain ⟨hstate, -, -, hdatabase⟩ := Journal.loadAccount_ok hload
  have hstorage := Journal.storageAt_loadAccount hload
  unfold Journal.loadAccountDelegated
  rw [run_bind_of_ok hload]
  cases load.data.info.code with
  | legacy bytes => exact ⟨load, t, rfl, ⟨_, hstate⟩, hstorage, hdatabase⟩
  | eip7702 target =>
    have hanswers' : t.database.Answers := by rwa [hdatabase]
    obtain ⟨load', s', hload'⟩ := loadAccount_of_answers hanswers' target
    refine ⟨load, s', ?_, Journal.loadAccount_keeps hload' hstate,
      (Journal.storageAt_loadAccount hload').trans hstorage,
      (Journal.loadAccount_ok hload').2.2.2.trans hdatabase⟩
    dsimp only
    rw [run_bind_of_ok hload']
    rfl

/-- The lookup before TsukiV2 returns the slot and changes no slot. -/
theorem freeLookup_ok {machine : Machine (Journal ε)} (hanswers : machine.host.database.Answers)
    (index : U256) :
    ∃ s', (freeLookup index).run machine =
        .ok (machine.host.storageAt historyStorageAddress index) { machine with host := s' } ∧
      s'.storageAt = machine.host.storageAt := by
  obtain ⟨load, t, hload, ⟨account, hstate⟩, hstorage, hdatabase⟩ :=
    loadAccountDelegated_of_answers hanswers historyStorageAddress
  have hanswers' : t.database.Answers := by rwa [hdatabase]
  obtain ⟨value, hvalue⟩ := hanswers'.storage historyStorageAddress index
  obtain ⟨slot, hslot⟩ := Journal.exists_accessedSlot t account hvalue
  have hread : (Journal.sloadSkipColdLoad historyStorageAddress index false).run t =
      .ok ⟨slot.presentValue, t.isSlotCold historyStorageAddress index⟩
        (t.accessSlot historyStorageAddress account index slot) := by
    rw [Journal.run_sloadSkipColdLoad hstate (Bool.and_false _), Journal.sloadAccount_eq, hslot]
  have hpresent := Journal.presentValue_accessedSlot hstate hslot
  refine ⟨t.accessSlot historyStorageAddress account index slot, ?_,
    (Journal.storageAt_accessSlot hstate hslot).trans hstorage⟩
  have hload' : (JournalTr.loadAccountDelegated (J := Journal ε) historyStorageAddress).run
      machine.host = .ok load t := hload
  have hread' : (JournalTr.sloadSkipColdLoad (J := Journal ε) historyStorageAddress index
      false).run (machine.withHost t).host = .ok _ _ := hread
  unfold freeLookup
  rw [run_bind_of_ok (run_onHost_of_ok hload' _), run_bind_of_ok (run_onHost_of_ok hread' _),
    ← hstorage, ← hpresent]
  rfl

end Paths

/-! ## The hashes of the window -/

section Chain

variable {J : Type} [JournalTr J ε] [LawfulJournal J]
variable {env : Env} {machine : Machine J} {n : U256} {rest : List U256}

/-- A run that returns in the view returns. -/
theorem exists_run_of_view {keccak256 : Bytes → U256} {m' : Machine (Journal ε)}
    (h : (blockhash keccak256 env).run (machine.mapHost JournalTr.view) = .ok () m') :
    ∃ machine', (blockhash keccak256 env).run machine = .ok () machine' ∧
      machine'.stack = m'.stack ∧ JournalTr.view machine'.host = m'.host := by
  obtain ⟨machine', hrun, hview⟩ := (blockhash_simulates keccak256 env).exists_ok h
  exact ⟨machine', hrun, congrArg Machine.stack hview, congrArg Machine.host hview⟩

/-- Over a database that answers, a lookup in the window with enough gas writes the slot of
the number, and changes no slot. -/
theorem blockhash_ok_of_inWindow (hspec : env.cfg.spec.isEnabledIn .feynman = true)
    (hwindow : InWindow env n) (hstack : machine.stack = n :: rest)
    (hanswers : (JournalTr.view machine.host).database.Answers)
    (hgas : env.cfg.spec.isEnabledIn .tsukiV2 = true →
      (JournalTr.view machine.host).sloadCost env.cfg.gasParams historyStorageAddress
        (historySlot n) ≤ machine.gas.toNat)
    (keccak256 : Bytes → U256) :
    ∃ machine', (blockhash keccak256 env).run machine = .ok () machine' ∧
      machine'.stack = (JournalTr.view machine.host).storageAt historyStorageAddress
        (historySlot n) :: rest ∧
      (JournalTr.view machine'.host).storageAt = (JournalTr.view machine.host).storageAt := by
  by_cases hcharged : env.cfg.spec.isEnabledIn .tsukiV2 = true
  · have hreadable : (JournalTr.view machine.host).Readable historyStorageAddress :=
      fun _ => hanswers.basic _
    obtain ⟨account, hcached⟩ := Journal.cacheAccount_cached hreadable
    have htrace := noTrace_cacheAccount (JournalTr.view machine.host) historyStorageAddress
    have hanswers' : ((JournalTr.view machine.host).cacheAccount
        historyStorageAddress).database.Answers := by
      rwa [htrace.database_eq]
    have hgas' : ((JournalTr.view machine.host).cacheAccount historyStorageAddress).sloadCost
        env.cfg.gasParams historyStorageAddress (historySlot n) ≤ machine.gas.toNat := by
      rw [htrace.sloadCost_eq]
      exact hgas hcharged
    obtain ⟨left, s', hsload, hslots⟩ := sload_ok hcached hanswers' hgas'
    have hreturned := returned_blockhash hcharged hwindow hstack hreadable keccak256
    rw [hsload] at hreturned
    cases hrun : (blockhash keccak256 env).run machine with
    | error e machine' =>
      rw [hrun] at hreturned
      cases hreturned
    | ok _ machine' =>
      rw [hrun] at hreturned
      have hexit : machine'.mapHost JournalTr.view = ⟨_ :: rest, left, s'⟩ :=
        congrArg Prod.snd (Except.ok.inj hreturned)
      have hhost : JournalTr.view machine'.host = s' := congrArg Machine.host hexit
      refine ⟨machine', rfl, ?_, ?_⟩
      · rw [← htrace.storageAt_eq]
        exact congrArg Machine.stack hexit
      · rw [hhost, hslots, htrace.storageAt_eq]
  · have hstack' : (machine.mapHost JournalTr.view).stack = n :: rest := hstack
    have hanswers' : (machine.mapHost JournalTr.view).host.database.Answers := hanswers
    obtain ⟨s', hlookup, hslots⟩ := freeLookup_ok hanswers' (historySlot n)
    have hrun : (blockhash keccak256 env).run (machine.mapHost JournalTr.view) =
        .ok () ⟨(JournalTr.view machine.host).storageAt historyStorageAddress
          (historySlot n) :: rest, machine.gas, s'⟩ := by
      rw [blockhash, run_blockhashWith_of_feynman hspec hwindow hstack', if_neg hcharged,
        run_bind_of_ok hlookup]
      change EStateM.Result.ok () (⟨_ :: machine.stack.tail, machine.gas, s'⟩ :
        Machine (Journal ε)) = _
      rw [hstack]
      rfl
    obtain ⟨machine', hmachine', hexit, hhost⟩ := exists_run_of_view hrun
    exact ⟨machine', hmachine', hexit, by rw [hhost]; exact hslots⟩

/-- From Feynman on, inside every block whose window the system contract has filled,
`BLOCKHASH` returns the hash of each of the last 256 blocks and zero for every other
number, and stays inside the block. The numbers of the window have slots of their own, and
every slot still holds its hash. -/
theorem blockhash_chain (hspec : env.cfg.spec.isEnabledIn .feynman = true)
    (hnumber : env.block.number.toNat = number) (hlt : number < 2 ^ 64)
    (hfilled : start = 1 ∨ start + 255 ≤ number)
    (hblock : InBlock hash start number (JournalTr.view machine.host))
    (hanswers : (JournalTr.view machine.host).database.Answers)
    (hstack : machine.stack = n :: rest)
    (hgas : env.cfg.spec.isEnabledIn .tsukiV2 = true →
      (JournalTr.view machine.host).sloadCost env.cfg.gasParams historyStorageAddress
        (historySlot n) ≤ machine.gas.toNat)
    (keccak256 : Bytes → U256) :
    (∃ machine', (blockhash keccak256 env).run machine = .ok () machine' ∧
      machine'.stack =
        (if number ≤ n.toNat + 256 ∧ n.toNat < number then hash n.toNat else 0) :: rest ∧
      InBlock hash start number (JournalTr.view machine'.host)) ∧
      (∀ i j, InWindow env i → InWindow env j → historySlot i = historySlot j → i = j) ∧
      ∀ i, InWindow env i →
        (JournalTr.view machine.host).storageAt historyStorageAddress (historySlot i) =
          hash i.toNat := by
  have hslot {i : U256} (hi : InWindow env i) : historySlot i = ringSlot i.toNat :=
    historySlot_eq_ringSlot (by have := hi.1; omega)
  have hheld (i : U256) (hi : InWindow env i) :
      (JournalTr.view machine.host).storageAt historyStorageAddress (historySlot i) =
        hash i.toNat := by
    have hbefore : i.toNat < env.block.number.toNat := hi.1
    have hrecent : env.block.number.toNat ≤ i.toNat + 256 := hi.2
    rw [hslot hi]
    exact hblock.storageAt_ringSlot hfilled (by omega) (by omega)
  refine ⟨?_, ?_, hheld⟩
  · by_cases hwindow : InWindow env n
    · obtain ⟨machine', hrun, hexit, hstorage⟩ :=
        blockhash_ok_of_inWindow hspec hwindow hstack hanswers hgas keccak256
      obtain ⟨hbefore, hrecent⟩ := hwindow
      refine ⟨machine', hrun, ?_, hblock.step (congrFun hstorage _)⟩
      rw [hexit, hheld n ⟨hbefore, hrecent⟩, if_pos ⟨by omega, by omega⟩]
    · have hout : ¬(number ≤ n.toNat + 256 ∧ n.toNat < number) := fun h =>
        hwindow ⟨by omega, by omega⟩
      refine ⟨{ machine with stack := 0 :: rest },
        run_blockhashWith_of_not_inWindow hwindow hstack keccak256 _, ?_, hblock⟩
      rw [if_neg hout]
  · intro i j hi hj heq
    rw [hslot hi, hslot hj] at heq
    obtain ⟨hi₁, hi₂⟩ := hi
    obtain ⟨hj₁, hj₂⟩ := hj
    exact BitVec.eq_of_toNat_eq (ringSlot_separates.inj (by omega) (by omega) heq)

end Chain

/-! ## A sample -/

/-- A journal that reads the ring buffer of a chain from the database. -/
def chainJournal (hash : Nat → U256) (number : Nat) : Journal Unit where
  database :=
    { basic := fun _ => .ok (some {})
      storage := fun _ key => .ok (written ringSlot hash 0 (fun _ => 0) number key) }

theorem inBlock_chainJournal (hash : Nat → U256) (number : Nat) :
    InBlock hash 1 number (chainJournal hash number) := by
  induction number with
  | zero => exact .unwritten _ (Nat.zero_le _)
  | succ number ih =>
    refine .systemCall ih (by omega) ?_
    funext key
    exact congrFun (written_succ (Nat.zero_le number)) key

/-- The parent of block 9000, whose ring has come round. -/
theorem blockhash_chain_wrapped :
    let hash (i : Nat) : U256 := BitVec.ofNat 256 (i + 7)
    ∃ machine', (blockhash (fun _ => 0) (historyEnv 9000)).run
        (⟨[8999], 2100, chainJournal hash 9000⟩ : Machine (Journal Unit)) = .ok () machine' ∧
      machine'.stack = [9006] := by
  intro hash
  have hanswers : (chainJournal hash 9000).database.Answers :=
    ⟨fun _ => ⟨_, rfl⟩, fun _ _ => ⟨_, rfl⟩⟩
  let machine : Machine (Journal Unit) := ⟨[8999], 2100, chainJournal hash 9000⟩
  have hstack : machine.stack = [8999] := rfl
  have hnumber : (historyEnv 9000).block.number.toNat = 9000 := rfl
  have hblock : InBlock hash 1 9000 (JournalTr.view machine.host) :=
    inBlock_chainJournal hash 9000
  have hgas : (JournalTr.view machine.host).sloadCost (historyEnv 9000).cfg.gasParams
      historyStorageAddress (historySlot 8999) ≤ machine.gas.toNat := le_rfl
  obtain ⟨machine', hrun, hexit, -⟩ := (blockhash_chain rfl hnumber (by decide) (Or.inl rfl)
    hblock hanswers hstack (fun _ => hgas) fun _ => 0).1
  refine ⟨machine', hrun, ?_⟩
  rw [hexit]
  decide +kernel

end ScrollRevm
