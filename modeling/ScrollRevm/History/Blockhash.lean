import ScrollRevm.History.Sload
import ScrollRevm.Revm.Reference

/-!
# The whole instruction as an SLOAD

The instruction pops a number, looks its slot up at a charge and writes the hash. Over
any lawful journal it does so as an SLOAD of the slot, and no run of it shows in the
warmth of the history account.
-/

namespace ScrollRevm

open FixedWidth StateResult ReferenceMainnet

section Blockhash

variable {J ε : Type} [JournalTr J ε] [LawfulJournal J]

/-- The instruction acts on the records of its journal as over the documented one. -/
theorem blockhash_simulates (keccak256 : Bytes → U256) (env : Env) :
    Simulates (Machine.mapHost JournalTr.view) (blockhash (J := J) keccak256 env)
      (blockhash (J := Journal ε) keccak256 env) :=
  blockhashWith_simulates eip7709HistorySload_simulates keccak256 env

theorem returned_bind_setTop {K : Type} (x : Instruction K U256) (machine : Machine K) :
    returned ((x >>= setTop).run machine) =
      (returned (x.run machine)).map fun (value, machine) =>
        ((), { machine with stack := value :: machine.stack.tail }) := by
  cases hx : x.run machine with
  | ok value machine' =>
    rw [run_bind_of_ok hx]
    rfl
  | error e machine' =>
    rw [run_bind_of_error hx]
    rfl

variable {env : Env} {number : U256} {machine : Machine J} {rest : List U256}

/-- A readable account is in the cache once it is cached. -/
theorem Journal.cacheAccount_cached {s : Journal ε} {address : Address}
    (h : s.Readable address) :
    ∃ account, (s.cacheAccount address).inner.state address = some account := by
  cases hstate : s.inner.state address with
  | some account => exact ⟨account, by rwa [cacheAccount_of_some hstate]⟩
  | none =>
    obtain ⟨info, hbasic⟩ := h hstate
    have hcached : s.cacheAccount address = s.setAccount address
        { Account.loaded (info.getD {}) s.inner.transactionId with
          isCold := s.isAccountCold address } := by
      rw [cacheAccount, hstate, hbasic]
    exact ⟨_, by rw [hcached, state_setAccount, Function.update_self]⟩

/-- From TsukiV2 on, a lookup in the window is the SLOAD over the cached account. -/
theorem returned_blockhash (hspec : env.cfg.spec.isEnabledIn .tsukiV2 = true)
    (hwindow : InWindow env number) (hstack : machine.stack = number :: rest)
    (hreadable : (JournalTr.view machine.host).Readable historyStorageAddress)
    (keccak256 : Bytes → U256) :
    returned (mapState (Machine.mapHost JournalTr.view)
        ((blockhash keccak256 env).run machine)) =
      (Journal.sload env.cfg.gasParams historyStorageAddress (historySlot number) machine.gas
        ((JournalTr.view machine.host).cacheAccount historyStorageAddress)).map
          fun (value, gas, s) => ((), ⟨value :: rest, gas, s⟩) := by
  obtain ⟨account, hcached⟩ := Journal.cacheAccount_cached hreadable
  have hstack' : (machine.mapHost JournalTr.view).stack = number :: rest := hstack
  have hload (skipCold : Bool) :
      returned ((eip7709HistorySload (historySlot number) skipCold).run
          (machine.mapHost JournalTr.view).host) =
        returned ((Journal.sloadSkipColdLoad historyStorageAddress (historySlot number)
          skipCold).run ((JournalTr.view machine.host).cacheAccount historyStorageAddress)) :=
    returned_eip7709HistorySload hreadable
  rw [blockhash_simulates keccak256 env machine, blockhash,
    run_blockhashWith_of_inWindow hspec hwindow hstack', returned_bind_setTop,
    returned_chargedLookup_congr hload, returned_chargedLookup_sload _ _ hcached]
  change ((Journal.sload _ _ _ machine.gas _).map _).map _ = _
  cases Journal.sload env.cfg.gasParams historyStorageAddress (historySlot number) machine.gas
      ((JournalTr.view machine.host).cacheAccount historyStorageAddress) with
  | error halt => rfl
  | ok access =>
    change Except.ok _ = Except.ok _
    simp only [Machine.mapHost, hstack, List.tail_cons]

/-- A lookup of an account that cannot be read halts and changes nothing. -/
theorem blockhash_halts_of_not_readable (hspec : env.cfg.spec.isEnabledIn .tsukiV2 = true)
    (hwindow : InWindow env number) (hstack : machine.stack = number :: rest)
    (hreadable : ¬(JournalTr.view machine.host).Readable historyStorageAddress)
    (keccak256 : Bytes → U256) :
    ∃ halt machine', (blockhash keccak256 env).run machine = .error halt machine' ∧
      JournalTr.view machine'.host = JournalTr.view machine.host := by
  have hstack' : (machine.mapHost JournalTr.view).stack = number :: rest := hstack
  suffices h : ∃ (halt : InstructionResult) (gas : U64),
      (chargedLookup eip7709HistorySload env.cfg.gasParams
      (historySlot number)).run (machine.mapHost JournalTr.view) =
        .error halt ⟨machine.stack, gas, JournalTr.view machine.host⟩ by
    obtain ⟨halt, gas, hlookup⟩ := h
    have hrun : (blockhash keccak256 env).run (machine.mapHost JournalTr.view) =
        .error halt ⟨machine.stack, gas, JournalTr.view machine.host⟩ := by
      rw [blockhash, run_blockhashWith_of_inWindow hspec hwindow hstack',
        run_bind_of_error hlookup]
    obtain ⟨machine', hmachine', hview⟩ :=
      (blockhash_simulates keccak256 env).exists_error hrun
    exact ⟨halt, machine', hmachine', congrArg Machine.host hview⟩
  by_cases hwarm : machine.gas < env.cfg.gasParams.warmStorageReadCost
  · have hwarm' : (machine.mapHost JournalTr.view).gas <
        env.cfg.gasParams.warmStorageReadCost := hwarm
    refine ⟨.outOfGas, machine.gas, ?_⟩
    unfold chargedLookup
    rw [run_bind_of_error (run_recordCost_of_lt hwarm')]
    rfl
  · have hle : env.cfg.gasParams.warmStorageReadCost ≤
        (machine.mapHost JournalTr.view).gas := BitVec.not_lt.mp hwarm
    have hload (skipCold : Bool) :
        ∃ e, (eip7709HistorySload (J := Journal ε) (historySlot number) skipCold).run
          (machine.mapHost JournalTr.view).host =
            .error (.dbError e) (JournalTr.view machine.host) :=
      run_eip7709HistorySload_of_not_readable hreadable
    obtain ⟨e, hload⟩ := hload (decide ((machine.mapHost JournalTr.view).gas -
      env.cfg.gasParams.warmStorageReadCost < env.cfg.gasParams.coldStorageAdditionalCost))
    refine ⟨.fatalExternalError, machine.gas - env.cfg.gasParams.warmStorageReadCost, ?_⟩
    rw [run_chargedLookup_of_le hle, hload]
    rfl

/-- A lookup in the window keeps the warmth of the account. -/
theorem blockhash_keepsWarmth (hspec : env.cfg.spec.isEnabledIn .tsukiV2 = true)
    (hwindow : InWindow env number) (hstack : machine.stack = number :: rest)
    (keccak256 : Bytes → U256) :
    KeepsWarmth historyStorageAddress (JournalTr.view machine.host)
      (JournalTr.view (exitState ((blockhash keccak256 env).run machine)).host) := by
  have hstack' : (machine.mapHost JournalTr.view).stack = number :: rest := hstack
  have hview := (blockhash_simulates keccak256 env).exitState_eq machine
  have hlookup := chargedLookup_keepsWarmth (ε := ε) env.cfg.gasParams (historySlot number)
  have hkeeps : Exits (fun m m' : Machine (Journal ε) =>
      KeepsWarmth historyStorageAddress m.host m'.host)
      (chargedLookup eip7709HistorySload env.cfg.gasParams (historySlot number) >>= setTop) :=
    Exits.bind (fun _ _ _ h h' => h.trans h') hlookup fun _ m => .refl m.host
  have hrun := hkeeps (machine.mapHost JournalTr.view)
  rw [← run_blockhashWith_of_inWindow hspec hwindow hstack' keccak256] at hrun
  have hhost : JournalTr.view (exitState ((blockhash keccak256 env).run machine)).host =
      (exitState ((blockhash keccak256 env).run (machine.mapHost JournalTr.view))).host :=
    congrArg Machine.host hview
  rw [hhost]
  exact hrun

/-- From TsukiV2 on, `BLOCKHASH` of a number in the window is an SLOAD of the ring buffer
slot: over any journal from which the history account can be read it halts, returns,
charges and leaves the slots as the SLOAD does, with the account cached or loaded. The
account is as warm as before, now and after any revert. -/
theorem blockhash_eq_sload (hspec : env.cfg.spec.isEnabledIn .tsukiV2 = true)
    (hwindow : InWindow env number) (hstack : machine.stack = number :: rest)
    (keccak256 : Bytes → U256) :
    let s := JournalTr.view machine.host
    let run := (blockhash keccak256 env).run machine
    let sload := Journal.sload env.cfg.gasParams historyStorageAddress (historySlot number)
      machine.gas
    let cached := s.cacheAccount historyStorageAddress
    (historySlot number).toNat = min number.toNat (2 ^ 64 - 1) % 8191 ∧
      (s.Readable historyStorageAddress →
        returned (mapState (Machine.mapHost JournalTr.view) run) =
          (sload cached).map fun (value, gas, s') => ((), ⟨value :: rest, gas, s'⟩)) ∧
      (∀ load loaded, (Journal.loadAccount historyStorageAddress).run s = .ok load loaded →
        SameAccess historyStorageAddress cached loaded (sload cached) (sload loaded)) ∧
      (¬s.Readable historyStorageAddress → ∃ halt machine', run = .error halt machine' ∧
        JournalTr.view machine'.host = s) ∧
      (JournalTr.view (exitState run).host).isAccountCold historyStorageAddress =
        s.isAccountCold historyStorageAddress ∧
      ∀ n ≤ s.inner.journal.length,
        ((JournalTr.view (exitState run).host).revertTo n).isAccountCold historyStorageAddress =
          (s.revertTo n).isAccountCold historyStorageAddress := by
  intro s run sload cached
  have hkeeps := blockhash_keepsWarmth hspec hwindow hstack keccak256
  refine ⟨toNat_historySlot number,
    fun hreadable => returned_blockhash hspec hwindow hstack hreadable keccak256, ?_,
    fun hreadable => blockhash_halts_of_not_readable hspec hwindow hstack hreadable keccak256,
    hkeeps.isAccountCold_eq, fun n hn => hkeeps.isAccountCold_revertTo hn⟩
  intro load loaded hload
  obtain ⟨hagree, entries, hentries, hnot⟩ := slotsAgree_loadAccount hload
  have hentries' : loaded.inner.journal = cached.inner.journal ++ entries := by
    rw [hentries, Journal.journal_cacheAccount]
  exact hagree.sameAccess hentries' hnot _ _ _

end Blockhash

/-! ## A sample -/

/-- A TsukiV2 block with the given number. -/
def historyEnv (number : U256) : Env :=
  { sampleEnv .tsukiV2 (.call 0) 0 with block := { number } }

/-- A journal in which every slot of the history contract holds its own index. -/
def historyJournal : Journal Unit where
  database := { basic := fun _ => .ok (some {}), storage := fun _ key => .ok key }

/-- A cold lookup with exactly the gas it takes. -/
theorem blockhash_eq_sload_cold :
    InWindow (historyEnv 9000) 8999 ∧
      (returned (mapState (Machine.mapHost JournalTr.view)
        ((blockhash (fun _ => 0) (historyEnv 9000)).run ⟨[8999], 2100, historyJournal⟩))).map
          (fun exit => (exit.2.stack, exit.2.gas)) = .ok ([808], 0) := by
  have hwindow : InWindow (historyEnv 9000) 8999 := ⟨by decide, by decide⟩
  have hreadable : historyJournal.Readable historyStorageAddress := fun _ => ⟨_, rfl⟩
  let machine : Machine (Journal Unit) := ⟨[8999], 2100, historyJournal⟩
  have hstack : machine.stack = [8999] := rfl
  have hsload := (blockhash_eq_sload rfl hwindow hstack fun _ => 0).2.1 hreadable
  refine ⟨hwindow, ?_⟩
  rw [hsload]
  decide +kernel

/-- The number 2^64 + 1 is in the window of the next block, and the hash is not read from
its slot 4097 but from the slot 4095 of the last 64-bit number. -/
theorem blockhash_reads_saturated_slot :
    let env := historyEnv 18446744073709551618
    let number : U256 := 18446744073709551617
    InWindow env number ∧
      (returned ((blockhash (fun _ => 0) env).run ⟨[number], 2100, historyJournal⟩)).map
          (fun exit => exit.2.stack) ≠
        (Journal.sload env.cfg.gasParams historyStorageAddress (number % 8191) 2100
          (historyJournal.cacheAccount historyStorageAddress)).map
            (fun access => [access.1]) := by
  intro env number
  have hblockhash : (returned ((blockhash (fun _ => 0) env).run
      ⟨[number], 2100, historyJournal⟩)).map (fun exit => exit.2.stack) = .ok [4095] := by
    decide +kernel
  have hsload : (Journal.sload env.cfg.gasParams historyStorageAddress (number % 8191) 2100
      (historyJournal.cacheAccount historyStorageAddress)).map (fun access => [access.1]) =
        .ok [4097] := by
    decide +kernel
  refine ⟨⟨by decide, by decide⟩, ?_⟩
  rw [hblockhash, hsload]
  decide

end ScrollRevm
