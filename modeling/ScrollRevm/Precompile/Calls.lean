import ScrollRevm.Precompile.Provider

/-!
# What calls of precompiles do

Whatever precompile of whatever hardfork is called, the journal is touched by a permitted
transfer alone, and a call that succeeds keeps its result in every later hardfork, but for the
gas that Galileo charges for two precompiles.
-/

namespace ScrollRevm

open FixedWidth StateResult

/-! ## Effects on the journal -/

section Effects

variable {D S J ε : Type} [PrecompilesTr S] [PrecompilesMapTr D S J] [JournalTr J ε] [Repr ε]
  {base : RevmPrecompiles}

/-- A call of the transfer precompile that its hardfork has and that is permitted. -/
def TransferCall (spec : ScrollSpecId) (input : PrecompileInput) : Prop :=
  spec.isEnabledIn .tsuki = true ∧ input.bytecodeAddress = Addresses.transfer ∧
    TransferPrecompile.Permitted input

theorem exitState_toDyn (precompile : Precompile) (input : PrecompileInput) (j : J) :
    exitState ((precompile.toDyn.call input).run j) = j := by
  cases hexecute : precompile.execute input.data input.gas with
  | ok output => rw [Precompile.toDyn_ok hexecute, exitState_ok]
  | error e => rw [Precompile.toDyn_error hexecute, exitState_error]

omit [PrecompilesTr S] in
/-- A call leaves the state that its precompile leaves. -/
theorem exitState_provider_run (self : ScrollPrecompileProvider D) (input : PrecompileInput)
    (j : J) :
    exitState ((self.run input).run j) =
      match LayeredTable.get input.bytecodeAddress self.inner with
      | some precompile => exitState ((precompile.call input).run j)
      | none => j := by
  unfold ScrollPrecompileProvider.run
  cases LayeredTable.get input.bytecodeAddress self.inner with
  | none => rfl
  | some precompile =>
    dsimp only
    cases hcall : (precompile.call input).run j with
    | ok output j' =>
      rw [run_bind_of_ok hcall]
      rfl
    | error e j' =>
      rw [run_bind_of_error hcall]
      rfl

variable [LawfulPrecompilesTr S] [LawfulPrecompilesMapTr D]

/-- A call of a precompile is one of the transfer precompile, or leaves the journal. -/
theorem provider_run_cases (hbase : LawfulPrecompiles base) (spec : ScrollSpecId)
    (input : PrecompileInput) (j : J) :
    exitState (((ScrollPrecompileProvider.newWithSpec (D := D) base spec).run input).run j) =
      if spec.isEnabledIn .tsuki = true ∧ input.bytecodeAddress = Addresses.transfer then
        exitState ((TransferPrecompile.run input).run j)
      else j := by
  rw [exitState_provider_run, ScrollPrecompileProvider.get_newWithSpec hbase]
  unfold scheduled
  by_cases htransfer : spec.isEnabledIn .tsuki = true ∧ input.bytecodeAddress = Addresses.transfer
  · rw [if_pos htransfer, if_pos htransfer.symm]
    rfl
  · rw [if_neg htransfer, if_neg fun h => htransfer h.symm]
    cases scheduledStatic base spec input.bytecodeAddress with
    | none => rfl
    | some precompile => exact exitState_toDyn precompile input j

variable [LawfulJournal J]

/-- **Precompiles and state.** A call of any precompile under any hardfork leaves the journal
as it is, unless it is a permitted call of the transfer precompile from Tsuki on. Whatever it
leaves is reached by operations of frames, keeps the sum of all balances and every nonce, and
is undone by a revert to the log of before the call. -/
theorem provider_run_effects (hbase : LawfulPrecompiles base) (spec : ScrollSpecId)
    (input : PrecompileInput) (j : J) :
    let j' :=
      exitState (((ScrollPrecompileProvider.newWithSpec (D := D) base spec).run input).run j)
    let s := JournalTr.view j
    let s' := JournalTr.view j'
    (¬TransferCall spec input → j' = j) ∧
      (∀ checkpoints,
        Relation.ReflTransGen FundsStep (s, checkpoints) (s', checkpoints)) ∧
      Ledger.total s'.balance = Ledger.total s.balance ∧ s'.nonce = s.nonce ∧
      Journal.ShowsSame s (s'.revertTo s.inner.journal.length) := by
  intro j' s s'
  have hcases : j' = _ := provider_run_cases hbase spec input j
  by_cases htransfer : spec.isEnabledIn .tsuki = true ∧ input.bytecodeAddress = Addresses.transfer
  · rw [if_pos htransfer] at hcases
    have hview : s' = exitState ((TransferPrecompile.run (J := Journal ε) input).run s) := by
      change JournalTr.view j' = _
      rw [hcases]
      exact (TransferPrecompile.run_simulates input).exitState_eq j
    refine ⟨fun hnot => ?_, fun checkpoints => ?_, ?_, ?_, ?_⟩
    · have hrefused : ¬TransferPrecompile.Permitted input := fun hpermitted =>
        hnot ⟨htransfer.1, htransfer.2, hpermitted⟩
      obtain ⟨e, herror⟩ := TransferPrecompile.run_of_not_permitted (J := J) hrefused
      rw [hcases, herror j]
      rfl
    · rw [hview]
      exact TransferPrecompile.fundsExits_run input checkpoints s
    · change Ledger.total (JournalTr.view j').balance = _
      rw [hcases]
      exact TransferPrecompile.total_run input j
    · change (JournalTr.view j').nonce = _
      rw [hcases]
      exact TransferPrecompile.nonce_run input j
    · rw [hview]
      exact (TransferPrecompile.traced_run input s).showsSame_revertTo
  · rw [if_neg htransfer] at hcases
    have hview : s' = s := congrArg JournalTr.view hcases
    rw [hview]
    exact ⟨fun _ => hcases, fun _ => .refl, rfl, rfl, (Journal.Traced.refl s).showsSame_revertTo⟩

end Effects

/-- A call of the installed transfer precompile leaves the journal under Galileo, which has
none; under Tsuki it moves 41 wei, and a revert gives them back. -/
theorem provider_run_effects_sample :
    let input : PrecompileInput :=
      { sampleTransfer with
        targetAddress := Addresses.transfer
        bytecodeAddress := Addresses.transfer }
    let moved := exitState (((ReferencePrecompiles.provider .tsuki).run input).run
      sampleTransferJournal)
    exitState (((ReferencePrecompiles.provider .galileo).run input).run sampleTransferJournal) =
        sampleTransferJournal ∧
      moved.balance 3 = 59 ∧ (moved.revertTo 0).balance 3 = 100 := by
  intro input moved
  obtain ⟨hkept, -⟩ := provider_run_effects
    (D := ReferencePrecompiles.PrecompilesMap (Journal Unit)) ReferencePrecompiles.lawful .galileo
    input sampleTransferJournal
  obtain ⟨-, -, -, -, hundone⟩ := provider_run_effects
    (D := ReferencePrecompiles.PrecompilesMap (Journal Unit)) ReferencePrecompiles.lawful .tsuki
    input sampleTransferJournal
  refine ⟨hkept fun htransfer => Bool.false_ne_true htransfer.1, by decide +kernel, ?_⟩
  exact congrFun hundone.balance_eq 3

/-! ## Upgrades -/

/-- The same result at a price that is no lower, which the gas may not cover. -/
def Repriced (output : PrecompileOutput) (result : PrecompileResult) : Prop :=
  result = .error .outOfGas ∨ ∃ output', result = .ok output' ∧ output'.bytes = output.bytes ∧
    output'.reverted = output.reverted ∧ output.gasUsed ≤ output'.gasUsed

/-- What revm documents of the results of its precompiles: Osaka raises the prices of `MODEXP`
and `P256VERIFY`, and bounds the operands of `MODEXP` by 1024 bytes. -/
structure CompatiblePrecompiles (base : RevmPrecompiles) : Prop extends LawfulPrecompiles base where
  pairIstanbul (input : Bytes) (gasLimit : U64) : base.bn254PairIstanbul.execute input gasLimit =
    base.runPair input base.istanbulPairPerPoint base.istanbulPairBase gasLimit
  modexpOsaka {input : Bytes} {gasLimit : U64} {output : PrecompileOutput}
    (hlen : ∀ len ∈ Modexp.operandLengths input, len ≤ 1024)
    (h : base.modexpRunInner false input gasLimit 200 base.berlinGasCalc = .ok output) :
    Repriced output (base.modexpOsakaRun input gasLimit)
  p256verifyOsaka' {input : Bytes} {gasLimit : U64} {output : PrecompileOutput}
    (h : base.p256verify.execute input gasLimit = .ok output) :
    Repriced output (base.p256verifyOsaka.execute input gasLimit)

section Upgrade

variable {base : RevmPrecompiles} {input : Bytes} {gasLimit : U64} {output : PrecompileOutput}

/-- `MODEXP` before Galileo succeeds on operands of at most 32 bytes alone. -/
theorem Modexp.bernoulliRun_ok (h : bernoulliRun base input gasLimit = .ok output) :
    (∀ len ∈ operandLengths input, len ≤ bernoulliLenLimit) ∧
      base.modexpRunInner false input gasLimit 200 base.berlinGasCalc = .ok output := by
  unfold bernoulliRun at h
  dsimp only at h
  split at h
  · cases h
  rename_i hbase
  split at h
  · cases h
  rename_i hexp
  split at h
  · cases h
  rename_i hmod
  refine ⟨?_, h⟩
  simp only [operandLengths, List.forall_mem_cons, List.not_mem_nil, false_imp_iff, implies_true,
    and_true]
  exact ⟨BitVec.not_lt.mp hbase, BitVec.not_lt.mp hexp, BitVec.not_lt.mp hmod⟩

/-- A pairing check before Feynman succeeds on at most four pairs alone. -/
theorem Bn254Pair.bernoulliRun_ok (h : bernoulliRun base input gasLimit = .ok output) :
    input.length ≤ bernoulliLenLimit * pairElementLen ∧
      base.runPair input base.istanbulPairPerPoint base.istanbulPairBase gasLimit = .ok output := by
  unfold bernoulliRun at h
  split at h
  · cases h
  · rename_i hlen
    exact ⟨Nat.not_lt.mp hlen, h⟩

/-- The upgrade to Galileo changes the price of a precompile. -/
def RepricedAt (spec spec' : ScrollSpecId) (address : Address) : Prop :=
  spec.isEnabledIn .galileo = false ∧ spec'.isEnabledIn .galileo = true ∧
    (address = Addresses.modexp ∨ address = Addresses.p256verify)

/-- A precompile that another one follows from a hardfork on. -/
theorem switch_upgrade {spec spec' fork : ScrollSpecId} {old new precompile : Precompile}
    {Other : Precompile → Prop}
    (hstays : spec.isEnabledIn fork = true → spec'.isEnabledIn fork = true)
    (h : some (if spec.isEnabledIn fork then new else old) = some precompile)
    (hok : precompile.execute input gasLimit = .ok output)
    (hnew : spec.isEnabledIn fork = false → spec'.isEnabledIn fork = true →
      old.execute input gasLimit = .ok output →
      new.execute input gasLimit = .ok output ∨ Other new) :
    ∃ later, some (if spec'.isEnabledIn fork then new else old) = some later ∧
      (later.execute input gasLimit = .ok output ∨ Other later) := by
  cases hfork : spec.isEnabledIn fork with
  | true =>
    rw [hfork, if_pos rfl] at h
    rw [hstays hfork, if_pos rfl]
    exact ⟨precompile, h, Or.inl hok⟩
  | false =>
    rw [hfork, if_neg Bool.false_ne_true] at h
    cases h
    cases hfork' : spec'.isEnabledIn fork with
    | true => exact ⟨new, rfl, hnew hfork hfork' hok⟩
    | false => exact ⟨old, rfl, Or.inl hok⟩

/-- The static precompile that a later hardfork plans keeps a result, but for its price. -/
theorem scheduledStatic_upgrade (hbase : CompatiblePrecompiles base) {spec spec' : ScrollSpecId}
    (hspec : spec'.isEnabledIn spec = true) {address : Address} {precompile : Precompile}
    (h : scheduledStatic base spec address = some precompile)
    (hok : precompile.execute input gasLimit = .ok output) :
    ∃ later, scheduledStatic base spec' address = some later ∧
      (later.execute input gasLimit = .ok output ∨
        RepricedAt spec spec' address ∧ Repriced output (later.execute input gasLimit)) := by
  have hstays {fork : ScrollSpecId} (henabled : spec.isEnabledIn fork = true) :
      spec'.isEnabledIn fork = true := ScrollSpecId.isEnabledIn_trans hspec henabled
  unfold scheduledStatic at h ⊢
  by_cases hp256verify : address = Addresses.p256verify
  · rw [if_pos hp256verify] at h ⊢
    by_cases heuclid : spec.isEnabledIn .euclid = true
    · rw [if_pos heuclid, ← apply_ite some] at h
      rw [if_pos (hstays heuclid), ← apply_ite some]
      refine switch_upgrade hstays h hok fun hnot hthen hold => Or.inr ?_
      exact ⟨⟨hnot, hthen, Or.inr hp256verify⟩, hbase.p256verifyOsaka' hold⟩
    · have hgalileo : spec.isEnabledIn .galileo ≠ true := fun hgalileo =>
        heuclid (ScrollSpecId.isEnabledIn_trans hgalileo (by decide))
      rw [if_neg hgalileo, if_neg heuclid] at h
      cases h
  rw [if_neg hp256verify] at h ⊢
  by_cases hblake2f : address = Addresses.blake2f
  · rw [if_pos hblake2f] at h ⊢
    exact ⟨precompile, h, Or.inl hok⟩
  rw [if_neg hblake2f] at h ⊢
  by_cases hpairing : address = Addresses.bn254Pairing
  · rw [if_pos hpairing] at h ⊢
    refine switch_upgrade hstays h hok fun _ _ hold => Or.inl ?_
    exact (hbase.pairIstanbul input gasLimit).trans (Bn254Pair.bernoulliRun_ok hold).2
  rw [if_neg hpairing] at h ⊢
  by_cases hmul : address = Addresses.bn254Mul
  · rw [if_pos hmul] at h ⊢
    exact ⟨precompile, h, Or.inl hok⟩
  rw [if_neg hmul] at h ⊢
  by_cases hadd : address = Addresses.bn254Add
  · rw [if_pos hadd] at h ⊢
    exact ⟨precompile, h, Or.inl hok⟩
  rw [if_neg hadd] at h ⊢
  by_cases hmodexp : address = Addresses.modexp
  · rw [if_pos hmodexp] at h ⊢
    refine switch_upgrade hstays h hok fun hnot hthen hold => Or.inr ?_
    obtain ⟨hlen, hinner⟩ := Modexp.bernoulliRun_ok hold
    have hlimit : Modexp.bernoulliLenLimit ≤ 1024 := by decide
    exact ⟨⟨hnot, hthen, Or.inl hmodexp⟩,
      hbase.modexpOsaka (fun len hmem => BitVec.le_trans (hlen len hmem) hlimit) hinner⟩
  rw [if_neg hmodexp] at h ⊢
  by_cases hidentity : address = Addresses.identity
  · rw [if_pos hidentity] at h ⊢
    exact ⟨precompile, h, Or.inl hok⟩
  rw [if_neg hidentity] at h ⊢
  by_cases hripemd160 : address = Addresses.ripemd160
  · rw [if_pos hripemd160] at h ⊢
    -- nothing succeeds where the precompile is not implemented
    exact switch_upgrade hstays h hok fun _ _ hold => nomatch hold
  rw [if_neg hripemd160] at h ⊢
  by_cases hsha256 : address = Addresses.sha256
  · rw [if_pos hsha256] at h ⊢
    exact switch_upgrade hstays h hok fun _ _ hold => nomatch hold
  rw [if_neg hsha256] at h ⊢
  exact ⟨precompile, h, Or.inl hok⟩

end Upgrade

section Run

variable {D S J ε : Type} [PrecompilesTr S] [PrecompilesMapTr D S J] [LawfulPrecompilesTr S]
  [LawfulPrecompilesMapTr D] [JournalTr J ε] [Repr ε] {base : RevmPrecompiles}
  {spec : ScrollSpecId} {input : PrecompileInput} {output : PrecompileOutput} {j j' : J}

/-- A precompile returns through the provider what it returns by itself. -/
theorem provider_run_eq_ok (hbase : LawfulPrecompiles base) :
    ((ScrollPrecompileProvider.newWithSpec (D := D) base spec).run input).run j =
        .ok (some output) j' ↔
      ∃ precompile, scheduled base spec input.bytecodeAddress = some precompile ∧
        (precompile.call input).run j = .ok output j' := by
  unfold ScrollPrecompileProvider.run
  rw [ScrollPrecompileProvider.get_newWithSpec hbase]
  cases scheduled (J := J) base spec input.bytecodeAddress with
  | none =>
    constructor
    · intro h
      cases h
    · rintro ⟨precompile, h, -⟩
      cases h
  | some precompile =>
    dsimp only
    constructor
    · intro h
      obtain ⟨output', j₁, hcall, hreturn⟩ := run_bind_eq_ok.mp h
      cases hreturn
      exact ⟨precompile, rfl, hcall⟩
    · rintro ⟨precompile', h, hcall⟩
      cases h
      rw [run_bind_of_ok hcall]
      rfl

/-- Without a transfer the call is one of a static precompile. -/
theorem call_of_static {precompile : DynPrecompile J}
    (hstatic : ¬(input.bytecodeAddress = Addresses.transfer ∧ spec.isEnabledIn .tsuki = true))
    (h : scheduled base spec input.bytecodeAddress = some precompile)
    (hcall : (precompile.call input).run j = .ok output j') :
    ∃ static, scheduledStatic base spec input.bytecodeAddress = some static ∧
      static.execute input.data input.gas = .ok output ∧ j' = j := by
  unfold scheduled at h
  rw [if_neg hstatic] at h
  obtain ⟨static, hscheduled, rfl⟩ := Option.map_eq_some_iff.mp h
  refine ⟨static, hscheduled, ?_⟩
  cases hexecute : static.execute input.data input.gas with
  | ok output' =>
    cases (Precompile.toDyn_ok hexecute j).symm.trans hcall
    exact ⟨rfl, rfl⟩
  | error e => cases (Precompile.toDyn_error hexecute j).symm.trans hcall

/-- A call of a static precompile through the provider returns or fails as the precompile. -/
theorem provider_run_of_static (hbase : LawfulPrecompiles base)
    (hstatic : ¬(input.bytecodeAddress = Addresses.transfer ∧ spec.isEnabledIn .tsuki = true))
    {static : Precompile} (h : scheduledStatic base spec input.bytecodeAddress = some static)
    (j : J) :
    let returned := ((ScrollPrecompileProvider.newWithSpec (D := D) base spec).run input).run j
    (∀ output, static.execute input.data input.gas = .ok output →
        returned = .ok (some output) j) ∧
      ∀ e, static.execute input.data input.gas = .error e → returned = .error e j := by
  intro returned
  have hreturned : returned =
      (static.toDyn.call input >>= fun output => pure (some output)).run j := by
    change ((ScrollPrecompileProvider.newWithSpec (D := D) base spec).run input).run j = _
    unfold ScrollPrecompileProvider.run
    rw [ScrollPrecompileProvider.get_newWithSpec hbase]
    unfold scheduled
    rw [if_neg hstatic, h]
    rfl
  refine ⟨fun output hok => ?_, fun e herror => ?_⟩
  · rw [hreturned, run_bind_of_ok (Precompile.toDyn_ok hok j)]
    rfl
  · rw [hreturned, run_bind_of_error (Precompile.toDyn_error herror j)]

/-- **Upgrades keep the results of precompiles.** A call that succeeds under a hardfork does
the same under every later one, except for `MODEXP` and `P256VERIFY` across Galileo: there it
may cost more, and with too little gas for that it fails. -/
theorem provider_upgrade (hbase : CompatiblePrecompiles base) {spec' : ScrollSpecId}
    (hspec : spec'.isEnabledIn spec = true)
    (h : ((ScrollPrecompileProvider.newWithSpec (D := D) base spec).run input).run j =
      .ok (some output) j') :
    let later := ((ScrollPrecompileProvider.newWithSpec (D := D) base spec').run input).run j
    later = .ok (some output) j' ∨
      RepricedAt spec spec' input.bytecodeAddress ∧ j' = j ∧
        (later = .error .outOfGas j ∨ ∃ output', later = .ok (some output') j ∧
          output'.bytes = output.bytes ∧ output'.reverted = output.reverted ∧
          output.gasUsed ≤ output'.gasUsed) := by
  intro later
  obtain ⟨precompile, hscheduled, hcall⟩ := (provider_run_eq_ok hbase.toLawfulPrecompiles).mp h
  by_cases htransfer : input.bytecodeAddress = Addresses.transfer
  · by_cases htsuki : spec.isEnabledIn .tsuki = true
    · have hlater : scheduled (J := J) base spec' input.bytecodeAddress = some precompile := by
        rw [← hscheduled]
        unfold scheduled
        rw [if_pos ⟨htransfer, ScrollSpecId.isEnabledIn_trans hspec htsuki⟩,
          if_pos ⟨htransfer, htsuki⟩]
      exact Or.inl ((provider_run_eq_ok hbase.toLawfulPrecompiles).mpr ⟨_, hlater, hcall⟩)
    · -- no static precompile is at that address
      obtain ⟨static, hstatic, -⟩ := call_of_static (fun h => htsuki h.2) hscheduled hcall
      rw [htransfer] at hstatic
      cases hstatic
  · have hnot (spec : ScrollSpecId) :
        ¬(input.bytecodeAddress = Addresses.transfer ∧ spec.isEnabledIn .tsuki = true) :=
      fun h => htransfer h.1
    obtain ⟨static, hstatic, hexecute, rfl⟩ := call_of_static (hnot spec) hscheduled hcall
    obtain ⟨static', hstatic', hresult⟩ := scheduledStatic_upgrade hbase hspec hstatic hexecute
    obtain ⟨hlaterOk, hlaterError⟩ :=
      provider_run_of_static (D := D) hbase.toLawfulPrecompiles (hnot spec') hstatic' j'
    rcases hresult with hsame | ⟨hrepriced, hfails | ⟨output', hok, hbytes, hreverted, hgas⟩⟩
    · exact Or.inl (hlaterOk output hsame)
    · exact Or.inr ⟨hrepriced, rfl, Or.inl (hlaterError _ hfails)⟩
    · exact Or.inr ⟨hrepriced, rfl,
        Or.inr ⟨output', hlaterOk output' hok, hbytes, hreverted, hgas⟩⟩

/-- What a hardfork demands of the input of a call that succeeds. -/
structure WithinLimits (spec : ScrollSpecId) (input : PrecompileInput) : Prop where
  blake2f : input.bytecodeAddress ≠ Addresses.blake2f
  sha256 (h : input.bytecodeAddress = Addresses.sha256) : spec.isEnabledIn .bernoulli = true
  ripemd160 (h : input.bytecodeAddress = Addresses.ripemd160) :
    spec.isEnabledIn .tsuki = true ∧ input.data.length ≤ 32
  modexp (h : input.bytecodeAddress = Addresses.modexp)
    (hbefore : spec.isEnabledIn .galileo = false) :
    ∀ len ∈ Modexp.operandLengths input.data, len ≤ 32
  bn254Pairing (h : input.bytecodeAddress = Addresses.bn254Pairing)
    (hbefore : spec.isEnabledIn .feynman = false) : input.data.length ≤ 768

/-- **Limits.** No call of a precompile succeeds beyond the limits of its hardfork: on operands
of `MODEXP` over 32 bytes before Galileo, on more than four pairs before Feynman, on more than
32 bytes to hash with RIPEMD-160, or where the precompile is not implemented. -/
theorem provider_run_limits (hbase : LawfulPrecompiles base)
    (h : ((ScrollPrecompileProvider.newWithSpec (D := D) base spec).run input).run j =
      .ok (some output) j') : WithinLimits spec input := by
  obtain ⟨precompile, hscheduled, hcall⟩ := (provider_run_eq_ok hbase).mp h
  have hstatic {address : Address} (haddress : input.bytecodeAddress = address)
      (hne : address ≠ Addresses.transfer) {planned : Precompile}
      (hplanned : scheduledStatic base spec address = some planned) :
      planned.execute input.data input.gas = .ok output := by
    have hnot : ¬(input.bytecodeAddress = Addresses.transfer ∧ spec.isEnabledIn .tsuki = true) :=
      fun htransfer => hne (haddress.symm.trans htransfer.1)
    obtain ⟨static, hfound, hexecute, -⟩ := call_of_static hnot hscheduled hcall
    rw [haddress, hplanned] at hfound
    cases hfound
    exact hexecute
  constructor
  case blake2f =>
    intro haddress
    have hexecute := hstatic haddress (by decide) rfl
    cases hexecute
  case sha256 =>
    intro haddress
    have hexecute := hstatic haddress (by decide) rfl
    by_contra hbefore
    rw [if_neg hbefore] at hexecute
    cases hexecute
  case ripemd160 =>
    intro haddress
    have hexecute := hstatic haddress (by decide) rfl
    by_cases htsuki : spec.isEnabledIn .tsuki = true
    · rw [if_pos htsuki] at hexecute
      refine ⟨htsuki, Nat.not_lt.mp fun hlong => ?_⟩
      have hrefused : (Ripemd160.tsuki base).execute input.data input.gas =
          .error (.other "Ripemd160InputOverflow: ripemd160 input overflow") := if_pos hlong
      cases hexecute.symm.trans hrefused
    · rw [if_neg htsuki] at hexecute
      cases hexecute
  case modexp =>
    intro haddress hbefore
    have hexecute := hstatic haddress (by decide) rfl
    rw [hbefore, if_neg Bool.false_ne_true] at hexecute
    exact (Modexp.bernoulliRun_ok hexecute).1
  case bn254Pairing =>
    intro haddress hbefore
    have hexecute := hstatic haddress (by decide) rfl
    rw [hbefore, if_neg Bool.false_ne_true] at hexecute
    exact (Bn254Pair.bernoulliRun_ok hexecute).1

end Run

/-! ## The reference precompiles -/

namespace ReferencePrecompiles

/-- The same bytes at another price. -/
theorem repriced_priced {cost cost' gasLimit : U64} {bytes : Bytes} {output : PrecompileOutput}
    (hle : cost ≤ cost') (h : priced cost bytes gasLimit = .ok output) :
    Repriced output (priced cost' bytes gasLimit) := by
  rw [priced_ok h]
  by_cases hlt : gasLimit < cost'
  · exact Or.inl (if_pos hlt)
  · exact Or.inr ⟨.new cost' bytes, if_neg hlt, rfl, rfl, hle⟩

theorem repriced_modexpRunInner {input : Bytes} {gasLimit : U64} {output : PrecompileOutput}
    (hlen : ∀ len ∈ Modexp.operandLengths input, len ≤ 1024)
    (h : modexpRunInner false input gasLimit 200 berlinGasCalc = .ok output) :
    Repriced output (modexpRunInner true input gasLimit 500 osakaGasCalc) := by
  have hfits : ¬tooLong true input = true := by
    intro hlong
    obtain ⟨len, hmem, hover⟩ := List.any_eq_true.mp hlong
    exact absurd ((of_decide_eq_true hover).trans (BitVec.le_def.mp (hlen len hmem))) (by decide)
  unfold modexpRunInner at h ⊢
  dsimp only at h ⊢
  split at h
  · cases h
  split at h
  · cases h
  by_cases hgas : gasLimit < 500
  · exact Or.inl (if_pos hgas)
  rw [if_neg hgas, if_neg hfits]
  split at h
  · rename_i hzero
    cases h
    rw [if_pos hzero]
    exact Or.inr ⟨.new 500 [], rfl, rfl, rfl, by decide⟩
  · rename_i hnonzero
    rw [if_neg hnonzero]
    exact repriced_priced (berlinGasCalc_le _ _ _ _) h

theorem compatible : CompatiblePrecompiles base where
  toLawfulPrecompiles := lawful
  pairIstanbul _ _ := rfl
  modexpOsaka hlen h := repriced_modexpRunInner hlen h
  p256verifyOsaka' h := repriced_priced (by decide) h

/-- The operands 3, 5 and 7 of one byte each. -/
def sampleModexp : Bytes := one ++ one ++ one ++ [3, 5, 7]

theorem bernoulliRun_sampleModexp :
    Modexp.bernoulliRun base sampleModexp 600 = .ok (.new 200 [5]) := by
  decide +kernel

end ReferencePrecompiles

section Sample

open ReferencePrecompiles

/-- A call of a precompile with 600 gas. -/
def sampleCall (address : Address) (data : Bytes) : PrecompileInput where
  data := data
  gas := 600
  caller := 1
  targetAddress := address
  bytecodeAddress := address

/-- A result of a static precompile returns through the provider. -/
theorem run_sampleCall {spec : ScrollSpecId} {address : Address} {data : Bytes}
    {static : Precompile} {output : PrecompileOutput}
    (h : scheduledStatic base spec address = some static)
    (hok : static.execute data 600 = .ok output) (hne : address ≠ Addresses.transfer) :
    ((provider spec).run (sampleCall address data)).run sampleTransferJournal =
      .ok (some output) sampleTransferJournal :=
  (provider_run_of_static lawful (fun htransfer => hne htransfer.1) h _).1 output hok

/-- Under Feynman 3^5 modulo 7 takes 200 of 600 gas. Galileo may take more, or fail for want of
it; the identity returns its input under both. -/
theorem provider_upgrade_modexp :
    let modexp := sampleCall Addresses.modexp sampleModexp
    ((provider .feynman).run modexp).run sampleTransferJournal =
        .ok (some (.new 200 [5])) sampleTransferJournal ∧
      (((provider .galileo).run modexp).run sampleTransferJournal =
          .error .outOfGas sampleTransferJournal ∨
        ∃ output, ((provider .galileo).run modexp).run sampleTransferJournal =
            .ok (some output) sampleTransferJournal ∧
          output.bytes = [5] ∧ (200 : U64) ≤ output.gasUsed) ∧
      ((provider .galileo).run (sampleCall Addresses.identity [3, 5, 7])).run
          sampleTransferJournal = .ok (some (.new 18 [3, 5, 7])) sampleTransferJournal := by
  intro modexp
  have hmodexp : ((provider .feynman).run modexp).run sampleTransferJournal =
      .ok (some (.new 200 [5])) sampleTransferJournal :=
    run_sampleCall rfl bernoulliRun_sampleModexp (by decide)
  have hidentity : ((provider .feynman).run (sampleCall Addresses.identity [3, 5, 7])).run
      sampleTransferJournal = .ok (some (.new 18 [3, 5, 7])) sampleTransferJournal :=
    run_sampleCall rfl rfl (by decide)
  have hlater : ScrollSpecId.galileo.isEnabledIn .feynman = true := rfl
  refine ⟨hmodexp, ?_, ?_⟩
  · rcases provider_upgrade compatible hlater hmodexp with
      hsame | ⟨-, -, hfails | ⟨output, hok, hbytes, -, hgas⟩⟩
    · exact Or.inr ⟨_, hsame, rfl, BitVec.le_refl _⟩
    · exact Or.inl hfails
    · exact Or.inr ⟨output, hok, hbytes, hgas⟩
  · refine (provider_upgrade compatible hlater hidentity).resolve_right ?_
    rintro ⟨⟨-, -, hmodexp | hp256verify⟩, -⟩
    · exact absurd hmodexp (by decide)
    · exact absurd hp256verify (by decide)

/-- A `MODEXP` that succeeds under Feynman was within the limits of Feynman. -/
theorem provider_run_limits_modexp :
    WithinLimits .feynman (sampleCall Addresses.modexp sampleModexp) := by
  have hmodexp : ((provider .feynman).run (sampleCall Addresses.modexp sampleModexp)).run
      sampleTransferJournal = .ok (some (.new 200 [5])) sampleTransferJournal :=
    run_sampleCall rfl bernoulliRun_sampleModexp (by decide)
  exact provider_run_limits lawful hmodexp

end Sample

end ScrollRevm
