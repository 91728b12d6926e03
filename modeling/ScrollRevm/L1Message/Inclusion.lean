import ScrollRevm.L1Message.Steps

/-!
# Who can keep an L1 message out

From Euclid on, an L1 message is refused by checks of its chain id, the block, its gas, its
init code and the code of its sender, and by no others. None of them reads a balance, a
nonce, a price or the oracle, so two attempts to include one message that differ in those
end alike.
-/

namespace ScrollRevm

open FixedWidth StateResult

section Guards

variable {δ α β : Type} {p : Prop} [Decidable p] {e e' : δ}

theorem guard_bind_eq_error {f : α → Except δ β} {x : Except δ β}
    (h : (if p then throw e >>= f else x) = .error e') : p ∧ e = e' ∨ x = .error e' := by
  by_cases hp : p
  · rw [if_pos hp] at h
    cases h
    exact Or.inl ⟨hp, rfl⟩
  · rw [if_neg hp] at h
    exact Or.inr h

theorem guard_eq_error {a : α} (h : (if p then throw e else pure a) = Except.error e') :
    p ∧ e = e' := by
  by_cases hp : p
  · rw [if_pos hp] at h
    cases h
    exact ⟨hp, rfl⟩
  · rw [if_neg hp] at h
    cases h

theorem except_bind_eq_error {x : Except δ α} {f : α → Except δ β} (h : x >>= f = .error e) :
    x = .error e ∨ ∃ a, x = .ok a ∧ f a = .error e := by
  cases x with
  | error e' =>
    cases h
    exact Or.inl rfl
  | ok a => exact Or.inr ⟨a, rfl, h⟩

end Guards

/-! ## The checks of an L1 message -/

/-- The checks of the transaction that remain for an L1 message. -/
def checkMessage (env : Env) : Except InvalidTransaction Unit := do
  ScrollHandler.validateChainId env .custom
  if !env.cfg.isBlockGasLimitDisabled && decide (env.block.gasLimit < env.tx.gasLimit) then
    throw .callerGasLimitMoreThanBlock
  if env.tx.kind.isCreate && decide (env.cfg.maxInitcodeSize.toNat < env.tx.input.length) then
    throw .createInitCodeSizeLimit

/-- Why an L1 message to be sent from an account with the given code is refused. -/
inductive MessageRefused {ε : Type} (env : Env) (code : Bytecode) : EVMError ε → Prop
  | prevrandaoNotSet (h : env.block.prevrandao = none) :
    MessageRefused env code (.header .prevrandaoNotSet)
  | invalidChainId (hcheck : env.cfg.txChainIdCheck = true) {chainId : U64}
      (hsome : env.tx.chainId = some chainId) (hne : chainId ≠ env.cfg.chainId) :
    MessageRefused env code (.transaction .invalidChainId)
  | callerGasLimitMoreThanBlock (hcheck : env.cfg.isBlockGasLimitDisabled = false)
      (hlt : env.block.gasLimit < env.tx.gasLimit) :
    MessageRefused env code (.transaction .callerGasLimitMoreThanBlock)
  | createInitCodeSizeLimit (hkind : env.tx.kind = .create)
      (hlt : env.cfg.maxInitcodeSize.toNat < env.tx.input.length) :
    MessageRefused env code (.transaction .createInitCodeSizeLimit)
  | callGasCostMoreThanGasLimit
      (hlt : env.tx.gasLimit < (ScrollHandler.initialAndFloorGas env).initialGas) :
    MessageRefused env code (.transaction (.callGasCostMoreThanGasLimit env.tx.gasLimit
      (ScrollHandler.initialAndFloorGas env).initialGas))
  | gasFloorMoreThanGasLimit (hspec : env.cfg.spec.isEnabledIn .feynman = true)
      (hlt : env.tx.gasLimit < (ScrollHandler.initialAndFloorGas env).floorGas) :
    MessageRefused env code (.transaction (.gasFloorMoreThanGasLimit
      (ScrollHandler.initialAndFloorGas env).floorGas env.tx.gasLimit))
  | rejectCallerWithCode (hcheck : env.cfg.isEip3607Disabled = false)
      (hcode : code.rejectsCaller = true) :
    MessageRefused env code (.transaction .rejectCallerWithCode)

/-- What may differ between two attempts at one L1 message, the state aside. -/
structure Circumstances where
  nonce : U64
  value : U256
  gasPrice : U128
  gasPriorityFee : Option U128
  rlpBytes : Option Bytes
  compressionRatio : Option U256
  compressedSize : Option Usize
  basefee : U64
  txGasLimitCap : U64

/-- The attempt at the same message under other circumstances. -/
def Env.under (env : Env) (circumstances : Circumstances) : Env where
  tx :=
    { base := { env.tx.base with
        nonce := circumstances.nonce
        value := circumstances.value
        gasPrice := circumstances.gasPrice
        gasPriorityFee := circumstances.gasPriorityFee }
      rlpBytes := circumstances.rlpBytes
      compressionRatio := circumstances.compressionRatio
      compressedSize := circumstances.compressedSize }
  block := { env.block with basefee := circumstances.basefee }
  cfg := { env.cfg with txGasLimitCap := circumstances.txGasLimitCap }

namespace ScrollHandler

variable {J ε G R X : Type} [JournalTr J ε]
variable {self : ScrollHandler J ε G R X} {env env' : Env}

variable (self env) in
/-- Everything that decides whether a transaction is included: the checks that read no
state, and pre-execution. -/
def admission : Step J ε (InitialAndFloorGas × U64) := do
  match self.validate (ε := ε) env with
  | .error e => throw e
  | .ok initAndFloorGas =>
    let eip7702Refund ← self.preExecution env
    return (initAndFloorGas, eip7702Refund)

/-! ## Checks that read no state -/

section Validation

variable [GasTr G R]

/-- The cap on the gas limit and the checks of prices are skipped for an L1 message. -/
theorem validateTxEnv_isL1Msg (hm : LawfulMainnet self.mainnet) (hmsg : env.tx.isL1Msg = true) :
    self.validateTxEnv env = checkMessage env := by
  have hshanghai : SpecId.shanghai.isEnabledIn .shanghai = true := rfl
  unfold validateTxEnv checkMessage
  rw [hm.transactionType, type_of_isL1Msg hmsg]
  simp only [validateTxType, hmsg, ScrollSpecId.intoEthSpecId_eq, hshanghai, Bool.not_true,
    Bool.false_eq_true, if_false, Bool.true_and, pure_bind]

/-- The checks that read no state do not see the circumstances of an L1 message. -/
theorem validate_under (hm : LawfulMainnet self.mainnet) (hmsg : env.tx.isL1Msg = true)
    (circumstances : Circumstances) :
    self.validate (ε := ε) (env.under circumstances) = self.validate env := by
  have hmsg' : (env.under circumstances).tx.isL1Msg = true := hmsg
  unfold validate validateEnv
  rw [validateTxEnv_isL1Msg hm hmsg, validateTxEnv_isL1Msg hm hmsg']
  rfl

omit [JournalTr J ε] [GasTr G R] in
theorem validateBlockEnv_error {code : Bytecode} {e : InvalidHeader}
    (h : validateBlockEnv env = .error e) : MessageRefused (ε := ε) env code (.header e) := by
  have hmerge : SpecId.shanghai.isEnabledIn .merge = true := rfl
  have hcancun : SpecId.shanghai.isEnabledIn .cancun = false := rfl
  unfold validateBlockEnv at h
  simp only [ScrollSpecId.intoEthSpecId_eq, hmerge, hcancun, Bool.true_and, Bool.false_and,
    Bool.false_eq_true, if_false] at h
  obtain ⟨hnone, rfl⟩ := guard_eq_error h
  exact .prevrandaoNotSet (Option.isNone_iff_eq_none.mp hnone)

omit [JournalTr J ε] [GasTr G R] in
theorem validateChainId_error {code : Bytecode} {e : InvalidTransaction}
    (h : validateChainId env .custom = .error e) :
    MessageRefused (ε := ε) env code (.transaction e) := by
  unfold validateChainId at h
  split at h
  · rename_i hcheck
    split at h
    · rename_i chainId hsome
      obtain ⟨hne, rfl⟩ := guard_eq_error h
      exact .invalidChainId hcheck hsome hne
    · obtain ⟨⟨-, hcustom⟩, -⟩ := guard_eq_error h
      exact absurd rfl hcustom
  · cases h

omit [JournalTr J ε] [GasTr G R] in
theorem checkMessage_error {code : Bytecode} {e : InvalidTransaction}
    (h : checkMessage env = .error e) :
    MessageRefused (ε := ε) env code (.transaction e) := by
  unfold checkMessage at h
  rcases except_bind_eq_error h with hchain | ⟨_, -, hrest⟩
  · exact validateChainId_error hchain
  rcases guard_bind_eq_error hrest with ⟨hlimit, rfl⟩ | hcreate
  · rw [Bool.and_eq_true, Bool.not_eq_true', decide_eq_true_iff] at hlimit
    exact .callerGasLimitMoreThanBlock hlimit.1 hlimit.2
  · obtain ⟨hsize, rfl⟩ := guard_eq_error hcreate
    rw [Bool.and_eq_true, decide_eq_true_iff] at hsize
    exact .createInitCodeSizeLimit (TxKind.isCreate_iff.mp hsize.1) hsize.2

omit [JournalTr J ε] [GasTr G R] in
theorem validateInitialTxGas_error {code : Bytecode} {e : InvalidTransaction}
    (h : validateInitialTxGas env = .error e) :
    MessageRefused (ε := ε) env code (.transaction e) := by
  unfold validateInitialTxGas at h
  rcases guard_bind_eq_error h with ⟨hlt, rfl⟩ | hfloor
  · exact .callGasCostMoreThanGasLimit hlt
  · obtain ⟨hlt, rfl⟩ := guard_eq_error hfloor
    rw [Bool.and_eq_true, decide_eq_true_iff] at hlt
    exact .gasFloorMoreThanGasLimit hlt.1 hlt.2

/-- A refusal by the checks that read no state. -/
theorem validate_error (hm : LawfulMainnet self.mainnet) (hmsg : env.tx.isL1Msg = true)
    {code : Bytecode} {e : EVMError ε} (h : self.validate env = .error e) :
    MessageRefused env code e := by
  unfold validate validateEnv at h
  rw [validateTxEnv_isL1Msg hm hmsg] at h
  cases hblock : validateBlockEnv env with
  | error e =>
    rw [hblock] at h
    cases h
    exact validateBlockEnv_error hblock
  | ok _ =>
    rw [hblock] at h
    dsimp only at h
    cases hcheck : checkMessage env with
    | error e =>
      rw [hcheck] at h
      cases h
      exact checkMessage_error hcheck
    | ok _ =>
      rw [hcheck] at h
      dsimp only at h
      split at h
      · rename_i hgas
        cases h
        exact validateInitialTxGas_error hgas
      · cases h

end Validation

/-! ## The verdict -/

section Verdict

variable (self env) in
/-- What decides the inclusion of an L1 message from Euclid on: the checks that read no
state, and the code of the sender. -/
def verdict (caller : AccountInfo) : Except (EVMError ε) InitialAndFloorGas :=
  match self.validate env with
  | .error e => .error e
  | .ok initAndFloorGas =>
    match checkCallerCode env caller with
    | .error e => .error (.transaction e)
    | .ok () => .ok initAndFloorGas

variable [GasTr G R]

/-- The verdict does not see the circumstances, nor the balance and the nonce of the
sender. -/
theorem verdict_under (hm : LawfulMainnet self.mainnet) (hmsg : env.tx.isL1Msg = true)
    (circumstances : Circumstances) {caller caller' : AccountInfo}
    (hcode : caller'.code = caller.code) :
    self.verdict (ε := ε) (env.under circumstances) caller' = self.verdict env caller := by
  have hcheck : checkCallerCode (env.under circumstances) caller' =
      checkCallerCode env caller := by
    unfold checkCallerCode
    rw [hcode]
    rfl
  unfold verdict
  rw [validate_under hm hmsg, hcheck]

/-- A refusal has one of the listed reasons. -/
theorem verdict_error (hm : LawfulMainnet self.mainnet) (hmsg : env.tx.isL1Msg = true)
    {caller : AccountInfo} {e : EVMError ε} (h : self.verdict env caller = .error e) :
    MessageRefused env caller.code e := by
  unfold verdict at h
  cases hvalid : self.validate (ε := ε) env with
  | error e' =>
    rw [hvalid] at h
    cases h
    exact validate_error hm hmsg hvalid
  | ok init =>
    rw [hvalid] at h
    dsimp only at h
    split at h
    · rename_i e' hcode
      cases h
      unfold checkCallerCode at hcode
      split at hcode
      · rename_i hrejected
        cases hcode
        rw [Bool.and_eq_true, Bool.not_eq_true'] at hrejected
        exact .rejectCallerWithCode hrejected.1 hrejected.2
      · cases hcode
    · cases h

end Verdict

/-! ## Pre-execution -/

section PreExecution

omit [JournalTr J ε] in
theorem checkL1Msg_of_euclid (hspec : env.cfg.spec.isEnabledIn .euclid = true)
    (caller : AccountInfo) : self.checkL1Msg env caller = checkCallerCode env caller := by
  unfold checkL1Msg
  rw [hspec]
  rfl

variable [GasTr G R] [LawfulJournal J]

/-- From Euclid on, pre-execution of an L1 message ends by the database, or as the code of
the sender decides. -/
theorem preExecution_isL1Msg_cases (hm : LawfulMainnet self.mainnet)
    (hw : LawfulWarming self.mainnet) (hmsg : env.tx.isL1Msg = true)
    (hspec : env.cfg.spec.isEnabledIn .euclid = true) (c : Ctx J) :
    (∃ d c', (self.preExecution env).run c = .error (.database d) c') ∨
      (∃ c', checkCallerCode env (c.view.info env.tx.caller) = .ok () ∧
        (self.preExecution env).run c = .ok 0 c') ∨
      ∃ e c', checkCallerCode env (c.view.info env.tx.caller) = .error e ∧
        (self.preExecution env).run c = .error (.transaction e) c' := by
  rw [preExecution_isL1Msg hmsg, applyEip7702AuthList_isL1Msg hm hmsg]
  cases hload : (journalMut (JournalTr.loadAccountWithCodeMut env.tx.caller)).run c with
  | error e c₁ =>
    obtain ⟨d, rfl⟩ := loadAccountWithCodeMut_step_error hload
    exact Or.inl ⟨d, c₁, run_bind_of_error hload⟩
  | ok account c₁ =>
    obtain ⟨-, hstate, hinfo, -⟩ := loadAccountWithCodeMut_step_ok hload
    rw [run_bind_of_ok hload, checkL1Msg_of_euclid hspec, hinfo]
    cases hcode : checkCallerCode env (c.view.info env.tx.caller) with
    | error e => exact Or.inr (Or.inr ⟨e, c₁, rfl, rfl⟩)
    | ok _ =>
      obtain ⟨c₂, henter⟩ := enterL1Msg_total hstate
      have hchecked : (validated (.ok () : Except InvalidTransaction Unit)).run c₁ =
        (.ok () c₁ : EStateM.Result (EVMError ε) (Ctx J) Unit) := rfl
      rw [run_bind_of_ok hchecked, run_bind_of_ok henter]
      cases hwarm : (mainnetStep (self.mainnet.loadAccounts env)).run c₂ with
      | error e c₃ =>
        obtain ⟨e', j, hrun, rfl, -⟩ := run_focus_eq_error.mp hwarm
        obtain ⟨d, rfl⟩ := hw.loadAccounts_error hrun
        exact Or.inl ⟨d, c₃, run_bind_of_error hwarm⟩
      | ok _ c₃ =>
        rw [run_bind_of_ok hwarm]
        exact Or.inr (Or.inl ⟨_, rfl, rfl⟩)

/-- From Euclid on, the inclusion of an L1 message ends by the database or with the
verdict. -/
theorem admission_run (hm : LawfulMainnet self.mainnet) (hw : LawfulWarming self.mainnet)
    (hmsg : env.tx.isL1Msg = true) (hspec : env.cfg.spec.isEnabledIn .euclid = true)
    (c : Ctx J) :
    (∃ d c', (self.admission env).run c = .error (.database d) c') ∨
      (∃ init c', self.verdict env (c.view.info env.tx.caller) = .ok init ∧
        (self.admission env).run c = .ok (init, 0) c') ∨
      ∃ e c', self.verdict env (c.view.info env.tx.caller) = .error e ∧
        (self.admission env).run c = .error e c' := by
  unfold admission verdict
  cases hvalid : self.validate (ε := ε) env with
  | error e => exact Or.inr (Or.inr ⟨e, c, rfl, rfl⟩)
  | ok init =>
    rcases preExecution_isL1Msg_cases hm hw hmsg hspec c with
      ⟨d, c', hrun⟩ | ⟨c', hcode, hrun⟩ | ⟨e, c', hcode, hrun⟩
    · exact Or.inl ⟨d, c', run_bind_of_error hrun⟩
    · exact Or.inr (Or.inl ⟨init, c', by rw [hcode], run_bind_of_ok hrun⟩)
    · exact Or.inr (Or.inr ⟨.transaction e, c', by rw [hcode], run_bind_of_error hrun⟩)

end PreExecution

end ScrollHandler

open ScrollHandler in
/-- From Euclid on, two attempts at one L1 message, from states that agree on the code of its
sender, are both included or both refused with the same error, unless the database fails;
and a refusal has one of the listed reasons. -/
theorem l1Message_inclusion_noninterference {J ε G R X : Type} [JournalTr J ε] [LawfulJournal J]
    [GasTr G R] (self : ScrollHandler J ε G R X) (hm : LawfulMainnet self.mainnet)
    (hw : LawfulWarming self.mainnet) (env : Env) (circumstances : Circumstances)
    (hmsg : env.tx.isL1Msg = true) (hspec : env.cfg.spec.isEnabledIn .euclid = true)
    (c c' : Ctx J)
    (hcode : (c.view.info env.tx.caller).code = (c'.view.info env.tx.caller).code) :
    let run := (self.admission env).run c
    let run' := (self.admission (env.under circumstances)).run c'
    ((∃ d s, run = .error (.database d) s) ∨ (∃ d s', run' = .error (.database d) s') ∨
      (∃ init s s', run = .ok (init, 0) s ∧ run' = .ok (init, 0) s') ∨
      ∃ e s s', run = .error e s ∧ run' = .error e s') ∧
      ∀ e s, run = .error e s →
        (∃ d, e = .database d) ∨ MessageRefused env (c.view.info env.tx.caller).code e := by
  intro run run'
  have hmsg' : (env.under circumstances).tx.isL1Msg = true := hmsg
  have hspec' : (env.under circumstances).cfg.spec.isEnabledIn .euclid = true := hspec
  have hverdict : self.verdict (env.under circumstances)
      (c'.view.info (env.under circumstances).tx.caller) =
        self.verdict (ε := ε) env (c.view.info env.tx.caller) :=
    verdict_under hm hmsg circumstances hcode.symm
  have hcases := admission_run hm hw hmsg hspec c
  have hcases' := admission_run hm hw hmsg' hspec' c'
  rw [hverdict] at hcases'
  constructor
  · rcases hcases with hdb | ⟨init, s, hok, hrun⟩ | ⟨e, s, herror, hrun⟩
    · exact Or.inl hdb
    · rcases hcases' with hdb | ⟨init', s', hok', hrun'⟩ | ⟨e', s', herror', -⟩
      · exact Or.inr (Or.inl hdb)
      · cases hok.symm.trans hok'
        exact Or.inr (Or.inr (Or.inl ⟨init, s, s', hrun, hrun'⟩))
      · cases hok.symm.trans herror'
    · rcases hcases' with hdb | ⟨init', s', hok', -⟩ | ⟨e', s', herror', hrun'⟩
      · exact Or.inr (Or.inl hdb)
      · cases herror.symm.trans hok'
      · cases herror.symm.trans herror'
        exact Or.inr (Or.inr (Or.inr ⟨e, s, s', hrun, hrun'⟩))
  · intro e s hfail
    rcases hcases with ⟨d, s', hrun⟩ | ⟨init, s', -, hrun⟩ | ⟨e', s', herror, hrun⟩
    · cases hrun.symm.trans hfail
      exact Or.inl ⟨d, rfl⟩
    · cases hrun.symm.trans hfail
    · cases hrun.symm.trans hfail
      exact Or.inr (verdict_error hm hmsg herror)

open ReferenceMainnet in
/-- A message that its sender can pay stays includable when the balance is gone, the value
and the prices are the largest, and the nonce and the cap are others. -/
theorem l1Message_inclusion_noninterference_unfunded :
    ∃ init s s', (sampleHandler.admission (sampleL1Message .euclid 200)).run
        ⟨sampleJournal 60200, sampleChain⟩ = .ok (init, 0) s ∧
      (sampleHandler.admission ((sampleL1Message .euclid 200).under
        ⟨0, 2 ^ 256 - 1, 2 ^ 128 - 1, some (2 ^ 128 - 1), none, none, none, 2 ^ 64 - 1, 0⟩)).run
          ⟨sampleJournal 0, {}⟩ = .ok (init, 0) s' := by
  have hincluded : ∃ init s, (sampleHandler.admission (sampleL1Message .euclid 200)).run
      ⟨sampleJournal 60200, sampleChain⟩ = .ok (init, 0) s := ⟨_, _, rfl⟩
  obtain ⟨init, s, hrun⟩ := hincluded
  have hinterference := (l1Message_inclusion_noninterference sampleHandler lawful warming
    (sampleL1Message .euclid 200)
    ⟨0, 2 ^ 256 - 1, 2 ^ 128 - 1, some (2 ^ 128 - 1), none, none, none, 2 ^ 64 - 1, 0⟩ rfl rfl
    ⟨sampleJournal 60200, sampleChain⟩ ⟨sampleJournal 0, {}⟩ rfl).1
  rcases hinterference with ⟨_, _, hdb⟩ | ⟨_, _, hdb⟩ | hboth | ⟨_, _, _, herror, -⟩
  · cases hrun.symm.trans hdb
  · cases hdb
  · exact hboth
  · cases hrun.symm.trans herror

end ScrollRevm
