import ScrollRevm.L1Block
import ScrollRevm.Revm.Mainnet

/-!
# The Scroll handler

The handler steps of the crate, in the order of the source. A step reads the
transaction, the block and the configuration from its environment and changes the
journal and the chain context, which keep their changes when the step fails. The
order in which revm runs the steps is `run`.
-/

namespace ScrollRevm

open FixedWidth StateResult

/-- What the steps of a transaction change. -/
structure Ctx (J : Type) where
  journal : J
  chain : ScrollChainContext := {}

/-- The handler; the inherited steps are those of `mainnet`. -/
structure ScrollHandler (J ε G R X : Type) where
  mainnet : MainnetHandler J ε G R X

/-- Replaces the journal of a context. -/
def Ctx.withJournal {J : Type} (journal : J) (ctx : Ctx J) : Ctx J :=
  { ctx with journal := journal }

/-- A step of a handler. -/
abbrev Step (J ε α : Type) := EStateM (EVMError ε) (Ctx J) α

section Lift

variable {J ε α : Type}

/-- A journal operation as a step: its errors are database errors. -/
def journalMut (x : EStateM ε J α) : Step J ε α :=
  focus Ctx.journal Ctx.withJournal EVMError.database x

/-- A mainnet step as a step of the handler. -/
def mainnetStep (x : EStateM (EVMError ε) J α) : Step J ε α :=
  focus Ctx.journal Ctx.withJournal id x

/-- A rejected transaction as a failed step. -/
def validated (x : Except InvalidTransaction α) : Step J ε α :=
  match x with
  | .ok a => pure a
  | .error e => throw (.transaction e)

end Lift

section L1BlockInfo

variable {J ε : Type} [JournalTr J ε]

/-- Reads an oracle slot through the journal: its journaled value, else the one of the
database. -/
def oracleStorage (slot : U256) : EStateM ε J U256 := do
  match JournalTr.journaled (← get) l1GasPriceOracleAddress slot with
  | some value => return value
  | none => JournalTr.databaseStorage l1GasPriceOracleAddress slot

/-- Fetches the L1 block info through the journal. -/
def L1BlockInfo.tryFetchFromJournal (specId : ScrollSpecId) : EStateM ε J L1BlockInfo :=
  L1BlockInfo.tryFetchWith oracleStorage specId

/-- Fetches the L1 block info from the database. -/
def L1BlockInfo.tryFetch (specId : ScrollSpecId) : EStateM ε J L1BlockInfo :=
  L1BlockInfo.tryFetchWith (JournalTr.databaseStorage l1GasPriceOracleAddress) specId

/-- The L1 data fee of a fee-charged transaction, or the text of its error. -/
def txL1Cost (chain : ScrollChainContext) (tx : ScrollTransaction) (spec : ScrollSpecId) :
    Except String U256 :=
  match tx.rlpBytes with
  | none => .error "[SCROLL] Failed to load transaction rlp_bytes."
  | some rlpBytes =>
    match chain.l1BlockInfo.tryCalculateTxL1Cost rlpBytes spec tx.compressionRatio
      tx.compressedSize with
    | .ok cost => .ok cost
    | .error err => .error ("[SCROLL] Failed to calculate L1 fee: " ++ err.display)

/-- The L1 data fee under the context of a step. -/
def stepL1Cost (env : Env) : Step J ε U256 := fun ctx =>
  match txL1Cost ctx.chain env.tx env.cfg.spec with
  | .ok cost => .ok cost ctx
  | .error text => .error (.custom text) ctx

end L1BlockInfo

namespace ScrollHandler

variable {J ε G R X : Type} [JournalTr J ε] [GasTr G R] [ResultGasTr R]
variable (self : ScrollHandler J ε G R X) (env : Env)

/-! ## Validation -/

def validatePriorityFeeForTx (baseFee : Option U128) (disablePriorityFeeCheck : Bool) :
    Except InvalidTransaction Unit :=
  self.mainnet.validatePriorityFeeTx (self.mainnet.maxFeePerGas env.tx.base)
    (env.tx.maxPriorityFeePerGas.getD 0) baseFee disablePriorityFeeCheck

/-- Checks of the block under the mapped Ethereum hardfork. -/
def validateBlockEnv : Except InvalidHeader Unit := do
  let specId := env.cfg.spec.intoEthSpecId
  if specId.isEnabledIn .merge && env.block.prevrandao.isNone then
    throw .prevrandaoNotSet
  if specId.isEnabledIn .cancun && env.block.blobExcessGasAndPrice.isNone then
    throw .excessBlobGasNotSet

/-- The chain id check of EIP-155. -/
def validateChainId (txType : TransactionType) : Except InvalidTransaction Unit := do
  if env.cfg.txChainIdCheck then
    match env.tx.chainId with
    | some chainId => if chainId ≠ env.cfg.chainId then throw .invalidChainId
    | none => if txType ≠ .legacy ∧ txType ≠ .custom then throw .missingChainId

/-- The checks of a transaction type. -/
def validateTxType (txType : TransactionType) (baseFee : Option U128) :
    Except InvalidTransaction Unit := do
  let specId := env.cfg.spec.intoEthSpecId
  let disablePriorityFeeCheck := env.cfg.isPriorityFeeCheckDisabled
  match txType with
  | .legacy => self.mainnet.validateLegacyGasPrice env.tx.gasPrice baseFee
  | .eip2930 =>
    if !specId.isEnabledIn .berlin then throw .eip2930NotSupported
    self.mainnet.validateLegacyGasPrice env.tx.gasPrice baseFee
  | .eip1559 =>
    if !specId.isEnabledIn .london then throw .eip1559NotSupported
    self.validatePriorityFeeForTx env baseFee disablePriorityFeeCheck
  | .eip4844 =>
    if !specId.isEnabledIn .cancun then throw .eip4844NotSupported
    self.validatePriorityFeeForTx env baseFee disablePriorityFeeCheck
    self.mainnet.validateEip4844Tx env.tx.blobVersionedHashes env.tx.maxFeePerBlobGas
      ((env.block.blobExcessGasAndPrice.map Prod.snd).getD 0) env.cfg.maxBlobsPerTx
  | .eip7702 =>
    -- activates with Euclid, not with the mapped Ethereum hardfork
    if !env.cfg.spec.isEnabledIn .euclid then throw .eip7702NotSupported
    self.validatePriorityFeeForTx env baseFee disablePriorityFeeCheck
    if env.tx.authorizationListLen = 0 then throw .emptyAuthorizationList
  | .custom =>
    -- the L1 message is the only custom type
    if !env.tx.isL1Msg then throw (.str "unsupported transaction type")

/-- The checks of the transaction. -/
def validateTxEnv : Except InvalidTransaction Unit := do
  let txType := self.mainnet.transactionType env.tx.txType
  let baseFee : Option U128 :=
    if env.cfg.isBaseFeeCheckDisabled then none else some (env.block.basefee.setWidth 128)
  validateChainId env txType
  -- L1 messages are exempt from the EIP-7825 transaction gas limit cap
  if !env.tx.isL1Msg then
    if env.cfg.txGasLimitCap < env.tx.gasLimit then
      throw (.txGasLimitGreaterThanCap env.tx.gasLimit env.cfg.txGasLimitCap)
  self.validateTxType env txType baseFee
  if !env.cfg.isBlockGasLimitDisabled && decide (env.block.gasLimit < env.tx.gasLimit) then
    throw .callerGasLimitMoreThanBlock
  if env.cfg.spec.intoEthSpecId.isEnabledIn .shanghai && env.tx.kind.isCreate &&
      decide (env.cfg.maxInitcodeSize.toNat < env.tx.input.length) then
    throw .createInitCodeSizeLimit

/-- Validates the block and the transaction. -/
def validateEnv : Except (EVMError ε) Unit :=
  match validateBlockEnv env with
  | .error e => .error (.header e)
  | .ok () =>
    match self.validateTxEnv env with
    | .error e => .error (.transaction e)
    | .ok () => .ok ()

/-- The numbers of access list accounts and slots that are charged for. -/
def accessListCounts : Nat × Nat :=
  -- the legacy type is the only one without an access list
  if env.tx.txType ≠ 0 then
    match env.tx.accessList with
    | some items =>
      items.foldl (fun acc item => (acc.1 + 1, acc.2 + item.storageSlots.length)) (0, 0)
    | none => (0, 0)
  else (0, 0)

/-- The intrinsic and the floor gas under the configured parameters; the floor starts
with Feynman. -/
def initialAndFloorGas : InitialAndFloorGas :=
  let (accounts, storages) := accessListCounts env
  let gas := env.cfg.gasParams.initialTxGas env.tx.input env.tx.kind.isCreate
    (BitVec.ofNat 64 accounts) (BitVec.ofNat 64 storages) env.tx.authorizationListLen
  if env.cfg.isEip7623Disabled || !env.cfg.spec.isEnabledIn .feynman then
    { gas with floorGas := 0 }
  else gas

/-- Compares the intrinsic and the floor gas with the gas limit. -/
def validateInitialTxGas : Except InvalidTransaction InitialAndFloorGas := do
  let gas := initialAndFloorGas env
  if env.tx.gasLimit < gas.initialGas then
    throw (.callGasCostMoreThanGasLimit env.tx.gasLimit gas.initialGas)
  if env.cfg.spec.isEnabledIn .feynman && decide (env.tx.gasLimit < gas.floorGas) then
    throw (.gasFloorMoreThanGasLimit gas.floorGas env.tx.gasLimit)
  return gas

/-! ## Before execution -/

/-- Checks the L1 fee against the balance the mainnet deduction left, and deducts it. -/
def deductL1Fee : Step J ε Unit := do
  let txL1Cost ← stepL1Cost env
  let callerAccount ← journalMut (JournalTr.loadAccountMut env.tx.caller)
  if callerAccount.info.balance < txL1Cost then
    throw (.transaction (.lackOfFundForMaxFee txL1Cost callerAccount.info.balance))
  let _ ← journalMut (JournalTr.decrBalance env.tx.caller txL1Cost)

/-- The charges before TsukiV2: the mainnet check and deduction, then the L1 fee. -/
def deductCallerBeforeTsukiV2 : Step J ε Unit := do
  if !env.tx.isL1Msg then
    mainnetStep (self.mainnet.validateAgainstStateAndDeductCaller env)
  if !env.tx.isL1Msg && !env.tx.isSystemTx then
    deductL1Fee env

/-- Checks the total spending against the original balance and returns the L1 fee. -/
def checkTotalSpending : Step J ε U256 := do
  let callerAccount ← journalMut (JournalTr.loadAccountMut env.tx.caller)
  let balance := callerAccount.info.balance
  let txL1Cost ← stepL1Cost env
  let maxBalanceSpending ← validated (self.mainnet.maxBalanceSpending env.tx.base)
  match checkedAdd maxBalanceSpending txL1Cost with
  | none => throw (.transaction .overflowPaymentInTransaction)
  | some requiredBalance =>
    if balance < requiredBalance then
      throw (.transaction (.lackOfFundForMaxFee requiredBalance balance))
    return txL1Cost

/-- Deducts the L1 fee after the total spending was checked; the result of the
deduction is ignored. -/
def deductCheckedL1Fee (txL1Cost : U256) : Step J ε Unit := do
  let _ ← journalMut (JournalTr.loadAccountMut env.tx.caller)
  let _ ← journalMut (JournalTr.decrBalance env.tx.caller txL1Cost)

/-- The charges from TsukiV2 on: the check of the total spending, the mainnet check and
deduction, then the L1 fee. -/
def deductCallerTsukiV2 : Step J ε Unit := do
  let txL1Cost ←
    if !env.tx.isL1Msg && !env.tx.isSystemTx then self.checkTotalSpending env else pure 0
  if !env.tx.isL1Msg then
    mainnetStep (self.mainnet.validateAgainstStateAndDeductCaller env)
  if !env.tx.isL1Msg && !env.tx.isSystemTx then
    deductCheckedL1Fee env txL1Cost

/-- The checks of an L1 message, which pays no fee, and its nonce. -/
def validateL1Msg : Step J ε Unit := do
  let callerAccount ← journalMut (JournalTr.loadAccountWithCodeMut env.tx.caller)
  -- from Euclid on an unfunded message is included and fails in its first frame
  let skipBalanceCheck := env.tx.isL1Msg && env.cfg.spec.isEnabledIn .euclid
  if !skipBalanceCheck then
    let maxBalanceSpending ← validated (self.mainnet.maxBalanceSpending env.tx.base)
    if callerAccount.info.balance < maxBalanceSpending then
      throw (.transaction (.lackOfFundForMaxFee maxBalanceSpending callerAccount.info.balance))
  if !env.cfg.isEip3607Disabled then
    if !callerAccount.info.code.isEmpty && !callerAccount.info.code.isEip7702 then
      throw (.transaction .rejectCallerWithCode)
  if env.tx.kind.isCall then
    let _ ← journalMut (JournalTr.bumpNonce env.tx.caller)
  journalMut (JournalTr.touch env.tx.caller)

/-- Checks the sender against the state and charges it. -/
def validateAgainstStateAndDeductCaller : Step J ε Unit := do
  if !env.cfg.spec.isEnabledIn .tsukiV2 then
    self.deductCallerBeforeTsukiV2 env
  else
    self.deductCallerTsukiV2 env
  if env.tx.isL1Msg then
    self.validateL1Msg env

/-- Refreshes the L1 block info for a fee-charged transaction. -/
def refreshL1BlockInfo : Step J ε Unit := do
  if !env.tx.isL1Msg && !env.tx.isSystemTx then
    let l1BlockInfo ← journalMut (L1BlockInfo.tryFetchFromJournal env.cfg.spec)
    modify fun ctx => { ctx with chain := { ctx.chain with l1BlockInfo := l1BlockInfo } }

/-- Prepares the state for execution and returns the EIP-7702 refund. -/
def preExecution : Step J ε U64 := do
  refreshL1BlockInfo env
  self.validateAgainstStateAndDeductCaller env
  mainnetStep (self.mainnet.loadAccounts env)
  mainnetStep (self.mainnet.applyEip7702AuthList env)

/-! ## After execution -/

/-- Moves the gas of the last frame to the counter of the transaction. -/
def lastFrameResult (frameResult : FrameResult G) : FrameResult G :=
  let remaining := GasTr.remaining frameResult.gas
  let refunded := GasTr.refunded frameResult.gas
  let gas : G := GasTr.newSpent env.tx.gasLimit
  let gas :=
    if frameResult.result.isOkOrRevert then GasTr.eraseCost gas remaining else gas
  let gas :=
    if !env.tx.isL1Msg && frameResult.result.isOk then GasTr.recordRefund gas refunded else gas
  { frameResult with gas := gas }

/-- Applies the EIP-7623 floor, except to L1 messages. -/
def eip7623CheckGasFloor (execResult : FrameResult G) (initAndFloorGas : InitialAndFloorGas) :
    FrameResult G :=
  if env.tx.isL1Msg then execResult
  else { execResult with gas := GasTr.eip7623CheckGasFloor execResult.gas initAndFloorGas }

/-- Records and caps the refund, except for L1 messages. -/
def refund (execResult : FrameResult G) (eip7702Refund : I64) : FrameResult G :=
  if env.tx.isL1Msg then execResult
  else
    { execResult with
      gas := GasTr.refund env.cfg.spec.intoEthSpecId execResult.gas eip7702Refund }

/-- Returns the unused gas to the caller, except for L1 messages. -/
def reimburseCaller (execResult : FrameResult G) : Step J ε Unit := do
  if env.tx.isL1Msg then return
  mainnetStep (self.mainnet.reimburseCaller env execResult.gas)

/-- Pays the gas fee and the L1 fee to the beneficiary, except for L1 messages. -/
def rewardBeneficiary (execResult : FrameResult G) : Step J ε Unit := do
  if env.tx.isL1Msg then return
  let effectiveGasPrice : U256 :=
    (self.mainnet.effectiveGasPrice env.tx.base (env.block.basefee.setWidth 128)).setWidth 256
  let l1Cost ← if !env.tx.isSystemTx then stepL1Cost env else pure 0
  let reward :=
    satAdd (satMul effectiveGasPrice ((GasTr.used execResult.gas).setWidth 256)) l1Cost
  journalMut (JournalTr.balanceIncr env.block.beneficiary reward)

/-- Builds the result; an L1 message reports its gas without the floor. -/
def executionResult (result : FrameResult G) (resultGas : R) : Step J ε X :=
  let resultGas := if env.tx.isL1Msg then ResultGasTr.setFloorGas 0 resultGas else resultGas
  mainnetStep (self.mainnet.executionResult env result resultGas)

/-! ## The order of the steps -/

/-- `validate`: the checks that read no state. -/
def validate : Except (EVMError ε) InitialAndFloorGas :=
  match self.validateEnv (ε := ε) env with
  | .error e => .error e
  | .ok () =>
    match validateInitialTxGas env with
    | .error e => .error (.transaction e)
    | .ok gas => .ok gas

/-- `execution`: the frames, started with what the intrinsic gas leaves. -/
def execution (initAndFloorGas : InitialAndFloorGas) : Step J ε (FrameResult G) := do
  let frameResult ←
    mainnetStep (self.mainnet.runExecLoop env (env.tx.gasLimit - initAndFloorGas.initialGas))
  return lastFrameResult env frameResult

/-- The gas of a frame result after refund and floor, and the gas of the result, which is
built between the two. -/
def settle (execResult : FrameResult G) (initAndFloorGas : InitialAndFloorGas)
    (eip7702Refund : I64) : FrameResult G × R :=
  let execResult := refund env execResult eip7702Refund
  let resultGas := GasTr.buildResultGas execResult.gas initAndFloorGas
  (eip7623CheckGasFloor env execResult initAndFloorGas, resultGas)

/-- `post_execution`. -/
def postExecution (execResult : FrameResult G) (initAndFloorGas : InitialAndFloorGas)
    (eip7702Refund : I64) : Step J ε (FrameResult G × R) := do
  let settled := settle env execResult initAndFloorGas eip7702Refund
  self.reimburseCaller env settled.1
  self.rewardBeneficiary env settled.1
  return settled

/-- `run_without_catch_error`. -/
def runWithoutCatchError : Step J ε X := do
  match self.validate (ε := ε) env with
  | .error e => throw e
  | .ok initAndFloorGas =>
    let eip7702Refund ← self.preExecution env
    let execResult ← self.execution env initAndFloorGas
    let (execResult, resultGas) ← self.postExecution env execResult initAndFloorGas eip7702Refund
    self.executionResult env execResult resultGas

/-- `run`: a rejected transaction is discarded. -/
def run : Step J ε X := fun ctx =>
  match self.runWithoutCatchError env ctx with
  | .ok x ctx => .ok x ctx
  | .error e ctx =>
    match journalMut (ε := ε) (JournalTr.discardTx (J := J)) ctx with
    | .ok () ctx => .error e ctx
    | .error _ ctx => .error e ctx

end ScrollHandler

end ScrollRevm
