import ScrollRevm.Journal.Interface
import ScrollRevm.Revm.Gas

/-!
# revm's mainnet handler

The transaction accessors, validations and handler steps of revm that the crate's
handler calls or inherits. They are parameters: `LawfulMainnet` states what revm
documents of them, in terms of the account information, the storage and the database
that the journal shows before and after a step.
-/

namespace ScrollRevm

open FixedWidth

/-- The transaction type with the given number. -/
def TransactionType.ofU8 (txType : U8) : TransactionType :=
  match txType.toNat with
  | 0 => .legacy
  | 1 => .eip2930
  | 2 => .eip1559
  | 3 => .eip4844
  | 4 => .eip7702
  | _ => .custom

/-- The parts of revm's handler that the crate calls, over journals `J`, gas counters
`G`, result gas `R` and execution results `X`. -/
structure MainnetHandler (J ε G R X : Type) where
  transactionType : U8 → TransactionType
  maxFeePerGas : TxEnv → U128
  effectiveGasPrice : TxEnv → U128 → U128
  maxBalanceSpending : TxEnv → Except InvalidTransaction U256
  validateLegacyGasPrice : U128 → Option U128 → Except InvalidTransaction Unit
  validatePriorityFeeTx : U128 → U128 → Option U128 → Bool → Except InvalidTransaction Unit
  validateEip4844Tx : List U256 → U128 → U128 → Option U64 → Except InvalidTransaction Unit
  validateAgainstStateAndDeductCaller : Env → EStateM (EVMError ε) J Unit
  loadAccounts : Env → EStateM (EVMError ε) J Unit
  applyEip7702AuthList : Env → EStateM (EVMError ε) J U64
  /-- The frames of the transaction, started with the given gas. -/
  runExecLoop : Env → U64 → EStateM (EVMError ε) J (FrameResult G)
  reimburseCaller : Env → G → EStateM (EVMError ε) J Unit
  executionResult : Env → FrameResult G → R → EStateM (EVMError ε) J X
  /-- The gas reported by a result. -/
  resultGas : X → R

/-- Whether code bars an account from sending transactions (EIP-3607). -/
def Bytecode.rejectsCaller (code : Bytecode) : Bool := !code.isEmpty && !code.isEip7702

namespace MainnetHandler

variable {J ε G R X : Type} [JournalTr J ε] (mainnet : MainnetHandler J ε G R X)

/-- The effective gas price under the base fee of the block. -/
def price (env : Env) : U128 :=
  mainnet.effectiveGasPrice env.tx.base (env.block.basefee.setWidth 128)

/-- The gas fee charged up front. -/
def gasFee (env : Env) : Nat := env.tx.gasLimit.toNat * (mainnet.price env).toNat

/-- The largest gas fee the sender agrees to. -/
def maxGasFee (env : Env) : Nat :=
  env.tx.gasLimit.toNat * (mainnet.maxFeePerGas env.tx.base).toNat

/-- The gas the sender gets back is paid at the effective price. -/
def reimbursement [GasTr G R] (env : Env) (gas : G) : U256 :=
  (satMul (mainnet.price env)
    ((GasTr.remaining gas + GasTr.refunded gas).setWidth 128)).setWidth 256

/-- The mainnet checks of the sender: nonce, code, and a balance that covers the
largest gas fee and the value. -/
structure Accepts (env : Env) (caller : AccountInfo) : Prop where
  nonce : caller.nonce = env.tx.nonce
  code : env.cfg.isEip3607Disabled = true ∨ caller.code.rejectsCaller = false
  balance : ∃ spending, mainnet.maxBalanceSpending env.tx.base = .ok spending ∧
    spending ≤ caller.balance

/-- The sender after the mainnet deduction. -/
def deducted (env : Env) (caller : AccountInfo) : AccountInfo :=
  let paid := { caller with balance := caller.balance - BitVec.ofNat 256 (mainnet.gasFee env) }
  if env.tx.kind.isCall then paid.bump else paid

end MainnetHandler

open JournalTr in
/-- What revm documents of its handler. -/
structure LawfulMainnet {J ε G R X : Type} [JournalTr J ε] [GasTr G R]
    (mainnet : MainnetHandler J ε G R X) : Prop where
  transactionType (txType : U8) : mainnet.transactionType txType = .ofU8 txType
  effectiveGasPrice_le (tx : TxEnv) (baseFee : U128) :
    mainnet.effectiveGasPrice tx baseFee ≤ mainnet.maxFeePerGas tx
  /-- `gas_limit * max_fee` is taken in 128 bits, its sum with the value in 256. -/
  maxBalanceSpending (tx : TxEnv) (h : TransactionType.ofU8 tx.txType ≠ .eip4844) :
    mainnet.maxBalanceSpending tx =
      match checkedMul (tx.gasLimit.setWidth 128) (mainnet.maxFeePerGas tx) with
      | none => .error .overflowPaymentInTransaction
      | some fee =>
        match checkedAdd (fee.setWidth 256) tx.value with
        | none => .error .overflowPaymentInTransaction
        | some spending => .ok spending
  /-- An accepted sender is loaded and pays the gas at the effective price (of a blob
  transaction also the blob gas); the nonce of a call is bumped. -/
  deduct_ok {env : Env} {j j' : J} (htype : TransactionType.ofU8 env.tx.txType ≠ .eip4844)
    (h : (mainnet.validateAgainstStateAndDeductCaller env).run j = .ok () j') :
    mainnet.Accepts env ((view j).info env.tx.caller) ∧
      (view j').inner.state env.tx.caller ≠ none ∧
      (view j').info = Function.update (view j).info env.tx.caller
        (mainnet.deducted env ((view j).info env.tx.caller))
  /-- A sender is refused before anything changes, by a check or by the database. -/
  deduct_error {env : Env} {e : EVMError ε} {j j' : J}
    (h : (mainnet.validateAgainstStateAndDeductCaller env).run j = .error e j') :
    (view j').info = (view j).info ∧
      ((∃ d, e = .database d) ∨ ¬mainnet.Accepts env ((view j).info env.tx.caller))
  loadAccounts_ok {env : Env} {j j' : J} (h : (mainnet.loadAccounts env).run j = .ok () j') :
    (view j').info = (view j).info
  /-- The authorization list is read for type-4 transactions only. -/
  applyEip7702AuthList_of_ne {env : Env} (j : J)
    (h : TransactionType.ofU8 env.tx.txType ≠ .eip7702) :
    (mainnet.applyEip7702AuthList env).run j = .ok 0 j
  /-- Applying authorizations moves no balance and lowers no nonce. -/
  applyEip7702AuthList_ok {env : Env} {refund : U64} {j j' : J}
    (h : (mainnet.applyEip7702AuthList env).run j = .ok refund j') (a : Address) :
    (view j').balance a = (view j).balance a ∧ (view j).nonce a ≤ (view j').nonce a
  reimburseCaller_ok {env : Env} {gas : G} {j j' : J}
    (h : (mainnet.reimburseCaller env gas).run j = .ok () j') :
    (view j').info = Function.update (view j).info env.tx.caller
      (((view j).info env.tx.caller).credit (mainnet.reimbursement env gas))
  reimburseCaller_error {env : Env} {gas : G} {e : EVMError ε} {j j' : J}
    (h : (mainnet.reimburseCaller env gas).run j = .error e j') : ∃ d, e = .database d
  /-- A result reports the gas it was built with and ends the transaction. -/
  executionResult_ok {env : Env} {frame : FrameResult G} {gas : R} {x : X} {j j' : J}
    (h : (mainnet.executionResult env frame gas).run j = .ok x j') :
    mainnet.resultGas x = gas ∧ Journal.commitTx.run (view j) = .ok () (view j')

/-- What revm documents of the frames of a transaction and the sender's nonce: it is never
lowered, and a top-level create bumps it once the balance covers the value. -/
structure LawfulFrames {J ε G R X : Type} [JournalTr J ε] (mainnet : MainnetHandler J ε G R X) :
    Prop where
  nonce_le {env : Env} {gas : U64} {frame : FrameResult G} {j j' : J}
    (h : (mainnet.runExecLoop env gas).run j = .ok frame j') :
    (JournalTr.view j).nonce env.tx.caller ≤ (JournalTr.view j').nonce env.tx.caller
  create_funded {env : Env} {gas : U64} {frame : FrameResult G} {j j' : J}
    (h : (mainnet.runExecLoop env gas).run j = .ok frame j')
    (hkind : env.tx.kind.isCall = false)
    (hfunds : env.tx.value ≤ (JournalTr.view j).balance env.tx.caller)
    (hnonce : ((JournalTr.view j).nonce env.tx.caller).toNat < 2 ^ 64 - 1) :
    (JournalTr.view j).nonce env.tx.caller < (JournalTr.view j').nonce env.tx.caller
  create_unfunded {env : Env} {gas : U64} {frame : FrameResult G} {j j' : J}
    (h : (mainnet.runExecLoop env gas).run j = .ok frame j')
    (hkind : env.tx.kind.isCall = false)
    (hfunds : (JournalTr.view j).balance env.tx.caller < env.tx.value) :
    (JournalTr.view j').nonce env.tx.caller = (JournalTr.view j).nonce env.tx.caller

end ScrollRevm
