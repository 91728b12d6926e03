import ScrollRevm.L1Block

/-!
# Transactions, blocks and configuration

What the crate reads of a transaction, of the block and of the configuration. A
Scroll transaction wraps a base transaction and adds the inputs of the L1 fee. The
base transaction, the block and the configuration are the values that revm's
accessors return; the intrinsic gas function belongs to the configured gas
parameters.
-/

namespace ScrollRevm

/-- The target of a transaction. -/
inductive TxKind where
  | create
  | call (target : Address)
  deriving DecidableEq, Repr

namespace TxKind

def isCreate : TxKind → Bool
  | create => true
  | call _ => false

def isCall : TxKind → Bool
  | create => false
  | call _ => true

theorem isCreate_iff {kind : TxKind} : kind.isCreate = true ↔ kind = create := by
  cases kind <;> simp [isCreate]

end TxKind

/-- revm's transaction types. -/
inductive TransactionType where
  | legacy | eip2930 | eip1559 | eip4844 | eip7702 | custom
  deriving DecidableEq, Repr

/-- An access list item. -/
structure AccessListItem where
  address : Address
  storageSlots : List U256
  deriving DecidableEq, Repr

/-- The base transaction. -/
structure TxEnv where
  txType : U8 := 0
  caller : Address := 0
  gasLimit : U64 := 0
  gasPrice : U128 := 0
  kind : TxKind := .call 0
  value : U256 := 0
  data : Bytes := []
  nonce : U64 := 0
  chainId : Option U64 := none
  accessList : Option (List AccessListItem) := none
  gasPriorityFee : Option U128 := none
  blobHashes : List U256 := []
  maxFeePerBlobGas : U128 := 0
  /-- The number of authorizations. -/
  authorizationListLen : Usize := 0
  deriving DecidableEq, Repr

/-- The type of an L1 message transaction. -/
def l1MessageType : U8 := 0x7e

/-- The caller address of EIP-2935 system transactions. -/
def systemAddress : Address := 0xfffffffffffffffffffffffffffffffffffffffe

/-- A Scroll transaction. -/
structure ScrollTransaction where
  base : TxEnv
  rlpBytes : Option Bytes := none
  compressionRatio : Option U256 := none
  compressedSize : Option Usize := none
  deriving DecidableEq, Repr

namespace ScrollTransaction

variable (self : ScrollTransaction)

def txType : U8 := self.base.txType
def caller : Address := self.base.caller
def gasLimit : U64 := self.base.gasLimit
def value : U256 := self.base.value
def input : Bytes := self.base.data
def nonce : U64 := self.base.nonce
def kind : TxKind := self.base.kind
def chainId : Option U64 := self.base.chainId
def gasPrice : U128 := self.base.gasPrice
def accessList : Option (List AccessListItem) := self.base.accessList
def blobVersionedHashes : List U256 := self.base.blobHashes
def maxFeePerBlobGas : U128 := self.base.maxFeePerBlobGas
def authorizationListLen : Usize := self.base.authorizationListLen
def maxPriorityFeePerGas : Option U128 := self.base.gasPriorityFee

/-- Whether the transaction is an L1 message. -/
def isL1Msg : Bool := self.txType == l1MessageType

/-- Whether the transaction is a system transaction. -/
def isSystemTx : Bool := self.caller == systemAddress

/-- Whether the transaction pays the L1 fee: neither an L1 message nor a system
transaction. -/
def isFeeCharged : Bool := !self.isL1Msg && !self.isSystemTx

variable {self} in
theorem isFeeCharged_iff :
    self.isFeeCharged = true ↔ self.isL1Msg = false ∧ self.isSystemTx = false := by
  simp [isFeeCharged]

end ScrollTransaction

/-- The block. -/
structure BlockEnv where
  number : U256 := 0
  beneficiary : Address := 0
  basefee : U64 := 0
  gasLimit : U64 := 0
  prevrandao : Option U256 := none
  /-- The excess blob gas and the blob gas price. -/
  blobExcessGasAndPrice : Option (U64 × U128) := none
  deriving DecidableEq, Repr

/-- The intrinsic gas of a transaction and the EIP-7623 floor of its gas used. -/
structure InitialAndFloorGas where
  initialGas : U64
  floorGas : U64
  deriving DecidableEq, Repr

/-- The configured gas parameters. -/
structure GasParams where
  warmStorageReadCost : U64
  coldStorageAdditionalCost : U64
  /-- The intrinsic and floor gas from the calldata, whether it is a create, and the
  numbers of access list accounts, access list slots and authorizations. -/
  initialTxGas : Bytes → Bool → U64 → U64 → U64 → InitialAndFloorGas

/-- The configuration. -/
structure CfgEnv where
  spec : ScrollSpecId
  chainId : U64
  gasParams : GasParams
  txChainIdCheck : Bool := true
  txGasLimitCap : U64
  maxBlobsPerTx : Option U64 := none
  maxInitcodeSize : Usize
  isBaseFeeCheckDisabled : Bool := false
  isPriorityFeeCheckDisabled : Bool := false
  isBlockGasLimitDisabled : Bool := false
  isEip3607Disabled : Bool := false
  isEip7623Disabled : Bool := false

/-- What stays fixed while a transaction runs. -/
structure Env where
  tx : ScrollTransaction
  block : BlockEnv
  cfg : CfgEnv

/-- The Scroll-specific execution state. -/
structure ScrollChainContext where
  l1BlockInfo : L1BlockInfo := {}
  deriving DecidableEq, Repr

/-- Why a block is rejected. -/
inductive InvalidHeader where
  | prevrandaoNotSet
  | excessBlobGasNotSet
  deriving DecidableEq, Repr

/-- Why a transaction is rejected: the reasons of the crate, and the reasons of the
mainnet checks it calls. -/
inductive InvalidTransaction where
  | invalidChainId
  | missingChainId
  | txGasLimitGreaterThanCap (gasLimit cap : U64)
  | eip2930NotSupported
  | eip1559NotSupported
  | eip4844NotSupported
  | eip7702NotSupported
  | emptyAuthorizationList
  | str (message : String)
  | callerGasLimitMoreThanBlock
  | createInitCodeSizeLimit
  | callGasCostMoreThanGasLimit (gasLimit initialGas : U64)
  | gasFloorMoreThanGasLimit (gasFloor gasLimit : U64)
  | overflowPaymentInTransaction
  | lackOfFundForMaxFee (fee balance : U256)
  | rejectCallerWithCode
  | nonceTooHigh (tx state : U64)
  | nonceTooLow (tx state : U64)
  | gasPriceLessThanBasefee
  | priorityFeeGreaterThanMaxFee
  deriving DecidableEq, Repr

/-- The error of a transaction run over a database with errors `ε`. -/
inductive EVMError (ε : Type) where
  | transaction (error : InvalidTransaction)
  | header (error : InvalidHeader)
  | database (error : ε)
  | custom (message : String)
  deriving DecidableEq, Repr

end ScrollRevm
