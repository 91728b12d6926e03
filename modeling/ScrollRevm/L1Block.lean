import ScrollRevm.Spec
import ScrollRevm.Lib.FixedWidth

/-!
# The L1 fee

The L1 gas price oracle values a hardfork reads, the four fee formulas, and the
cap of the result. Saturating word operations follow the source step by step;
`wrapping_div` is the quotient of words, its divisors here are never zero.
-/

namespace ScrollRevm

open FixedWidth

/-- The cost of a zero byte in calldata. -/
def zeroByteCost : U64 := 4

/-- The cost of a non-zero byte in calldata. -/
def nonZeroByteCost : U64 := 16

/-- The extra cost of committing a transaction on L1. -/
def txL1CommitExtraCost : U256 := 64

/-- The precision used for L1 fee calculations. -/
def txL1FeePrecision : U256 := 1000000000

/-- The L1 gas price oracle address. -/
def l1GasPriceOracleAddress : Address := 0x5300000000000000000000000000000000000002

def l1BaseFeeSlot : U256 := 1
def l1OverheadSlot : U256 := 2
def l1ScalarSlot : U256 := 3
def l1BlobBaseFeeSlot : U256 := 5
def l1CommitScalarSlot : U256 := 6
def l1BlobScalarSlot : U256 := 7
def penaltyThresholdSlot : U256 := 9
def penaltyFactorSlot : U256 := 10

/-- `u64::MAX` as a 256-bit word. -/
def u64Max : U256 := 0xffffffffffffffff

/-- `2^96 - 1`: the low limb is `u64::MAX` and the next one is `u32::MAX`. -/
def u96Max : U256 := 0xffffffffffffffffffffffff

/-- An error of the L1 fee calculation. -/
inductive L1FeeError where
  | missingOracleValue
  | missingCompressionRatio
  | invalidCompressionRatio (ratio : U256)
  | missingCompressedSize
  | invalidCompressedSize (compressedSize txSize : Usize)
  deriving DecidableEq, Repr

/-- The displayed text of an error. -/
def L1FeeError.display : L1FeeError → String
  | missingOracleValue => "missing L1 gas price oracle value"
  | missingCompressionRatio => "missing transaction compression ratio"
  | invalidCompressionRatio ratio =>
    s!"transaction compression ratio {ratio.toNat} must be greater or equal to {txL1FeePrecision.toNat}"
  | missingCompressedSize => "missing transaction compressed size"
  | invalidCompressedSize compressedSize txSize =>
    s!"transaction compressed size {compressedSize.toNat} must be less than or equal to the original size {txSize.toNat}"

/-- The L1 block information the fee of a transaction is calculated from. -/
structure L1BlockInfo where
  l1BaseFee : U256 := 0
  l1FeeOverhead : U256 := 0
  l1BaseFeeScalar : U256 := 0
  /-- `none` before Curie, as the next three. -/
  l1BlobBaseFee : Option U256 := none
  l1CommitScalar : Option U256 := none
  l1BlobScalar : Option U256 := none
  /-- `l1CommitScalar * l1BaseFee`, scaled by the fee precision. -/
  calldataGas : Option U256 := none
  /-- `none` before Feynman, as the next one. -/
  penaltyThreshold : Option U256 := none
  penaltyFactor : Option U256 := none
  deriving DecidableEq, Repr

namespace L1BlockInfo

/-- Fetches the L1 block info, reading each oracle slot with `storage`. -/
def tryFetchWith {m : Type → Type} [Monad m] (storage : U256 → m U256) (specId : ScrollSpecId) :
    m L1BlockInfo := do
  let l1BaseFee ← storage l1BaseFeeSlot
  let l1FeeOverhead ← storage l1OverheadSlot
  let l1BaseFeeScalar ← storage l1ScalarSlot
  if !specId.isEnabledIn .curie then
    return { l1BaseFee, l1FeeOverhead, l1BaseFeeScalar }
  let l1BlobBaseFee ← storage l1BlobBaseFeeSlot
  let l1CommitScalar ← storage l1CommitScalarSlot
  let l1BlobScalar ← storage l1BlobScalarSlot
  let calldataGas := satMul l1CommitScalar l1BaseFee
  if !specId.isEnabledIn .feynman then
    return { l1BaseFee, l1FeeOverhead, l1BaseFeeScalar
             l1BlobBaseFee := some l1BlobBaseFee
             l1CommitScalar := some l1CommitScalar
             l1BlobScalar := some l1BlobScalar
             calldataGas := some calldataGas }
  let penaltyThreshold ← storage penaltyThresholdSlot
  let penaltyFactor ← storage penaltyFactorSlot
  return { l1BaseFee, l1FeeOverhead, l1BaseFeeScalar
           l1BlobBaseFee := some l1BlobBaseFee
           l1CommitScalar := some l1CommitScalar
           l1BlobScalar := some l1BlobScalar
           calldataGas := some calldataGas
           penaltyThreshold := some penaltyThreshold
           penaltyFactor := some penaltyFactor }

/-- `ok_or(MissingOracleValue)`. -/
def oracleValue (value : Option U256) : Except L1FeeError U256 :=
  match value with
  | some v => .ok v
  | none => .error .missingOracleValue

/-- The calldata cost of the bytes, summed in 64 bits. -/
def calldataCost (input : Bytes) : U64 :=
  input.foldl (fun acc byte => acc + if byte = 0 then zeroByteCost else nonZeroByteCost) 0

/-- The L1 gas for posting the transaction as calldata, before Curie. -/
def preCurieL1Gas (self : L1BlockInfo) (input : Bytes) : U256 :=
  satAdd (satAdd ((calldataCost input).setWidth 256) self.l1FeeOverhead) txL1CommitExtraCost

/-- The Curie blob fee component. -/
def curieBlobFee (self : L1BlockInfo) (input : Bytes) : Except L1FeeError U256 := do
  let l1BlobBaseFee ← oracleValue self.l1BlobBaseFee
  let l1BlobScalar ← oracleValue self.l1BlobScalar
  return satMul (satMul (BitVec.ofNat 256 input.length) l1BlobBaseFee) l1BlobScalar

def calculateTxL1CostShanghai (self : L1BlockInfo) (input : Bytes) : U256 :=
  let txL1Gas := self.preCurieL1Gas input
  satMul (satMul txL1Gas self.l1BaseFee) self.l1BaseFeeScalar / txL1FeePrecision

def calculateTxL1CostCurie (self : L1BlockInfo) (input : Bytes) : Except L1FeeError U256 := do
  let blobFee ← self.curieBlobFee input
  let calldataGas ← oracleValue self.calldataGas
  return satAdd calldataGas blobFee / txL1FeePrecision

def calculateTxL1CostFeynman (self : L1BlockInfo) (input : Bytes) (compressionRatio : U256) :
    Except L1FeeError U256 := do
  if compressionRatio < txL1FeePrecision then
    throw (.invalidCompressionRatio compressionRatio)
  let execScalar ← oracleValue self.l1CommitScalar
  let compressedBlobScalar ← oracleValue self.l1BlobScalar
  let l1BlobBaseFee ← oracleValue self.l1BlobBaseFee
  let penaltyThreshold ← oracleValue self.penaltyThreshold
  let penaltyFactor ← oracleValue self.penaltyFactor
  let txSize := BitVec.ofNat 256 input.length
  let componentExec := satMul execScalar self.l1BaseFee
  let componentBlob := satMul compressedBlobScalar l1BlobBaseFee
  let feePerByte := satAdd componentExec componentBlob
  let penalty := if penaltyThreshold ≤ compressionRatio then txL1FeePrecision else penaltyFactor
  -- the first quotient accounts for the scalars, the second one for the penalty
  return satMul (satMul txSize feePerByte) penalty / txL1FeePrecision / txL1FeePrecision

def calculateTxL1CostGalileo (self : L1BlockInfo) (txSize compressedSize : Usize) :
    Except L1FeeError U256 := do
  if txSize < compressedSize then
    throw (.invalidCompressedSize compressedSize txSize)
  let compressedSize := compressedSize.setWidth 256
  let execScalar ← oracleValue self.l1CommitScalar
  let blobScalar ← oracleValue self.l1BlobScalar
  let l1BlobBaseFee ← oracleValue self.l1BlobBaseFee
  let penaltyFactor ← match self.penaltyFactor with
    | some f => pure (if f = 0 then (1 : U256) else f)
    | none => throw .missingOracleValue
  let componentExec := satMul execScalar self.l1BaseFee
  let componentBlob := satMul blobScalar l1BlobBaseFee
  let feePerByte := satAdd componentExec componentBlob
  let baseTerm := satMul feePerByte compressedSize
  let penaltyTerm := satMul baseTerm compressedSize / penaltyFactor
  return satAdd baseTerm penaltyTerm / txL1FeePrecision

/-- The fee before its cap. -/
def uncappedTxL1Cost (self : L1BlockInfo) (input : Bytes) (specId : ScrollSpecId)
    (compressionRatio : Option U256) (compressedSize : Option Usize) : Except L1FeeError U256 :=
  if !specId.isEnabledIn .curie then
    pure (self.calculateTxL1CostShanghai input)
  else if !specId.isEnabledIn .feynman then
    self.calculateTxL1CostCurie input
  else if !specId.isEnabledIn .galileo then
    match compressionRatio with
    | some ratio => self.calculateTxL1CostFeynman input ratio
    | none => throw .missingCompressionRatio
  else
    match compressedSize with
    | some size => self.calculateTxL1CostGalileo (BitVec.ofNat 64 input.length) size
    | none => throw .missingCompressedSize

/-- The cap of the fee. -/
def l1CostCap (specId : ScrollSpecId) : U256 :=
  if specId.isEnabledIn .tsuki then u96Max else u64Max

/-- Calculates the L1 fee of a transaction, or says which input of the hardfork's
formula is missing or invalid. -/
def tryCalculateTxL1Cost (self : L1BlockInfo) (input : Bytes) (specId : ScrollSpecId)
    (compressionRatio : Option U256) (compressedSize : Option Usize) :
    Except L1FeeError U256 := do
  let l1Cost ← self.uncappedTxL1Cost input specId compressionRatio compressedSize
  return wordMin l1Cost (l1CostCap specId)

end L1BlockInfo

end ScrollRevm
