import ScrollRevm.Precompile.Static

/-!
# Reference precompiles

revm's precompiles as they are documented, but for what hashes and curves compute. Modular
exponentiation is computed at the prices of Berlin and of Osaka, and Osaka's is no lower.
-/

namespace ScrollRevm

open FixedWidth

namespace ReferencePrecompiles

/-- Some bytes at the given price. -/
def priced (cost : U64) (bytes : Bytes) (gasLimit : U64) : PrecompileResult :=
  if gasLimit < cost then .error .outOfGas else .ok (.new cost bytes)

/-- Some bytes at a price for each word of the input. -/
def pricedByWord (cost perWord : Nat) (bytes input : Bytes) : U64 → PrecompileResult :=
  priced (clamp 64 (cost + perWord * ((input.length + 31) / 32))) bytes

theorem priced_ok {cost gasLimit : U64} {bytes : Bytes} {output : PrecompileOutput}
    (h : priced cost bytes gasLimit = .ok output) : output = .new cost bytes := by
  unfold priced at h
  split at h
  · cases h
  · cases h
    rfl

/-! ## Modular exponentiation -/

/-- The low bytes of a number, the highest first. -/
def bytesOfNat (len n : Nat) : Bytes :=
  (List.range len).map fun i => BitVec.ofNat 8 (n >>> (8 * (len - 1 - i)))

/-- The power: base, exponent and modulus follow the head of the input. -/
def modexpBytes (baseLen expLen modLen : Nat) (input : Bytes) : Bytes :=
  let operand (len offset : Nat) : Nat :=
    (fromBeSlice (8 * len) (rightPadWithOffset len input offset)).toNat
  let modulus := operand modLen (96 + baseLen + expLen)
  bytesOfNat modLen
    (if modulus = 0 then 0 else operand baseLen 96 ^ operand expLen (96 + baseLen) % modulus)

/-- The iterations over the bits in the head of the exponent and over its other bytes. -/
def iterationCount (multiplier expLen : Nat) (expHead : U256) : Nat :=
  max 1 (multiplier * (expLen - 32) + expHead.toNat.log2)

/-- The gas of a modular exponentiation, by the complexity of one multiplication. -/
def gasCalc (minPrice multiplier divisor : Nat) (complexity : Nat → Nat)
    (baseLen expLen modLen : U64) (expHead : U256) : U64 :=
  clamp 64 (max minPrice (complexity (max baseLen.toNat modLen.toNat) *
    iterationCount multiplier expLen.toNat expHead / divisor))

/-- The complexity of Berlin: the square of the words of eight bytes. -/
def berlinComplexity (len : Nat) : Nat := ((len + 7) / 8) ^ 2

/-- The complexity of Osaka: twice the one of Berlin, and 16 up to 32 bytes. -/
def osakaComplexity (len : Nat) : Nat := if len ≤ 32 then 16 else 2 * berlinComplexity len

def berlinGasCalc : U64 → U64 → U64 → U256 → U64 := gasCalc 200 8 3 berlinComplexity

def osakaGasCalc : U64 → U64 → U64 → U256 → U64 := gasCalc 500 16 1 osakaComplexity

theorem berlinComplexity_le (len : Nat) : berlinComplexity len ≤ osakaComplexity len := by
  unfold osakaComplexity
  split
  · have hwords : (len + 7) / 8 ≤ 4 := by omega
    exact Nat.pow_le_pow_left hwords 2
  · exact Nat.le_mul_of_pos_left _ (by decide)

/-- Osaka's price is no lower than Berlin's. -/
theorem berlinGasCalc_le (baseLen expLen modLen : U64) (expHead : U256) :
    berlinGasCalc baseLen expLen modLen expHead ≤ osakaGasCalc baseLen expLen modLen expHead := by
  have hiterations : iterationCount 8 expLen.toNat expHead ≤
      iterationCount 16 expLen.toNat expHead := by
    unfold iterationCount
    omega
  rw [BitVec.le_def, berlinGasCalc, osakaGasCalc, gasCalc, gasCalc, toNat_clamp, toNat_clamp]
  apply min_le_min_left
  apply max_le_max (by decide)
  rw [Nat.div_one]
  exact (Nat.div_le_self _ 3).trans (Nat.mul_le_mul (berlinComplexity_le _) hiterations)

/-- The length of an operand is no machine word, or exceeds 1024 bytes under Osaka's rules. -/
def tooLong (osaka : Bool) (input : Bytes) : Bool :=
  (Modexp.operandLengths input).any fun len => (if osaka then 1025 else 2 ^ 64) ≤ len.toNat

/-- Modular exponentiation with the gas of its lengths. -/
def modexpRunInner (osaka : Bool) (input : Bytes) (gasLimit minGas : U64)
    (calcGas : U64 → U64 → U64 → U256 → U64) : PrecompileResult :=
  let baseLen : U64 := fromBeSlice 64 (rightPadWithOffset 32 input 0)
  let expLen : U64 := fromBeSlice 64 (rightPadWithOffset 32 input 32)
  let modLen : U64 := fromBeSlice 64 (rightPadWithOffset 32 input 64)
  let expHead : U256 :=
    fromBeSlice 256 (rightPadWithOffset (min expLen.toNat 32) input (96 + baseLen.toNat))
  if gasLimit < minGas then .error .outOfGas
  else if tooLong osaka input then .error (.other "modexp operand overflow")
  else if baseLen = 0 ∧ modLen = 0 then .ok (.new minGas [])
  else priced (calcGas baseLen expLen modLen expHead)
    (modexpBytes baseLen.toNat expLen.toNat modLen.toNat input) gasLimit

/-! ## The precompiles -/

/-- The word 1. -/
def one : Bytes := List.replicate 31 0 ++ [1]

/-- The pairing check, which holds of no pairs. -/
def runPair (input : Bytes) (perPoint baseCost : U64) : U64 → PrecompileResult :=
  priced (clamp 64 (baseCost.toNat + perPoint.toNat * (input.length / 192))) one

/-- revm's precompiles: those of hashes and curves return what they do for the empty input. -/
def base : RevmPrecompiles where
  ecrecover := ⟨.ecRec, Addresses.ecrecover, fun _ => priced 3000 []⟩
  identityFun := ⟨.identity, Addresses.identity, fun input => pricedByWord 15 3 input input⟩
  bn254AddIstanbul :=
    ⟨.bn254Add, Addresses.bn254Add, fun _ => priced 150 (List.replicate 64 0)⟩
  bn254MulIstanbul :=
    ⟨.bn254Mul, Addresses.bn254Mul, fun _ => priced 6000 (List.replicate 64 0)⟩
  bn254PairIstanbul :=
    ⟨.bn254Pairing, Addresses.bn254Pairing, fun input => runPair input 34000 45000⟩
  p256verify := ⟨.p256Verify, Addresses.p256verify, fun _ => priced 3450 []⟩
  p256verifyOsaka := ⟨.p256Verify, Addresses.p256verify, fun _ => priced 6900 []⟩
  sha256Run := pricedByWord 60 12 []
  ripemd160Run := pricedByWord 600 120 []
  runPair := runPair
  istanbulPairPerPoint := 34000
  istanbulPairBase := 45000
  modexpRunInner := modexpRunInner
  berlinGasCalc := berlinGasCalc
  modexpOsakaRun input gasLimit := modexpRunInner true input gasLimit 500 osakaGasCalc

/-- A set of precompiles is a list with at most one for each address. -/
abbrev Precompiles := AList fun _ : Address => Precompile

instance : PrecompilesTr Precompiles where
  default := ∅

instance : LawfulPrecompilesTr Precompiles where
  get_default address := AList.lookup_empty address

end ReferencePrecompiles

end ScrollRevm
