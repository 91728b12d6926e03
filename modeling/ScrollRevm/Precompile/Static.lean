import ScrollRevm.Precompile.Transfer
import ScrollRevm.Lib.LayeredTable

/-!
# The static precompiles

The precompiles that read their input alone. The crate takes the functions behind them from
revm, and puts limits on the input of some of them or turns them off.
-/

namespace ScrollRevm

open FixedWidth

/-- The name of a precompile. -/
inductive PrecompileId where
  | ecRec | sha256 | ripemd160 | identity | modExp | bn254Add | bn254Mul | bn254Pairing | blake2F
  | p256Verify
  | custom (name : String)
  deriving DecidableEq, Repr

abbrev PrecompileResult := Except PrecompileError PrecompileOutput

/-- A precompile that reads its input alone. -/
structure Precompile where
  id : PrecompileId
  address : Address
  /-- The result for an input under a gas limit. -/
  execute : Bytes → U64 → PrecompileResult

namespace Addresses

def ecrecover : Address := 1
def sha256 : Address := 2
def ripemd160 : Address := 3
def identity : Address := 4
def modexp : Address := 5
def bn254Add : Address := 6
def bn254Mul : Address := 7
def bn254Pairing : Address := 8
def blake2f : Address := 9
def p256verify : Address := 256

/-- The address of the transfer precompile. -/
def transfer : Address := 0xff - 2

def transferId : PrecompileId := .custom "TRANSFER"

end Addresses

/-- What the crate uses of revm's precompiles. -/
structure RevmPrecompiles where
  ecrecover : Precompile
  identityFun : Precompile
  bn254AddIstanbul : Precompile
  bn254MulIstanbul : Precompile
  bn254PairIstanbul : Precompile
  p256verify : Precompile
  p256verifyOsaka : Precompile
  sha256Run : Bytes → U64 → PrecompileResult
  ripemd160Run : Bytes → U64 → PrecompileResult
  /-- The pairing check: input, gas for each pair, base gas and gas limit. -/
  runPair : Bytes → U64 → U64 → U64 → PrecompileResult
  istanbulPairPerPoint : U64
  istanbulPairBase : U64
  /-- `run_inner`: under Osaka's rules or not, input, gas limit, least gas, and the gas of the
  lengths of base, exponent and modulus and the head of the exponent. -/
  modexpRunInner : Bool → Bytes → U64 → U64 → (U64 → U64 → U64 → U256 → U64) → PrecompileResult
  berlinGasCalc : U64 → U64 → U64 → U256 → U64
  modexpOsakaRun : Bytes → U64 → PrecompileResult

/-- A disabled precompile. -/
def precompileNotImplemented (id : PrecompileId) (address : Address) : Precompile where
  id := id
  address := address
  execute _ _ := .error (.other "NotImplemented: Precompile not implemented")

/-- The bytes from an offset, padded with zeros to the given length. -/
def rightPadWithOffset (len : Nat) (input : Bytes) (offset : Nat) : Bytes :=
  let data := (input.drop offset).take len
  data ++ List.replicate (len - data.length) 0

section Sets

variable (base : RevmPrecompiles)

namespace Sha256

/-- Not implemented in Shanghai. -/
def shanghai : Precompile := precompileNotImplemented .sha256 Addresses.sha256

def bernoulli : Precompile := ⟨.sha256, Addresses.sha256, base.sha256Run⟩

end Sha256

namespace Ripemd160

/-- Not implemented before Tsuki. -/
def shanghai : Precompile := precompileNotImplemented .ripemd160 Addresses.ripemd160

/-- The length of a SHA-256 hash. -/
def tsukiLenLimit : Nat := 32

/-- Hashes of hashes only. -/
def tsuki : Precompile where
  id := .ripemd160
  address := Addresses.ripemd160
  execute input gasLimit :=
    if input.length > tsukiLenLimit then
      .error (.other "Ripemd160InputOverflow: ripemd160 input overflow")
    else base.ripemd160Run input gasLimit

end Ripemd160

namespace Modexp

/-- The lengths of base, exponent and modulus in the head of an input. -/
def operandLengths (input : Bytes) : List U256 :=
  [fromBeSlice 256 (rightPadWithOffset 32 input 0),
    fromBeSlice 256 (rightPadWithOffset 32 input 32),
    fromBeSlice 256 (rightPadWithOffset 32 input 64)]

/-- The longest base, exponent and modulus in bytes. -/
def bernoulliLenLimit : U256 := 32

/-- Runs on operands of at most 32 bytes. -/
def bernoulliRun (input : Bytes) (gasLimit : U64) : PrecompileResult :=
  let baseLen : U256 := fromBeSlice 256 (rightPadWithOffset 32 input 0)
  let expLen : U256 := fromBeSlice 256 (rightPadWithOffset 32 input 32)
  let modLen : U256 := fromBeSlice 256 (rightPadWithOffset 32 input 64)
  if bernoulliLenLimit < baseLen then
    .error (.other "ModexpBaseOverflow: modexp base overflow")
  else if bernoulliLenLimit < expLen then
    .error (.other "ModexpExpOverflow: modexp exp overflow")
  else if bernoulliLenLimit < modLen then
    .error (.other "ModexpModOverflow: modexp mod overflow")
  else base.modexpRunInner false input gasLimit 200 base.berlinGasCalc

def bernoulli : Precompile := ⟨.modExp, Addresses.modexp, bernoulliRun base⟩

def galileo : Precompile := ⟨.modExp, Addresses.modexp, base.modexpOsakaRun⟩

end Modexp

namespace Bn254Pair

/-- The most pairs of one check. -/
def bernoulliLenLimit : Nat := 4

/-- The bytes of a pair. -/
def pairElementLen : Nat := 192

/-- Checks at most four pairs. -/
def bernoulliRun (input : Bytes) (gasLimit : U64) : PrecompileResult :=
  if input.length > bernoulliLenLimit * pairElementLen then
    .error (.other "BN128PairingInputOverflow: input overflow")
  else base.runPair input base.istanbulPairPerPoint base.istanbulPairBase gasLimit

def bernoulli : Precompile := ⟨.bn254Pairing, Addresses.bn254Pairing, bernoulliRun base⟩

def feynman : Precompile := base.bn254PairIstanbul

end Bn254Pair

namespace Blake2

/-- Not implemented. -/
def shanghai : Precompile := precompileNotImplemented .blake2F Addresses.blake2f

end Blake2

/-! ## The sets of the hardforks -/

/-- revm's sets of precompiles by address. -/
class PrecompilesTr (S : Type) extends LayeredTable S Address Precompile where
  default : S

/-- What revm documents of its sets. -/
class LawfulPrecompilesTr (S : Type) [PrecompilesTr S] : Prop extends LawfulLayeredTable S where
  get_default (address : Address) : LayeredTable.get address (PrecompilesTr.default : S) = none

namespace Precompiles

variable {S : Type} [PrecompilesTr S]

/-- Installs precompiles at their addresses, in place of what is there. -/
def extend (new : List Precompile) (self : S) : S :=
  LayeredTable.extend (new.map fun precompile => (precompile.address, precompile)) self

def preBernoulli : S :=
  extend
    [base.ecrecover, Sha256.shanghai, Ripemd160.shanghai, base.identityFun, Modexp.bernoulli base,
      base.bn254AddIstanbul, base.bn254MulIstanbul, Bn254Pair.bernoulli base, Blake2.shanghai]
    PrecompilesTr.default

def bernoulli : S := extend [Sha256.bernoulli base] (preBernoulli base)

def euclid : S := extend [base.p256verify] (bernoulli base)

def feynman : S := extend [Bn254Pair.feynman base] (euclid base)

def galileo : S := extend [Modexp.galileo base, base.p256verifyOsaka] (feynman base)

/-- The static precompiles of Tsuki and TsukiV2. -/
def tsukiStatic : S := extend [Ripemd160.tsuki base] (galileo base)

/-- The static precompiles of a hardfork. -/
def ofSpec : ScrollSpecId → S
  | .shanghai => preBernoulli base
  | .bernoulli | .curie | .darwin => bernoulli base
  | .euclid => euclid base
  | .feynman => feynman base
  | .galileo => galileo base
  | .tsuki | .tsukiV2 => tsukiStatic base

end Precompiles

end Sets

end ScrollRevm
