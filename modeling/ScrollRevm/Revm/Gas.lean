import ScrollRevm.Lib.FixedWidth
import ScrollRevm.Transaction

/-!
# revm's gas counter

The gas counter of a frame result, the steps of post-execution that act on it and the
gas of a result. They belong to revm: the crate calls them through `GasTr`, and
`LawfulGas` states what revm documents of them. Counters are 64-bit words and the
refund counter is a signed one, so the laws are stated with wrapping sums.
-/

namespace ScrollRevm

open FixedWidth

/-- Why a frame stopped. -/
inductive InstructionResult where
  | stop | returned | selfDestruct
  | revert | callTooDeep | outOfFunds
  | outOfGas | notActivated | fatalExternalError | precompileError | stackUnderflow
  deriving DecidableEq, Repr

namespace InstructionResult

def isOk : InstructionResult → Bool
  | stop | returned | selfDestruct => true
  | _ => false

def isOkOrRevert : InstructionResult → Bool
  | stop | returned | selfDestruct | revert | callTooDeep | outOfFunds => true
  | _ => false

end InstructionResult

/-- The gas `R` of a result. -/
class ResultGasTr (R : Type) where
  used : R → U64
  setFloorGas : U64 → R → R

/-- A gas counter `G` from which the gas `R` of a result is built. -/
class GasTr (G : Type) (R : outParam Type) where
  limit : G → U64
  remaining : G → U64
  /-- The refund counter, an `i64`. -/
  refunded : G → I64
  /-- A counter whose limit is spent. -/
  newSpent : U64 → G
  eraseCost : G → U64 → G
  recordRefund : G → I64 → G
  used : G → U64
  /-- `post_execution::refund`. -/
  refund : SpecId → G → I64 → G
  /-- The EIP-7623 floor of the gas used. -/
  eip7623CheckGasFloor : G → InitialAndFloorGas → G
  /-- `post_execution::build_result_gas`. -/
  buildResultGas : G → InitialAndFloorGas → R

namespace GasTr

variable {G R : Type} [GasTr G R]

/-- The limit without the remaining gas. -/
def spent (gas : G) : U64 := limit gas - remaining gas

/-- The refund quotient of a hardfork (EIP-3529). -/
def refundQuotient (spec : SpecId) : U64 := if spec.isEnabledIn .london then 5 else 2

end GasTr

open GasTr in
/-- What revm documents of its gas counter. -/
class LawfulGas (G : Type) {R : Type} [GasTr G R] [ResultGasTr R] : Prop where
  limit_newSpent (n : U64) : limit (newSpent n : G) = n
  remaining_newSpent (n : U64) : remaining (newSpent n : G) = 0
  refunded_newSpent (n : U64) : refunded (newSpent n : G) = 0
  limit_eraseCost (gas : G) (n : U64) : limit (eraseCost gas n) = limit gas
  remaining_eraseCost (gas : G) (n : U64) : remaining (eraseCost gas n) = remaining gas + n
  refunded_eraseCost (gas : G) (n : U64) : refunded (eraseCost gas n) = refunded gas
  limit_recordRefund (gas : G) (n : I64) : limit (recordRefund gas n) = limit gas
  remaining_recordRefund (gas : G) (n : I64) : remaining (recordRefund gas n) = remaining gas
  refunded_recordRefund (gas : G) (n : I64) : refunded (recordRefund gas n) = refunded gas + n
  used_eq (gas : G) : used gas = satSub (spent gas) (refunded gas)
  limit_refund (spec : SpecId) (gas : G) (n : I64) : limit (refund spec gas n) = limit gas
  remaining_refund (spec : SpecId) (gas : G) (n : I64) :
    remaining (refund spec gas n) = remaining gas
  /-- The refund is recorded and then capped by a fraction of the spent gas. -/
  refunded_refund (spec : SpecId) (gas : G) (n : I64) :
    refunded (refund spec gas n) = wordMin (refunded gas + n) (spent gas / refundQuotient spec)
  /-- Gas used below the floor is raised to the floor, without a refund. -/
  eip7623CheckGasFloor_of_lt (gas : G) (i : InitialAndFloorGas) (h : used gas < i.floorGas) :
    limit (eip7623CheckGasFloor gas i) = limit gas ∧
      remaining (eip7623CheckGasFloor gas i) = satSub (limit gas) i.floorGas ∧
      refunded (eip7623CheckGasFloor gas i) = 0
  eip7623CheckGasFloor_of_le (gas : G) (i : InitialAndFloorGas) (h : i.floorGas ≤ used gas) :
    eip7623CheckGasFloor gas i = gas
  used_buildResultGas (gas : G) (i : InitialAndFloorGas) :
    ResultGasTr.used (buildResultGas gas i) =
      if used gas < i.floorGas then i.floorGas else used gas
  /-- A floor set on a result replaces the one it was built with. -/
  used_setFloorGas (gas : G) (i : InitialAndFloorGas) (floor : U64) :
    ResultGasTr.used (ResultGasTr.setFloorGas floor (buildResultGas gas i)) =
      if used gas < floor then floor else used gas

attribute [simp] LawfulGas.limit_newSpent LawfulGas.remaining_newSpent
  LawfulGas.refunded_newSpent LawfulGas.limit_eraseCost LawfulGas.remaining_eraseCost
  LawfulGas.refunded_eraseCost LawfulGas.limit_recordRefund LawfulGas.remaining_recordRefund
  LawfulGas.refunded_recordRefund LawfulGas.limit_refund LawfulGas.remaining_refund

/-- The result of a frame. -/
structure FrameResult (G : Type) where
  result : InstructionResult
  gas : G

/-! ## A counter that obeys the laws -/

/-- The counter as three words. -/
structure ReferenceGas where
  limit : U64
  remaining : U64
  refunded : I64
  deriving DecidableEq, Repr

/-- The gas of a result as the used gas before the floor, and the floor. -/
structure ReferenceResultGas where
  used : U64
  floorGas : U64
  deriving DecidableEq, Repr

namespace ReferenceGas

def spent (gas : ReferenceGas) : U64 := gas.limit - gas.remaining
def used (gas : ReferenceGas) : U64 := satSub gas.spent gas.refunded

instance : ResultGasTr ReferenceResultGas where
  used gas := if gas.used < gas.floorGas then gas.floorGas else gas.used
  setFloorGas floor gas := { gas with floorGas := floor }

instance : GasTr ReferenceGas ReferenceResultGas where
  limit := limit
  remaining := remaining
  refunded := refunded
  newSpent n := ⟨n, 0, 0⟩
  eraseCost gas n := { gas with remaining := gas.remaining + n }
  recordRefund gas n := { gas with refunded := gas.refunded + n }
  used := used
  refund spec gas n :=
    { gas with
      refunded := wordMin (gas.refunded + n) (gas.spent / GasTr.refundQuotient spec) }
  eip7623CheckGasFloor gas i :=
    if gas.used < i.floorGas then
      { gas with remaining := satSub gas.limit i.floorGas, refunded := 0 }
    else gas
  buildResultGas gas i := ⟨gas.used, i.floorGas⟩

instance : LawfulGas ReferenceGas where
  limit_newSpent _ := rfl
  remaining_newSpent _ := rfl
  refunded_newSpent _ := rfl
  limit_eraseCost _ _ := rfl
  remaining_eraseCost _ _ := rfl
  refunded_eraseCost _ _ := rfl
  limit_recordRefund _ _ := rfl
  remaining_recordRefund _ _ := rfl
  refunded_recordRefund _ _ := rfl
  used_eq _ := rfl
  limit_refund _ _ _ := rfl
  remaining_refund _ _ _ := rfl
  refunded_refund _ _ _ := rfl
  eip7623CheckGasFloor_of_lt gas i h := by
    have heq : GasTr.eip7623CheckGasFloor gas i =
        { gas with remaining := satSub gas.limit i.floorGas, refunded := 0 } := if_pos h
    rw [heq]
    exact ⟨rfl, rfl, rfl⟩
  eip7623CheckGasFloor_of_le gas i h := if_neg (BitVec.not_lt.mpr h)
  used_buildResultGas _ _ := rfl
  used_setFloorGas _ _ _ := rfl

end ReferenceGas

end ScrollRevm
