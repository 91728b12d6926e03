import ScrollRevm.Interpreter.Reference
import ScrollRevm.Precompile.Provider

/-!
# Configuration of an EVM

The hardfork of an EVM is set in its configuration, after it was built as well. Building an EVM
derives its instructions and precompiles from the hardfork; setting another one updates the gas
parameters, and the next transaction updates the precompiles.
-/

namespace ScrollRevm

/-! ## Gas parameters -/

/-- The entries of revm's table of gas parameters that the crate sets, and the others. -/
inductive GasId where
  | txEip7702PerEmptyAccountCost
  | txEip7702AuthRefund
  | txFloorCostPerToken
  | txFloorCostBaseGas
  | other (index : U8)
  deriving DecidableEq, Repr

/-- revm's table of gas parameters. -/
abbrev GasTable := GasId → U64

namespace Eip7702

def perEmptyAccountCost : U64 := 25000
def perAuthBaseCost : U64 := 12500

end Eip7702

/-- The floor cost of a token of calldata. -/
def totalCostFloorPerToken : U64 := 10

namespace GasTable

/-- Sets entries, one after the other. -/
def overrideGas (new : List (GasId × U64)) (self : GasTable) : GasTable :=
  new.foldl (fun table entry => Function.update table entry.1 entry.2) self

/-- The gas parameters of a Scroll hardfork; `newSpec` are revm's for an Ethereum one. -/
def newScrollSpec (newSpec : SpecId → GasTable) (spec : ScrollSpecId) : GasTable :=
  let params := newSpec spec.intoEthSpecId
  let params :=
    if spec.isEnabledIn .euclid then
      params.overrideGas
        [(.txEip7702PerEmptyAccountCost, Eip7702.perEmptyAccountCost),
          (.txEip7702AuthRefund, Eip7702.perEmptyAccountCost - Eip7702.perAuthBaseCost)]
    else params
  if spec.isEnabledIn .feynman then
    params.overrideGas
      [(.txFloorCostPerToken, totalCostFloorPerToken), (.txFloorCostBaseGas, 21000)]
  else params

end GasTable

/-! ## The configuration -/

namespace Eip7825

/-- The most gas of a transaction, 2^24. -/
def txGasLimitCap : U64 := 16777216

end Eip7825

/-- What a hardfork determines of the configuration, and the cap that may be set apart. -/
structure SpecCfg where
  spec : ScrollSpecId
  gasParams : GasTable
  txGasLimitCap : Option U64

namespace SpecCfg

variable (newSpec : SpecId → GasTable)

/-- Sets the hardfork with its gas parameters, and from Tsuki on the cap if there is none. -/
def setScrollSpec (spec : ScrollSpecId) (self : SpecCfg) : SpecCfg where
  spec := spec
  gasParams := .newScrollSpec newSpec spec
  txGasLimitCap :=
    if spec.isEnabledIn .tsuki && self.txGasLimitCap.isNone then some Eip7825.txGasLimitCap
    else self.txGasLimitCap

end SpecCfg

/-! ## The EVM -/

section Evm

variable {M J A D S ε : Type} [MemoryTr M] [JournalTr J ε] [TransientStorageTr J] [Repr ε]
  [PrecompilesTr S] [PrecompilesMapTr D S J]

/-- An EVM: its configuration, what it runs, and the precompiles its journal has warm. -/
structure ScrollEvm (M J A D : Type) where
  cfg : SpecCfg
  instruction : InstructionTable M J A
  precompiles : ScrollPrecompileProvider D
  warmPrecompiles : List Address

/-- What an EVM is built from: revm's gas parameters, instructions and precompiles. -/
structure RevmBase (M J A : Type) where
  newSpec : SpecId → GasTable
  instructions : SpecId → U8 → HostInstruction M J A
  precompiles : RevmPrecompiles

namespace ScrollEvm

variable (base : RevmBase M J A)

/-- Builds an EVM over a new journal. -/
def new (cfg : SpecCfg) : ScrollEvm M J A D where
  cfg := cfg
  instruction := makeScrollInstructionTable base.instructions cfg.spec
  precompiles := .newWithSpec base.precompiles cfg.spec
  warmPrecompiles := []

end ScrollEvm

variable {base : RevmBase M J A} {load : ScrollEvm M J A D → ScrollEvm M J A D}

/-- What revm documents of the step that loads accounts, at the start of a transaction: it
hands the hardfork to the precompiles, and warms them if they changed or none are warm. -/
structure LawfulLoad (base : RevmBase M J A) (load : ScrollEvm M J A D → ScrollEvm M J A D) :
    Prop where
  cfg_eq (evm : ScrollEvm M J A D) : (load evm).cfg = evm.cfg
  instruction_eq (evm : ScrollEvm M J A D) : (load evm).instruction = evm.instruction
  precompiles_eq (evm : ScrollEvm M J A D) :
    (load evm).precompiles = (evm.precompiles.setSpec base.precompiles evm.cfg.spec).2
  warm_of_changed {evm : ScrollEvm M J A D}
    (h : (evm.precompiles.setSpec base.precompiles evm.cfg.spec).1 = true ∨
      evm.warmPrecompiles = []) :
    (load evm).warmPrecompiles = (load evm).precompiles.warmAddresses
  warm_of_unchanged {evm : ScrollEvm M J A D}
    (h : (evm.precompiles.setSpec base.precompiles evm.cfg.spec).1 = false)
    (hwarm : evm.warmPrecompiles ≠ []) : (load evm).warmPrecompiles = evm.warmPrecompiles

/-- What is done with an EVM: its hardfork or its cap is set, or a transaction starts. -/
inductive EvmChange where
  | setScrollSpec (spec : ScrollSpecId)
  | setTxGasLimitCap (cap : Option U64)
  | transact

namespace ScrollEvm

/-- One change of an EVM. -/
def change (base : RevmBase M J A) (load : ScrollEvm M J A D → ScrollEvm M J A D)
    (self : ScrollEvm M J A D) : EvmChange → ScrollEvm M J A D
  | .setScrollSpec spec => { self with cfg := self.cfg.setScrollSpec base.newSpec spec }
  | .setTxGasLimitCap cap => { self with cfg := { self.cfg with txGasLimitCap := cap } }
  | .transact => load self

/-- An EVM whose parts were each derived from a hardfork: the precompiles perhaps from an
earlier one than the rest. -/
structure Coherent (base : RevmBase M J A) (evm : ScrollEvm M J A D) : Prop where
  gasParams_eq : evm.cfg.gasParams = .newScrollSpec base.newSpec evm.cfg.spec
  instruction_eq : evm.instruction = makeScrollInstructionTable base.instructions evm.cfg.spec
  precompiles_eq : evm.precompiles = .newWithSpec base.precompiles evm.precompiles.spec
  warmPrecompiles_eq :
    evm.warmPrecompiles = [] ∨ evm.warmPrecompiles = evm.precompiles.warmAddresses

/-- A transaction starts with the precompiles of its hardfork, all of them warm. -/
theorem Coherent.loaded (hload : LawfulLoad base load) {self : ScrollEvm M J A D}
    (h : Coherent base self) :
    Coherent base (load self) ∧
      (load self).precompiles = .newWithSpec base.precompiles self.cfg.spec ∧
      (load self).warmPrecompiles = (load self).precompiles.warmAddresses := by
  have hprecompiles := hload.precompiles_eq self
  have hset : (self.precompiles.setSpec base.precompiles self.cfg.spec).2 =
      .newWithSpec base.precompiles self.cfg.spec := by
    unfold ScrollPrecompileProvider.setSpec
    split
    · rename_i heq
      rw [heq]
      exact h.precompiles_eq
    · rfl
  have hwarm : (load self).warmPrecompiles = (load self).precompiles.warmAddresses := by
    cases hchanged : (self.precompiles.setSpec base.precompiles self.cfg.spec).1 with
    | true => exact hload.warm_of_changed (Or.inl hchanged)
    | false =>
      by_cases hnone : self.warmPrecompiles = []
      · exact hload.warm_of_changed (Or.inr hnone)
      · -- the precompiles stayed, and they are warm already
        have hsame : (self.precompiles.setSpec base.precompiles self.cfg.spec).2 =
            self.precompiles := by
          unfold ScrollPrecompileProvider.setSpec at hchanged ⊢
          split at hchanged
          · rename_i heq
            rw [if_pos heq]
          · cases hchanged
        rw [hload.warm_of_unchanged hchanged hnone, hprecompiles, hsame]
        exact h.warmPrecompiles_eq.resolve_left hnone
  have hspec : (load self).precompiles = .newWithSpec base.precompiles self.cfg.spec :=
    hprecompiles.trans hset
  refine ⟨⟨?_, ?_, ?_, Or.inr hwarm⟩, hspec, hwarm⟩
  · rw [hload.cfg_eq]
    exact h.gasParams_eq
  · rw [hload.instruction_eq, hload.cfg_eq]
    exact h.instruction_eq
  · rw [hspec]
    rfl

/-- Every change keeps the parts derived. -/
theorem Coherent.change (hload : LawfulLoad base load) {self : ScrollEvm M J A D}
    (h : Coherent base self) (step : EvmChange) : Coherent base (self.change base load step) := by
  cases step with
  | setScrollSpec spec =>
    refine ⟨rfl, ?_, h.precompiles_eq, h.warmPrecompiles_eq⟩
    -- the table was built for another hardfork, but it is the same one
    exact h.instruction_eq.trans (makeScrollInstructionTable_eq base.instructions _ _)
  | setTxGasLimitCap cap =>
    exact ⟨h.gasParams_eq, h.instruction_eq, h.precompiles_eq, h.warmPrecompiles_eq⟩
  | transact => exact (h.loaded hload).1

end ScrollEvm

namespace ScrollEvm

end ScrollEvm

end Evm

/-- The reference handler warms the precompiles that the provider of its hardfork has. -/
theorem ReferenceMainnet.mem_precompileAddresses {D S J ε : Type} [PrecompilesTr S]
    [PrecompilesMapTr D S J] [LawfulPrecompilesTr S] [LawfulPrecompilesMapTr D] [JournalTr J ε]
    [Repr ε] {base : RevmPrecompiles} (hbase : LawfulPrecompiles base) (spec : ScrollSpecId)
    (address : Address) :
    address ∈ precompileAddresses spec ↔
      address ∈ (ScrollPrecompileProvider.newWithSpec (D := D) base spec).warmAddresses := by
  have haddresses : precompileAddresses spec =
      (if spec.isEnabledIn .tsuki then [Addresses.transfer] else []) ++
        (if spec.isEnabledIn .euclid then [Addresses.p256verify] else []) ++ genesisAddresses := rfl
  rw [ScrollPrecompileProvider.mem_warmAddresses hbase, haddresses, List.mem_append,
    List.mem_append, or_comm, or_comm (a := address ∈ ite _ _ _)]
  cases spec.isEnabledIn .tsuki <;> cases spec.isEnabledIn .euclid <;> simp

namespace ReferenceEvm

open ReferenceFrames (Host)
open ReferencePrecompiles (PrecompilesMap)

/-- The reference instructions and precompiles, and gas parameters of zero. -/
def base : RevmBase ReferenceMemory Host Unit where
  newSpec _ _ := 0
  instructions := ReferenceFrames.instructions
  precompiles := ReferencePrecompiles.base

/-- The step that loads accounts, on the parts that depend on the hardfork. -/
def loadAccounts (evm : ScrollEvm ReferenceMemory Host Unit (PrecompilesMap Host)) :
    ScrollEvm ReferenceMemory Host Unit (PrecompilesMap Host) :=
  let set := evm.precompiles.setSpec base.precompiles evm.cfg.spec
  { evm with
    precompiles := set.2
    warmPrecompiles :=
      if set.1 = true ∨ evm.warmPrecompiles = [] then set.2.warmAddresses
      else evm.warmPrecompiles }

theorem lawful : LawfulLoad base loadAccounts where
  cfg_eq _ := rfl
  instruction_eq _ := rfl
  precompiles_eq _ := rfl
  warm_of_changed h := if_pos h
  warm_of_unchanged h hwarm := by
    refine if_neg ?_
    rintro (hchanged | hnone)
    · exact Bool.false_ne_true (h.symm.trans hchanged)
    · exact hwarm hnone

end ReferenceEvm

end ScrollRevm
