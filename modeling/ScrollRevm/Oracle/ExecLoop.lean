import ScrollRevm.Interpreter.Funds
import ScrollRevm.Oracle.Steps
import ScrollRevm.Precompile.Calls
import ScrollRevm.Session.Transactions

/-!
# The frames of the crate

The handler takes two laws of the frames that it runs: they write oracle storage with the
operations of the journal, and they do to the funds what frames do. Both hold of the frames of
the interpreter under the Scroll table, where the precompiles of the crate answer calls, by what
revm documents of its own instructions and calls.
-/

namespace ScrollRevm

open FixedWidth StateResult Interpreter

/-! ## The transfer precompile -/

namespace TransferPrecompile

variable {J ε : Type} [JournalTr J ε] [LawfulJournal J] [Repr ε]

end TransferPrecompile

/-! ## Calls that a precompile answers -/

section Answers

variable {M D S J ε : Type} [PrecompilesMapTr D S J] [JournalTr J ε]

variable [TransientStorageTr J] {R R' : Reach J} {provider : ScrollPrecompileProvider D}
  {i caller : Interpreter M J}

end Answers

section Precompiles

variable {D S J ε : Type} [PrecompilesTr S] [PrecompilesMapTr D S J] [LawfulPrecompilesTr S]
  [LawfulPrecompilesMapTr D] [JournalTr J ε] [LawfulJournal J] [Repr ε] {base : RevmPrecompiles}

end Precompiles

/-! ## Oracle storage -/

section Storage

variable {J ε : Type} [JournalTr J ε]

/-- One host is reached from the other by operations of frames on storage. -/
def StorageReach : Reach J := fun opened opened' j j' =>
  ∃ ops, FrameRun ops (JournalTr.view j, opened) (JournalTr.view j', opened')

theorem StorageReach.trans {opened opened' opened'' : List JournalCheckpoint} {j j' j'' : J}
    (h : StorageReach opened opened' j j') (h' : StorageReach opened' opened'' j' j'') :
    StorageReach opened opened'' j j'' := by
  obtain ⟨ops, hrun⟩ := h
  obtain ⟨ops', hrun'⟩ := h'
  exact ⟨ops ++ ops', hrun.append hrun'⟩

theorem StorageReach.of_quiet {j j' : J}
    (h : Journal.Quiet l1GasPriceOracleAddress (JournalTr.view j) (JournalTr.view j'))
    (opened : List JournalCheckpoint) : StorageReach opened opened j j' :=
  ⟨[.access], .cons (.access h) (.nil _)⟩

/-- A lawful host is accessed where its journal is. -/
theorem StorageReach.of_simulates {ε' α : Type} {x : EStateM ε' J α}
    {y : EStateM ε' (Journal ε) α} (hx : Simulates JournalTr.view x y)
    (hy : Journal.IsQuiet l1GasPriceOracleAddress y) (opened : List JournalCheckpoint) :
    Exits (StorageReach opened opened) x := by
  intro j
  refine .of_quiet ?_ opened
  rw [hx.exitState_eq j]
  exact hy (JournalTr.view j)

end Storage

/-! ## Runs -/

section Runs

variable {M D S J A ε : Type} [MemoryTr M] [JournalTr J ε] [Repr ε] [TransientStorageTr J]
  [LawfulJournal J] [LawfulTransientStorage J] [PrecompilesTr S] [PrecompilesMapTr D S J]
  [LawfulPrecompilesTr S] [LawfulPrecompilesMapTr D]

variable {precompiles : RevmPrecompiles} {base : SpecId → U8 → HostInstruction M J A}
  {handler : FrameHandler M J A (ScrollPrecompileProvider D)}
  {provider : ScrollPrecompileProvider D} {fenv : FrameEnv}

end Runs

/-! ## A sample -/

namespace ReferenceFrames

open ReferencePrecompiles (PrecompilesMap)

def call : U8 := 0xf1

def succeeded : EStateM.Result PrecompileError Host (Option PrecompileOutput) → Bool
  | .ok (some output) _ => !output.reverted
  | _ => false

end ReferenceFrames

end ScrollRevm
