import ScrollRevm.Journal.Logging
import ScrollRevm.Revm.Mainnet

/-!
# What a transaction does to the oracle storage

Only the frames of a transaction write storage. Their operations on the journal are an
undo log of the oracle storage, so what they leave of it are the writes of the frames that
were not reverted.
-/

namespace ScrollRevm

open FixedWidth StateResult

variable {ε : Type}

theorem oracle_ne_precompile3 : l1GasPriceOracleAddress ≠ precompile3 := by decide

/-- An operation of a frame on the journal, as it concerns storage. -/
inductive FrameOp where
  /-- An access, or a change of anything but storage. -/
  | access
  | sstore (address : Address) (key value : U256)
  | checkpoint
  | checkpointCommit
  | checkpointRevert

/-- One operation on the journal and the open checkpoints, the last one first. -/
inductive FrameStep : FrameOp → Journal ε × List JournalCheckpoint →
    Journal ε × List JournalCheckpoint → Prop
  | access {s t : Journal ε} {checkpoints : List JournalCheckpoint}
      (h : Journal.Quiet l1GasPriceOracleAddress s t) :
    FrameStep .access (s, checkpoints) (t, checkpoints)
  | sstore {s t : Journal ε} {checkpoints : List JournalCheckpoint} {address : Address}
      {key value : U256} {skipColdLoad : Bool} {load : StateLoad U256}
      (h : (Journal.sstore address key value skipColdLoad).run s = .ok load t) :
    FrameStep (.sstore address key value) (s, checkpoints) (t, checkpoints)
  | checkpoint {s t : Journal ε} {checkpoints : List JournalCheckpoint}
      {opened : JournalCheckpoint} (h : Journal.checkpoint.run s = .ok opened t) :
    FrameStep .checkpoint (s, checkpoints) (t, opened :: checkpoints)
  | checkpointCommit {s t : Journal ε} {checkpoints : List JournalCheckpoint}
      {opened : JournalCheckpoint} (h : Journal.checkpointCommit.run s = .ok () t) :
    FrameStep .checkpointCommit (s, opened :: checkpoints) (t, checkpoints)
  | checkpointRevert {s t : Journal ε} {checkpoints : List JournalCheckpoint}
      {opened : JournalCheckpoint} (h : (Journal.checkpointRevert opened).run s = .ok () t) :
    FrameStep .checkpointRevert (s, opened :: checkpoints) (t, checkpoints)

/-- A sequence of operations. -/
inductive FrameRun : List FrameOp → Journal ε × List JournalCheckpoint →
    Journal ε × List JournalCheckpoint → Prop
  | nil (s : Journal ε × List JournalCheckpoint) : FrameRun [] s s
  | cons {op : FrameOp} {ops : List FrameOp} {s t u : Journal ε × List JournalCheckpoint}
      (h : FrameStep op s t) (rest : FrameRun ops t u) : FrameRun (op :: ops) s u

theorem FrameRun.append {ops ops' : List FrameOp} {s t u : Journal ε × List JournalCheckpoint}
    (h : FrameRun ops s t) (h' : FrameRun ops' t u) : FrameRun (ops ++ ops') s u := by
  induction h with
  | nil s => exact h'
  | cons hstep _ ih => exact .cons hstep (ih h')

/-! ## The oracle storage they leave -/

/-- What an operation does to the oracle storage. -/
def FrameOp.event : FrameOp → UndoLog.Event (U256 → U256)
  | access => .change id
  | sstore address key value =>
    .change fun storage =>
      if address = l1GasPriceOracleAddress then Function.update storage key value else storage
  | checkpoint => .opened
  | checkpointCommit => .committed
  | checkpointRevert => .reverted

/-- The oracle storage after the operations of frames: that of before, with the writes of the
frames that were not reverted. -/
def storageAfter (ops : List FrameOp) (storage : U256 → U256) : U256 → U256 :=
  (UndoLog.Snapshots.run (ops.map FrameOp.event) (storage, [])).1

/-- The journal as an undo log of the oracle storage. -/
abbrev oracleLog : UndoLog (Journal ε) (U256 → U256) :=
  Journal.undoLog l1GasPriceOracleAddress oracle_ne_precompile3

/-- An operation of a frame is one of the log. -/
theorem FrameStep.step {op : FrameOp} {s t : Journal ε × List JournalCheckpoint}
    (h : FrameStep op s t) :
    oracleLog.Step op.event (s.1, s.2.map JournalCheckpoint.journalI)
      (t.1, t.2.map JournalCheckpoint.journalI) := by
  cases h with
  | access h => exact .change h.toLogged h.storageAt_eq
  | sstore h =>
    obtain ⟨hlogged, hvalue⟩ := Journal.sstore_ok h
    exact .change hlogged hvalue
  | @checkpoint s _ _ _ h =>
    cases h
    have hquiet := Journal.quiet_depth l1GasPriceOracleAddress s (s.inner.depth + 1)
    exact .opened hquiet.toLogged hquiet.storageAt_eq
  | @checkpointCommit s _ _ _ h =>
    cases h
    have hquiet := Journal.quiet_depth l1GasPriceOracleAddress s (s.inner.depth - 1)
    exact .committed hquiet.toLogged hquiet.storageAt_eq
  | checkpointRevert h =>
    cases h
    exact .reverted

theorem FrameRun.run {ops : List FrameOp} {s t : Journal ε × List JournalCheckpoint}
    (h : FrameRun ops s t) :
    oracleLog.Run (ops.map FrameOp.event) (s.1, s.2.map JournalCheckpoint.journalI)
      (t.1, t.2.map JournalCheckpoint.journalI) := by
  induction h with
  | nil s => exact .nil _
  | cons h _ ih => exact .cons h.step ih

/-- The operations of frames are logged and leave the oracle storage that is due. -/
theorem FrameRun.storageAt {ops : List FrameOp} {s t : Journal ε}
    {checkpoints : List JournalCheckpoint} (h : FrameRun ops (s, []) (t, checkpoints)) :
    t.storageAt l1GasPriceOracleAddress =
        storageAfter ops (s.storageAt l1GasPriceOracleAddress) ∧
      Journal.Logged l1GasPriceOracleAddress s t := by
  obtain ⟨hvalue, hlogged⟩ := h.run.snapshots (.base (oracleLog.refl s))
  exact ⟨hvalue.symm, hlogged⟩

end ScrollRevm
