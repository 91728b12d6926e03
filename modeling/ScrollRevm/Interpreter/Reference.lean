import ScrollRevm.Interpreter.Table
import ScrollRevm.Revm.Reference

/-!
# Reference frames

A memory that obeys what revm documents of it, and a small set of revm's instructions with its
handling of calls: `STOP`, `PUSH1` and a `STATICCALL` of one fixed callee.
-/

namespace ScrollRevm

open FixedWidth StateResult Interpreter

/-! ## Memory -/

/-- The bytes of a memory, zero beyond its words. -/
structure ReferenceMemory where
  words : Nat
  byte : Nat → U8
  byte_of_le : ∀ i, 32 * words ≤ i → byte i = 0

namespace ReferenceMemory

def empty : ReferenceMemory := ⟨0, fun _ => 0, fun _ _ => rfl⟩

/-- Grows the memory; a memory that is larger stays. -/
def resize (n : Nat) (self : ReferenceMemory) : ReferenceMemory where
  words := max self.words n
  byte := self.byte
  byte_of_le i h := self.byte_of_le i (by omega)

/-- Copies a range of the memory to another one. -/
def copy (dst src len : Nat) (self : ReferenceMemory) : ReferenceMemory where
  words := self.words
  byte i :=
    if i < 32 * self.words ∧ dst ≤ i ∧ i < dst + len then self.byte (src + (i - dst))
    else self.byte i
  byte_of_le i h := by
    rw [if_neg (by omega)]
    exact self.byte_of_le i h

instance : MemoryTr ReferenceMemory where
  words := words
  byte := byte
  resize := resize
  copy := copy

instance : LawfulMemory ReferenceMemory where
  byte_of_le m {i} h := m.byte_of_le i h
  words_resize m {_} h := Nat.max_eq_right h
  byte_resize _ {_} _ _ := rfl
  words_copy _ _ _ _ := rfl
  byte_copy m {dst src len} hdst _ i := by
    change (if i < 32 * m.words ∧ dst ≤ i ∧ i < dst + len then _ else _) = _
    have hwords : dst + len ≤ 32 * m.words := hdst
    refine if_congr ⟨fun h => h.2, fun h => ⟨by omega, h⟩⟩ rfl rfl

end ReferenceMemory

/-! ## Instructions and calls -/

namespace ReferenceFrames

/-- The host of the reference frames. -/
abbrev Host := Journal Unit

abbrev Step := InterpreterStep ReferenceMemory Host Unit Unit

def stopCode : U8 := 0x00
def push1 : U8 := 0x60
def staticcall : U8 := 0xfa

/-- `PUSH1`. -/
def pushByte : Step := do
  let byte := (← get).opcode
  modify Interpreter.advance
  push (byte.setWidth 256)

/-- revm's instructions; every other opcode is not activated. -/
def instructions (_ : SpecId) (opcode : U8) : HostInstruction ReferenceMemory Host Unit :=
  if opcode = Opcode.stop then ⟨0, fun _ i => .error (.halted .stop) i⟩
  else if opcode = push1 then ⟨3, fun _ => pushByte⟩
  else if opcode = staticcall then ⟨100, fun _ i => .error (.newFrame ()) i⟩
  else ⟨0, fun _ i => .error (.halted .notActivated) i⟩

/-- The callee stores 1 at the key 2 of the transient storage. -/
def calleeCode : Bytes := [push1, 1, push1, 2, Opcode.tstore]

/-- Opens a checkpoint for the frame of the callee. -/
def enter (i : Interpreter ReferenceMemory Host) : Interpreter ReferenceMemory Host where
  machine := ⟨[], i.machine.gas, exitState (JournalTr.checkpoint.run i.machine.host)⟩
  frame :=
    { bytecode := calleeCode
      memory := .empty
      targetAddress := i.frame.targetAddress
      isStatic := true
      checkpoint := ⟨i.machine.host.inner.journal.length⟩ }

/-- Commits or reverts the frame of the callee, and pushes whether it succeeded. -/
def leave (caller : Interpreter ReferenceMemory Host) (action : InterpreterAction Unit)
    (callee : Interpreter ReferenceMemory Host) : Interpreter ReferenceMemory Host :=
  let succeeded := decide (action = .halted .stop)
  let host :=
    if succeeded then exitState (JournalTr.checkpointCommit.run callee.machine.host)
    else exitState ((JournalTr.checkpointRevert callee.frame.checkpoint).run callee.machine.host)
  { machine :=
      ⟨(if succeeded then 1 else 0) :: caller.machine.stack, callee.machine.gas, host⟩
    frame := caller.frame }

def handler : FrameHandler ReferenceMemory Host Unit Unit where
  frameInit _ _ _ i := .inr (enter i)
  frameReturnResult _ caller action callee := leave caller action callee

/-- A transaction that runs frames under the given hardfork. -/
def frameEnv (spec : ScrollSpecId) : FrameEnv where
  env := ReferenceMainnet.sampleEnv spec (.call 5) 0
  keccak256 _ := 0
  mcopyCost len := 3 * BitVec.ofNat 64 (numWords len)
  memoryCost words := clamp 64 (3 * words + words * words / 512)

/-- A frame with the given code and 100000 gas. -/
def interpreter (bytecode : Bytes) : Interpreter ReferenceMemory Host where
  machine := ⟨[], 100000, ReferenceMainnet.sampleJournal 1000000⟩
  frame := { bytecode, memory := .empty, targetAddress := 5 }

end ReferenceFrames

end ScrollRevm
