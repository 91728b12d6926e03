import ScrollRevm.Instructions

/-!
# Frames of the interpreter

The interpreter of a call frame: its machine, its code, its memory and the storage that lives
for one transaction. The memory and the transient storage belong to revm; the steps by which
an instruction charges, pops, pushes and halts are those of revm's macros.
-/

namespace ScrollRevm

open FixedWidth StateResult

/-- The memory `M` of a frame, which grows in words of 32 bytes. -/
class MemoryTr (M : Type) where
  /-- The size in words. -/
  words : M → Nat
  /-- The byte at an offset. -/
  byte : M → Nat → U8
  /-- Grows the memory to the given number of words. -/
  resize : Nat → M → M
  /-- Copies to the first offset, from the second one, the given number of bytes. -/
  copy : Nat → Nat → Nat → M → M

open MemoryTr in
/-- What revm documents of its memory. -/
class LawfulMemory (M : Type) [MemoryTr M] : Prop where
  byte_of_le (m : M) {i : Nat} (h : 32 * words m ≤ i) : byte m i = 0
  words_resize (m : M) {n : Nat} (h : words m ≤ n) : words (resize n m) = n
  /-- New bytes are zero. -/
  byte_resize (m : M) {n : Nat} (h : words m ≤ n) (i : Nat) : byte (resize n m) i = byte m i
  words_copy (m : M) (dst src len : Nat) : words (copy dst src len m) = words m
  /-- The source is read before it is overwritten. -/
  byte_copy (m : M) {dst src len : Nat} (hdst : dst + len ≤ 32 * words m)
    (hsrc : src + len ≤ 32 * words m) (i : Nat) :
    byte (copy dst src len m) i =
      if dst ≤ i ∧ i < dst + len then byte m (src + (i - dst)) else byte m i

/-- A journal with storage that lives for one transaction. -/
class TransientStorageTr (J : Type) where
  tload : Address → U256 → J → U256
  tstore : Address → U256 → U256 → J → J

/-- What revm documents of its transient storage: a write is an operation of the journal that
can be undone. -/
class LawfulTransientStorage (J : Type) {ε : Type} [JournalTr J ε] [TransientStorageTr J] :
    Prop where
  tload_eq (j : J) (address : Address) (key : U256) :
    TransientStorageTr.tload address key j = Journal.tload address key (JournalTr.view j)
  view_tstore (j : J) (address : Address) (key value : U256) :
    JournalTr.view (TransientStorageTr.tstore address key value j) =
      Journal.tstore address key value (JournalTr.view j)

instance {ε : Type} : TransientStorageTr (Journal ε) where
  tload := Journal.tload
  tstore := Journal.tstore

instance {ε : Type} : LawfulTransientStorage (Journal ε) where
  tload_eq _ _ _ := rfl
  view_tstore _ _ _ _ := rfl

/-- What one frame runs on. -/
structure Frame (M : Type) where
  bytecode : Bytes
  /-- The program counter. -/
  pc : Nat := 0
  memory : M
  targetAddress : Address
  isStatic : Bool := false
  /-- The checkpoint opened for the frame. -/
  checkpoint : JournalCheckpoint := ⟨0⟩

/-- The interpreter of a frame. -/
structure Interpreter (M J : Type) where
  machine : Machine J
  frame : Frame M

def Interpreter.withMachine {M J : Type} (machine : Machine J) (self : Interpreter M J) :
    Interpreter M J :=
  { self with machine := machine }

/-- Why an interpreter stops: a halt, or a call of a new frame with input `A`. -/
inductive InterpreterAction (A : Type) where
  | halted (result : InstructionResult)
  | stackOverflow
  | stateChangeDuringStaticCall
  | invalidOperandOog
  | memoryOog
  | newFrame (input : A)
  deriving DecidableEq

/-- What stays fixed while frames run: the transaction with its block and configuration, the
hash, and the costs of memory. -/
structure FrameEnv where
  env : Env
  keccak256 : Bytes → U256
  /-- The cost of copying a number of bytes. -/
  mcopyCost : Usize → U64
  /-- The cost of all memory up to a number of words. -/
  memoryCost : Nat → U64

/-- What revm's own instructions can read of it: everything but the Scroll hardfork. -/
structure HostEnv where
  tx : ScrollTransaction
  block : BlockEnv
  chainId : U64
  gasParams : GasParams
  maxInitcodeSize : Usize
  keccak256 : Bytes → U256
  mcopyCost : Usize → U64
  memoryCost : Nat → U64

def FrameEnv.host (self : FrameEnv) : HostEnv where
  tx := self.env.tx
  block := self.env.block
  chainId := self.env.cfg.chainId
  gasParams := self.env.cfg.gasParams
  maxInitcodeSize := self.env.cfg.maxInitcodeSize
  keccak256 := self.keccak256
  mcopyCost := self.mcopyCost
  memoryCost := self.memoryCost

/-- The hardfork under which the frames run. -/
def FrameEnv.spec (self : FrameEnv) : ScrollSpecId := self.env.cfg.spec

/-- The same transaction under another hardfork. -/
def FrameEnv.withSpec (self : FrameEnv) (spec : ScrollSpecId) : FrameEnv :=
  { self with env := { self.env with cfg := { self.env.cfg with spec := spec } } }

/-- What an instruction does to an interpreter. -/
abbrev InterpreterStep (M J A α : Type) := EStateM (InterpreterAction A) (Interpreter M J) α

/-! ## The macros -/

namespace Interpreter

section Macros

variable {M J A α : Type}

/-- A step of the machine. -/
def onMachine (x : Instruction J α) : InterpreterStep M J A α :=
  focus Interpreter.machine Interpreter.withMachine .halted x

/-- `gas!`. -/
def gas (cost : U64) : InterpreterStep M J A Unit := onMachine (recordCost cost)

/-- `popn!` of two values. -/
def popn2 : InterpreterStep M J A (U256 × U256) := fun i =>
  match i.machine.stack with
  | first :: second :: rest =>
    .ok (first, second) (i.withMachine { i.machine with stack := rest })
  | _ => .error (.halted .stackUnderflow) i

/-- `popn!` of three values. -/
def popn3 : InterpreterStep M J A (U256 × U256 × U256) := fun i =>
  match i.machine.stack with
  | first :: second :: third :: rest =>
    .ok (first, second, third) (i.withMachine { i.machine with stack := rest })
  | _ => .error (.halted .stackUnderflow) i

/-- The most values a stack can hold. -/
def stackLimit : Nat := 1024

/-- `push!`. -/
def push (value : U256) : InterpreterStep M J A Unit := fun i =>
  if i.machine.stack.length = stackLimit then .error .stackOverflow i
  else .ok () (i.withMachine { i.machine with stack := value :: i.machine.stack })

/-- `require_non_staticcall!`. -/
def requireNonStaticcall : InterpreterStep M J A Unit := fun i =>
  if i.frame.isStatic then .error .stateChangeDuringStaticCall i else .ok () i

/-- `as_usize_or_fail!`. -/
def asUsizeOrFail (value : U256) : InterpreterStep M J A Usize := fun i =>
  if value.toNat < 2 ^ 64 then .ok (value.setWidth 64) i else .error .invalidOperandOog i

/-- The number of words that hold a number of bytes. -/
def numWords (len : Usize) : Nat := (len.toNat + 31) / 32

/-- `resize_memory!`: pays for the words up to the end of the range and adds them. -/
def resizeMemory [MemoryTr M] (memoryCost : Nat → U64) (offset len : Usize) :
    InterpreterStep M J A Unit := fun i =>
  let newNumWords := numWords (satAdd offset len)
  let numWords := MemoryTr.words i.frame.memory
  if numWords < newNumWords then
    match checkedSub i.machine.gas (memoryCost newNumWords - memoryCost numWords) with
    | some rest =>
      .ok () { machine := { i.machine with gas := rest }
               frame := { i.frame with memory := MemoryTr.resize newNumWords i.frame.memory } }
    | none => .error .memoryOog i
  else .ok () i

/-- Runs only from the given hardfork on. -/
def requireEnabled (fenv : FrameEnv) (spec : ScrollSpecId) : InterpreterStep M J A Unit := fun i =>
  if !fenv.spec.isEnabledIn spec then .error (.halted .notActivated) i else .ok () i

end Macros

end Interpreter

end ScrollRevm
