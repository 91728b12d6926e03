import ScrollRevm.Interpreter.Frame

/-!
# The instruction table

The instructions that the crate overrides, the table it builds over revm's own one, and the
runs of frames under that table. revm's instructions and its handling of calls are parameters
that cannot read the Scroll hardfork.
-/

namespace ScrollRevm

open FixedWidth StateResult Interpreter

/-! ## The overridden instructions -/

section Instructions

variable {M J A ε : Type} [MemoryTr M] [JournalTr J ε] [TransientStorageTr J] (fenv : FrameEnv)

/-- The difficulty of every block. -/
def blockDifficulty : U256 := 0

/-- `SELFDESTRUCT` is disabled. -/
def selfdestruct : InterpreterStep M J A Unit := fun i => .error (.halted .notActivated) i

/-- `BASEFEE`, from Curie on. -/
def basefee : InterpreterStep M J A Unit := do
  requireEnabled fenv .curie
  push (fenv.env.block.basefee.setWidth 256)

/-- `TSTORE`, from Curie on. -/
def tstore : InterpreterStep M J A Unit := do
  requireEnabled fenv .curie
  requireNonStaticcall
  let (index, value) ← popn2
  modify fun i => i.withMachine { i.machine with
    host := TransientStorageTr.tstore i.frame.targetAddress index value i.machine.host }

/-- `TLOAD`, from Curie on. -/
def tload : InterpreterStep M J A Unit := do
  requireEnabled fenv .curie
  let index ← onMachine top
  let i ← get
  onMachine (setTop (TransientStorageTr.tload i.frame.targetAddress index i.machine.host))

/-- `MCOPY`, from Curie on. Copying nothing does not look at the offsets. -/
def mcopy : InterpreterStep M J A Unit := do
  requireEnabled fenv .curie
  let (dst, src, len) ← popn3
  let len ← asUsizeOrFail len
  gas (fenv.mcopyCost len)
  if len = 0 then return
  let dst ← asUsizeOrFail dst
  let src ← asUsizeOrFail src
  resizeMemory fenv.memoryCost (if dst < src then src else dst) len
  modify fun i => { i with frame := { i.frame with
    memory := MemoryTr.copy dst.toNat src.toNat len.toNat i.frame.memory } }

/-- `DIFFICULTY`. -/
def difficulty : InterpreterStep M J A Unit := push blockDifficulty

/-- `CLZ`, from Galileo on. -/
def clz : InterpreterStep M J A Unit := do
  requireEnabled fenv .galileo
  let op1 ← onMachine top
  onMachine (setTop op1.clz)

end Instructions

/-! ## The table -/

/-- An instruction with the gas charged before it runs. -/
structure TableEntry (M J A : Type) where
  staticGas : U64
  execute : FrameEnv → InterpreterStep M J A Unit

/-- One entry for each opcode. -/
abbrev InstructionTable (M J A : Type) := U8 → TableEntry M J A

/-- An instruction of revm. -/
structure HostInstruction (M J A : Type) where
  staticGas : U64
  execute : HostEnv → InterpreterStep M J A Unit

/-- An instruction of revm in the table. -/
def HostInstruction.entry {M J A : Type} (self : HostInstruction M J A) : TableEntry M J A where
  staticGas := self.staticGas
  execute fenv := self.execute fenv.host

namespace Opcode

def stop : U8 := 0x00
def clz : U8 := 0x1e
def blockhash : U8 := 0x40
def difficulty : U8 := 0x44
def basefee : U8 := 0x48
def tload : U8 := 0x5c
def tstore : U8 := 0x5d
def mcopy : U8 := 0x5e
def selfdestruct : U8 := 0xff

end Opcode

section Table

variable {M J A ε : Type} [MemoryTr M] [JournalTr J ε] [TransientStorageTr J]

/-- The table of a Scroll hardfork; `base` is revm's table of an Ethereum hardfork. -/
def makeScrollInstructionTable (base : SpecId → U8 → HostInstruction M J A)
    (spec : ScrollSpecId) : InstructionTable M J A := fun opcode =>
  if opcode = Opcode.blockhash then
    ⟨20, fun fenv => onMachine (blockhash fenv.keccak256 fenv.env)⟩
  else if opcode = Opcode.basefee then ⟨2, basefee⟩
  else if opcode = Opcode.tstore then ⟨100, tstore⟩
  else if opcode = Opcode.tload then ⟨100, tload⟩
  else if opcode = Opcode.selfdestruct then ⟨0, fun _ => selfdestruct⟩
  else if opcode = Opcode.mcopy then ⟨3, mcopy⟩
  else if opcode = Opcode.difficulty then ⟨2, fun _ => difficulty⟩
  else if opcode = Opcode.clz then ⟨5, clz⟩
  else (base spec.intoEthSpecId opcode).entry

/-- The opcodes the crate overrides. -/
def overridden : List U8 :=
  [Opcode.blockhash, Opcode.basefee, Opcode.tstore, Opcode.tload, Opcode.selfdestruct,
    Opcode.mcopy, Opcode.difficulty, Opcode.clz]

/-- Every opcode is overridden or is revm's. -/
theorem makeScrollInstructionTable_of_not_mem {base : SpecId → U8 → HostInstruction M J A}
    {spec : ScrollSpecId} {opcode : U8} (h : opcode ∉ overridden) :
    makeScrollInstructionTable base spec opcode = (base .shanghai opcode).entry := by
  simp only [overridden, List.mem_cons, List.not_mem_nil, not_or] at h
  obtain ⟨h₁, h₂, h₃, h₄, h₅, h₆, h₇, h₈, -⟩ := h
  unfold makeScrollInstructionTable
  simp only [h₁, h₂, h₃, h₄, h₅, h₆, h₇, h₈, if_false, ScrollSpecId.intoEthSpecId_eq]

/-- The tables of all hardforks are the same: what differs is checked as an instruction runs. -/
theorem makeScrollInstructionTable_eq (base : SpecId → U8 → HostInstruction M J A)
    (spec spec' : ScrollSpecId) :
    makeScrollInstructionTable base spec = makeScrollInstructionTable base spec' := by
  unfold makeScrollInstructionTable
  simp only [ScrollSpecId.intoEthSpecId_eq]

end Table

/-! ## Runs -/

section Runs

variable {M J A : Type}

/-- The opcode at the program counter; the code is padded with `STOP`. -/
def Interpreter.opcode (self : Interpreter M J) : U8 :=
  self.frame.bytecode.getD self.frame.pc Opcode.stop

/-- `relative_jump` by one byte. -/
def Interpreter.advance (self : Interpreter M J) : Interpreter M J :=
  { self with frame := { self.frame with pc := self.frame.pc + 1 } }

/-- One step: the instruction at the program counter, after its static gas. -/
def Interpreter.step (table : InstructionTable M J A) (fenv : FrameEnv) :
    InterpreterStep M J A Unit := do
  let opcode := (← get).opcode
  modify Interpreter.advance
  gas (table opcode).staticGas
  (table opcode).execute fenv

/-- The step of a frame that calls a new one with the given input. -/
def CallsFrame (table : InstructionTable M J A) (fenv : FrameEnv) (i : Interpreter M J)
    (input : A) (i' : Interpreter M J) : Prop :=
  (Interpreter.step table fenv).run i = .error (.newFrame input) i'

/-- How revm enters the frame of a call and returns from it; `P` are the precompiles. -/
structure FrameHandler (M J A P : Type) where
  /-- `frame_init`: the frame of the callee, or the caller if the call is answered at once. -/
  frameInit : HostEnv → P → A → Interpreter M J → Interpreter M J ⊕ Interpreter M J
  /-- `frame_return_result`: the caller with the result of the callee. -/
  frameReturnResult : HostEnv → Interpreter M J → InterpreterAction A → Interpreter M J →
    Interpreter M J

/-- What an inspector sees of a run. -/
inductive TraceEvent (A : Type) where
  | executed (opcode : U8)
  /-- A frame stopped at an instruction. -/
  | exited (opcode : U8) (action : InterpreterAction A)
  deriving DecidableEq

variable {P : Type}

/-- `run_plain` with the frames that it calls, for as long as the fuel lasts: what was seen, the
last action and the interpreter it left. -/
def Interpreter.runFrames (table : InstructionTable M J A) (handler : FrameHandler M J A P)
    (precompiles : P) (fenv : FrameEnv) :
    Nat → Interpreter M J → Option (List (TraceEvent A) × InterpreterAction A × Interpreter M J)
  | 0, _ => none
  | fuel + 1, i =>
    let seen := TraceEvent.executed i.opcode
    match (step table fenv).run i with
    | .ok () i' =>
      (runFrames table handler precompiles fenv fuel i').map fun (trace, last) =>
        (seen :: trace, last)
    | .error (.newFrame input) i' =>
      match handler.frameInit fenv.host precompiles input i' with
      | .inl caller =>
        (runFrames table handler precompiles fenv fuel caller).map fun (trace, last) =>
          (seen :: trace, last)
      | .inr callee =>
        match runFrames table handler precompiles fenv fuel callee with
        | none => none
        | some (called, action, callee') =>
          (runFrames table handler precompiles fenv fuel
            (handler.frameReturnResult fenv.host i' action callee')).map fun (trace, last) =>
              (seen :: called ++ trace, last)
    | .error action i' => some ([seen, .exited i.opcode action], action, i')

/-- The ways in which a run ends: its first step halts; it goes on after the step; it goes on
after a call that is answered at once; or it goes on after the run of a callee. -/
inductive RunCases (table : InstructionTable M J A) (handler : FrameHandler M J A P)
    (precompiles : P) (fenv : FrameEnv) (fuel : Nat) (i : Interpreter M J) :
    List (TraceEvent A) → InterpreterAction A → Interpreter M J → Prop
  | halted {action : InterpreterAction A} {i' : Interpreter M J}
      (hstep : (Interpreter.step table fenv).run i = .error action i')
      (hhalts : ∀ input, action ≠ .newFrame input) :
    RunCases table handler precompiles fenv fuel i
      [.executed i.opcode, .exited i.opcode action] action i'
  | stepped {i' i'' : Interpreter M J} {trace : List (TraceEvent A)}
      {action : InterpreterAction A}
      (hstep : (Interpreter.step table fenv).run i = .ok () i')
      (hrest : i'.runFrames table handler precompiles fenv fuel = some (trace, action, i'')) :
    RunCases table handler precompiles fenv fuel i (.executed i.opcode :: trace) action i''
  | answered {i' caller i'' : Interpreter M J} {input : A} {trace : List (TraceEvent A)}
      {action : InterpreterAction A}
      (hstep : (Interpreter.step table fenv).run i = .error (.newFrame input) i')
      (hinit : handler.frameInit fenv.host precompiles input i' = .inl caller)
      (hrest : caller.runFrames table handler precompiles fenv fuel = some (trace, action, i'')) :
    RunCases table handler precompiles fenv fuel i (.executed i.opcode :: trace) action i''
  | called {i' callee callee' i'' : Interpreter M J} {input : A}
      {called trace : List (TraceEvent A)} {result action : InterpreterAction A}
      (hstep : (Interpreter.step table fenv).run i = .error (.newFrame input) i')
      (hinit : handler.frameInit fenv.host precompiles input i' = .inr callee)
      (hcallee : callee.runFrames table handler precompiles fenv fuel =
        some (called, result, callee'))
      (hrest : (handler.frameReturnResult fenv.host i' result callee').runFrames table handler
        precompiles fenv fuel = some (trace, action, i'')) :
    RunCases table handler precompiles fenv fuel i (.executed i.opcode :: called ++ trace) action
      i''

variable {table : InstructionTable M J A} {handler : FrameHandler M J A P} {precompiles : P}
  {fenv : FrameEnv} {fuel : Nat} {i i' : Interpreter M J} {trace : List (TraceEvent A)}
  {action : InterpreterAction A}

/-- A run ends in one of these ways. -/
theorem Interpreter.runFrames_succ :
    i.runFrames table handler precompiles fenv (fuel + 1) = some (trace, action, i') ↔
      RunCases table handler precompiles fenv fuel i trace action i' := by
  constructor
  · intro h
    unfold runFrames at h
    dsimp only at h
    split at h
    · rename_i hstep
      obtain ⟨⟨trace', action', j⟩, hrest, heq⟩ := Option.map_eq_some_iff.mp h
      cases heq
      exact .stepped hstep hrest
    · rename_i hstep
      split at h
      · rename_i hinit
        obtain ⟨⟨trace', action', j⟩, hrest, heq⟩ := Option.map_eq_some_iff.mp h
        cases heq
        exact .answered hstep hinit hrest
      · rename_i hinit
        split at h
        · cases h
        · rename_i hcallee
          obtain ⟨⟨trace', action', j⟩, hrest, heq⟩ := Option.map_eq_some_iff.mp h
          cases heq
          exact .called hstep hinit hcallee hrest
    · rename_i hhalts hstep
      cases h
      exact .halted hstep fun input heq => hhalts input heq
  · intro h
    unfold runFrames
    cases h with
    | halted hstep hhalts =>
      simp only [hstep]
    | stepped hstep hrest => simp only [hstep, hrest, Option.map_some]
    | answered hstep hinit hrest => simp only [hstep, hinit, hrest, Option.map_some]
    | called hstep hinit hcallee hrest =>
      simp only [hstep, hinit, hcallee, hrest, Option.map_some]

end Runs

end ScrollRevm
