import ScrollRevm.History.Effects
import ScrollRevm.Interpreter.Table

/-!
# What frames do to the host

Of the overridden instructions only `TSTORE` and `BLOCKHASH` act on the host. A relation that
holds whenever the host stays, that these two and revm's own instructions keep and that
carries over calls, holds of whole runs of frames.
-/

namespace ScrollRevm

open FixedWidth StateResult Interpreter

/-- The second interpreter is the same frame on the same host. -/
structure Local {M J : Type} (i i' : Interpreter M J) : Prop where
  host_eq : i'.machine.host = i.machine.host
  targetAddress_eq : i'.frame.targetAddress = i.frame.targetAddress
  isStatic_eq : i'.frame.isStatic = i.frame.isStatic
  checkpoint_eq : i'.frame.checkpoint = i.frame.checkpoint

namespace Local

variable {M J A α β : Type} {i i' i'' : Interpreter M J}

theorem refl (i : Interpreter M J) : Local i i := ⟨rfl, rfl, rfl, rfl⟩

theorem trans (h : Local i i') (h' : Local i' i'') : Local i i'' :=
  ⟨h'.host_eq.trans h.host_eq, h'.targetAddress_eq.trans h.targetAddress_eq,
    h'.isStatic_eq.trans h.isStatic_eq, h'.checkpoint_eq.trans h.checkpoint_eq⟩

theorem bind {x : InterpreterStep M J A α} {f : α → InterpreterStep M J A β}
    (hx : Exits Local x) (hf : ∀ a, Exits Local (f a)) : Exits Local (x >>= f) :=
  Exits.bind (fun _ _ _ h h' => h.trans h') hx hf

/-! ## The macros -/

/-- A step of the machine that leaves its host. -/
theorem onMachine {x : Instruction J α} (h : Exits (fun m m' => m'.host = m.host) x) :
    Exits Local (Interpreter.onMachine x : InterpreterStep M J A α) := by
  intro i
  have hx := h i.machine
  unfold Interpreter.onMachine
  rw [run_focus]
  cases hrun : x.run i.machine with
  | ok a m => exact ⟨h.ok hrun, rfl, rfl, rfl⟩
  | error e m => exact ⟨h.error hrun, rfl, rfl, rfl⟩

theorem gas (cost : U64) : Exits Local (gas cost : InterpreterStep M J A Unit) := by
  refine onMachine fun m => ?_
  change (exitState (recordCost cost m)).host = m.host
  unfold recordCost
  split <;> rfl

theorem top : Exits Local (Interpreter.onMachine top : InterpreterStep M J A U256) := by
  refine onMachine fun m => ?_
  change (exitState (ScrollRevm.top m)).host = m.host
  unfold ScrollRevm.top
  split <;> rfl

theorem setTop (value : U256) :
    Exits Local (Interpreter.onMachine (setTop value) : InterpreterStep M J A Unit) :=
  onMachine fun _ => rfl

theorem popn2 : Exits Local (popn2 : InterpreterStep M J A (U256 × U256)) := by
  intro i
  change Local i (exitState (Interpreter.popn2 i))
  unfold Interpreter.popn2
  split <;> exact ⟨rfl, rfl, rfl, rfl⟩

theorem popn3 : Exits Local (popn3 : InterpreterStep M J A (U256 × U256 × U256)) := by
  intro i
  change Local i (exitState (Interpreter.popn3 i))
  unfold Interpreter.popn3
  split <;> exact ⟨rfl, rfl, rfl, rfl⟩

theorem push (value : U256) : Exits Local (push value : InterpreterStep M J A Unit) := by
  intro i
  change Local i (exitState (Interpreter.push value i))
  unfold Interpreter.push
  split <;> exact ⟨rfl, rfl, rfl, rfl⟩

theorem asUsizeOrFail (value : U256) :
    Exits Local (asUsizeOrFail value : InterpreterStep M J A Usize) := by
  intro i
  change Local i (exitState (Interpreter.asUsizeOrFail value i))
  unfold Interpreter.asUsizeOrFail
  split <;> exact .refl i

theorem requireNonStaticcall :
    Exits Local (requireNonStaticcall : InterpreterStep M J A Unit) := by
  intro i
  change Local i (exitState (Interpreter.requireNonStaticcall i))
  unfold Interpreter.requireNonStaticcall
  split <;> exact .refl i

theorem requireEnabled (fenv : FrameEnv) (spec : ScrollSpecId) :
    Exits Local (requireEnabled fenv spec : InterpreterStep M J A Unit) := by
  intro i
  change Local i (exitState (Interpreter.requireEnabled fenv spec i))
  unfold Interpreter.requireEnabled
  split <;> exact .refl i

theorem resizeMemory [MemoryTr M] (memoryCost : Nat → U64) (offset len : Usize) :
    Exits Local (resizeMemory memoryCost offset len : InterpreterStep M J A Unit) := by
  intro i
  change Local i (exitState (Interpreter.resizeMemory memoryCost offset len i))
  unfold Interpreter.resizeMemory
  dsimp only
  split
  · split <;> exact ⟨rfl, rfl, rfl, rfl⟩
  · exact .refl i

/-! ## The instructions -/

variable (fenv : FrameEnv)

theorem selfdestruct : Exits Local (selfdestruct : InterpreterStep M J A Unit) := fun i => .refl i

theorem basefee : Exits Local (basefee fenv : InterpreterStep M J A Unit) :=
  bind (requireEnabled fenv .curie) fun _ => push _

theorem difficulty : Exits Local (difficulty : InterpreterStep M J A Unit) := push _

theorem clz : Exits Local (clz fenv : InterpreterStep M J A Unit) :=
  bind (requireEnabled fenv .galileo) fun _ => bind top fun _ => setTop _

theorem tload [TransientStorageTr J] : Exits Local (tload fenv : InterpreterStep M J A Unit) :=
  bind (requireEnabled fenv .curie) fun _ => bind top fun _ => bind .refl fun _ => setTop _

theorem mcopy [MemoryTr M] : Exits Local (mcopy fenv : InterpreterStep M J A Unit) := by
  refine bind (requireEnabled fenv .curie) fun _ => bind popn3 fun (dst, src, len) => ?_
  refine bind (asUsizeOrFail len) fun len => bind (gas _) fun _ => ?_
  split
  · exact fun i => .refl i
  · refine bind (asUsizeOrFail dst) fun dst => bind (asUsizeOrFail src) fun src => ?_
    exact bind (resizeMemory _ _ _) fun _ i => ⟨rfl, rfl, rfl, rfl⟩

end Local

/-! ## Runs -/

section Rule

variable {M J A P ε : Type} [MemoryTr M] [JournalTr J ε] [TransientStorageTr J]

/-- A relation between the interpreters of one frame that every part of a run keeps. -/
structure FrameRule (base : SpecId → U8 → HostInstruction M J A) (handler : FrameHandler M J A P)
    (precompiles : P) (fenv : FrameEnv) (R : Interpreter M J → Interpreter M J → Prop) : Prop where
  of_local {i i' : Interpreter M J} (h : Local i i') : R i i'
  trans {i i' i'' : Interpreter M J} (h : R i i') (h' : R i' i'') : R i i''
  blockhash : Exits R
    (onMachine (blockhash fenv.keccak256 fenv.env) : InterpreterStep M J A Unit)
  tstore : Exits R (tstore fenv : InterpreterStep M J A Unit)
  instruction (opcode : U8) (h : opcode ∉ overridden) :
    Exits R ((base .shanghai opcode).execute fenv.host)
  answered {i₀ i caller : Interpreter M J} {input : A}
    (hcall : CallsFrame (makeScrollInstructionTable base fenv.spec) fenv i₀ input i)
    (h : handler.frameInit fenv.host precompiles input i = .inl caller) : R i caller
  called {i₀ i callee callee' : Interpreter M J} {input : A} {fuel : Nat}
    {trace : List (TraceEvent A)} {action : InterpreterAction A}
    (hcall : CallsFrame (makeScrollInstructionTable base fenv.spec) fenv i₀ input i)
    (h : handler.frameInit fenv.host precompiles input i = .inr callee)
    (hrun : callee.runFrames (makeScrollInstructionTable base fenv.spec) handler precompiles fenv
      fuel = some (trace, action, callee'))
    (hkept : R callee callee') : R i (handler.frameReturnResult fenv.host i action callee')

variable {base : SpecId → U8 → HostInstruction M J A} {handler : FrameHandler M J A P}
  {precompiles : P} {fenv : FrameEnv} {R : Interpreter M J → Interpreter M J → Prop}

namespace FrameRule

theorem exits_of_local (rule : FrameRule base handler precompiles fenv R) {α : Type}
    {x : InterpreterStep M J A α} (h : Exits Local x) : Exits R x :=
  fun i => rule.of_local (h i)

/-- Every instruction of the table keeps the relation. -/
theorem execute (rule : FrameRule base handler precompiles fenv R) (opcode : U8) :
    Exits R ((makeScrollInstructionTable base fenv.spec opcode).execute fenv) := by
  by_cases hmem : opcode ∈ overridden
  swap
  · rw [makeScrollInstructionTable_of_not_mem hmem]
    exact rule.instruction opcode hmem
  simp only [overridden, List.mem_cons, List.not_mem_nil, or_false] at hmem
  rcases hmem with rfl | rfl | rfl | rfl | rfl | rfl | rfl | rfl
  · exact rule.blockhash
  · exact rule.exits_of_local (Local.basefee fenv)
  · exact rule.tstore
  · exact rule.exits_of_local (Local.tload fenv)
  · exact rule.exits_of_local Local.selfdestruct
  · exact rule.exits_of_local (Local.mcopy fenv)
  · exact rule.exits_of_local Local.difficulty
  · exact rule.exits_of_local (Local.clz fenv)

/-- A step of a frame keeps the relation. -/
theorem step (rule : FrameRule base handler precompiles fenv R) :
    Exits R (Interpreter.step (makeScrollInstructionTable base fenv.spec) fenv) := by
  intro i
  have hadvance : R i i.advance := rule.of_local ⟨rfl, rfl, rfl, rfl⟩
  have hgas : Exits R
      (gas (makeScrollInstructionTable base fenv.spec i.opcode).staticGas :
        InterpreterStep M J A Unit) := rule.exits_of_local (Local.gas _)
  have hrest := Exits.bind (R := R) (fun _ _ _ h h' => rule.trans h h') hgas
    fun _ => rule.execute i.opcode
  exact rule.trans hadvance (hrest i.advance)

/-- A run of frames keeps the relation. -/
theorem runFrames (rule : FrameRule base handler precompiles fenv R) {fuel : Nat}
    {i i' : Interpreter M J} {trace : List (TraceEvent A)} {action : InterpreterAction A}
    (hrun : i.runFrames (makeScrollInstructionTable base fenv.spec) handler precompiles fenv
      fuel = some (trace, action, i')) : R i i' := by
  induction fuel generalizing i trace action i' with
  | zero => cases hrun
  | succ fuel ih =>
    cases Interpreter.runFrames_succ.mp hrun with
    | halted hstep _ => exact rule.step.error hstep
    | stepped hstep hrest => exact rule.trans (rule.step.ok hstep) (ih hrest)
    | answered hstep hinit hrest =>
      exact rule.trans (rule.trans (rule.step.error hstep) (rule.answered hstep hinit)) (ih hrest)
    | called hstep hinit hcallee hrest =>
      have hcalled := rule.called hstep hinit hcallee (ih hcallee)
      exact rule.trans (rule.trans (rule.step.error hstep) hcalled) (ih hrest)

end FrameRule

end Rule

end ScrollRevm
