import ScrollRevm.Interpreter.Effects

/-!
# What frames reach

What frames do to the host is told by the hosts they reach, with the checkpoints that are open
before and after. A relation of that kind which the accesses of `BLOCKHASH` and the writes of
`TSTORE` keep holds of whole runs of frames where revm's instructions and calls keep it.
-/

namespace ScrollRevm

open FixedWidth StateResult Interpreter

variable {M J A P ε : Type} [JournalTr J ε]

/-- A relation of hosts under the checkpoints open before and after, the innermost first. -/
abbrev Reach (J : Type) := List JournalCheckpoint → List JournalCheckpoint → J → J → Prop

/-- What the overriding instructions do is reached: the accesses of `BLOCKHASH`, the checkpoint
of its isolated load, and the writes of `TSTORE`. -/
structure ReachRule [TransientStorageTr J] (R : Reach J) : Prop where
  refl (opened : List JournalCheckpoint) (j : J) : R opened opened j j
  trans {opened opened' opened'' : List JournalCheckpoint} {j j' j'' : J}
    (h : R opened opened' j j') (h' : R opened' opened'' j' j'') : R opened opened'' j j''
  checkpoint {opened : List JournalCheckpoint} {checkpoint : JournalCheckpoint} {j j' : J}
    (h : Journal.checkpoint.run (JournalTr.view j) = .ok checkpoint (JournalTr.view j')) :
    R opened (checkpoint :: opened) j j'
  checkpointRevert (opened : List JournalCheckpoint) (checkpoint : JournalCheckpoint) :
    Exits (R (checkpoint :: opened) opened) (JournalTr.checkpointRevert (J := J) checkpoint)
  loadAccountDelegated (opened : List JournalCheckpoint) :
    Exits (R opened opened) (JournalTr.loadAccountDelegated (J := J) historyStorageAddress)
  loadAccountInfoSkipColdLoad (opened : List JournalCheckpoint) :
    Exits (R opened opened)
      (JournalTr.loadAccountInfoSkipColdLoad (J := J) historyStorageAddress false)
  sloadSkipColdLoad (opened : List JournalCheckpoint) (index : U256) (skipCold : Bool) :
    Exits (R opened opened)
      (JournalTr.sloadSkipColdLoad (J := J) historyStorageAddress index skipCold)
  tstore (opened : List JournalCheckpoint) (address : Address) (key value : U256) (j : J) :
    R opened opened j (TransientStorageTr.tstore address key value j)

/-- The accesses of `BLOCKHASH` are reached under any open checkpoints. -/
theorem ReachRule.access [LawfulJournal J] [TransientStorageTr J] {R : Reach J}
    (rule : ReachRule R) (opened : List JournalCheckpoint) : AccessRule (R opened opened) where
  refl := rule.refl opened
  trans _ _ _ h h' := rule.trans h h'
  loadAccountDelegated := rule.loadAccountDelegated opened
  sloadSkipColdLoad := rule.sloadSkipColdLoad opened
  isolatedLoad := by
    refine exits_isolatedLoad fun j checkpoint j' hopened => ?_
    have hload := rule.loadAccountInfoSkipColdLoad (checkpoint :: opened) j'
    have hrevert := rule.checkpointRevert opened checkpoint
    exact rule.trans (rule.trans (rule.checkpoint hopened) hload) (hrevert _)

/-- What a frame does to its host is reached under the open checkpoints, its own among them. -/
structure FrameKept (R : Reach J) (i i' : Interpreter M J) : Prop where
  checkpoint_eq : i'.frame.checkpoint = i.frame.checkpoint
  reach (opened : List JournalCheckpoint) : R opened opened i.machine.host i'.machine.host

/-- What revm documents of its frames: its instructions other than `SELFDESTRUCT` move no
checkpoint, and the frame of a callee runs in a checkpoint that its return commits or reverts.
`Answers` is what a call does that is answered at once. -/
structure FrameLaws [MemoryTr M] [TransientStorageTr J] (R : Reach J)
    (Answers : Interpreter M J → Interpreter M J → Prop)
    (base : SpecId → U8 → HostInstruction M J A) (handler : FrameHandler M J A P)
    (precompiles : P) (fenv : FrameEnv) : Prop where
  instruction (opcode : U8) (h : opcode ∉ overridden) :
    Exits (FrameKept R) ((base .shanghai opcode).execute fenv.host)
  answered {input : A} {i₀ i caller : Interpreter M J}
    (hcall : CallsFrame (makeScrollInstructionTable base fenv.spec) fenv i₀ input i)
    (h : handler.frameInit fenv.host precompiles input i = .inl caller) : Answers i caller
  entered {input : A} {i₀ i callee : Interpreter M J}
    (hcall : CallsFrame (makeScrollInstructionTable base fenv.spec) fenv i₀ input i)
    (h : handler.frameInit fenv.host precompiles input i = .inr callee)
    (opened : List JournalCheckpoint) :
    R opened (callee.frame.checkpoint :: opened) i.machine.host callee.machine.host
  returned {input : A} {i₀ i callee callee' : Interpreter M J} {fuel : Nat}
    {trace : List (TraceEvent A)} {action : InterpreterAction A}
    (hcall : CallsFrame (makeScrollInstructionTable base fenv.spec) fenv i₀ input i)
    (h : handler.frameInit fenv.host precompiles input i = .inr callee)
    (hrun : callee.runFrames (makeScrollInstructionTable base fenv.spec) handler precompiles fenv
      fuel = some (trace, action, callee'))
    (hcheckpoint : callee'.frame.checkpoint = callee.frame.checkpoint) :
    let caller := handler.frameReturnResult fenv.host i action callee'
    caller.frame.checkpoint = i.frame.checkpoint ∧ ∀ opened,
      R (callee'.frame.checkpoint :: opened) opened callee'.machine.host caller.machine.host

/-- A step of the machine whose host is reached. -/
theorem FrameKept.onMachine {R : Reach J} {α : Type} {x : Instruction J α}
    (h : ∀ opened, AccessRule.Keeps (R opened opened) x) :
    Exits (FrameKept R) (Interpreter.onMachine x : InterpreterStep M J A α) := by
  intro i
  have hreach (opened : List JournalCheckpoint) := h opened i.machine
  unfold Interpreter.onMachine
  rw [run_focus]
  cases hrun : x.run i.machine with
  | ok a m =>
    rw [hrun] at hreach
    exact ⟨rfl, hreach⟩
  | error e m =>
    rw [hrun] at hreach
    exact ⟨rfl, hreach⟩

section Kept

variable [TransientStorageTr J] {R : Reach J} {i i' i'' : Interpreter M J}

theorem FrameKept.of_local (rule : ReachRule R) (h : Local i i') : FrameKept R i i' := by
  refine ⟨h.checkpoint_eq, fun opened => ?_⟩
  rw [h.host_eq]
  exact rule.refl opened _

theorem FrameKept.trans (rule : ReachRule R) (h : FrameKept R i i') (h' : FrameKept R i' i'') :
    FrameKept R i i'' :=
  ⟨h'.checkpoint_eq.trans h.checkpoint_eq, fun opened =>
    rule.trans (h.reach opened) (h'.reach opened)⟩

theorem FrameKept.tstore (rule : ReachRule R) (fenv : FrameEnv) :
    Exits (FrameKept R) (tstore fenv : InterpreterStep M J A Unit) := by
  have htrans (i i' i'' : Interpreter M J) (h : FrameKept R i i') (h' : FrameKept R i' i'') :
      FrameKept R i i'' := h.trans rule h'
  have hlocal {α : Type} {x : InterpreterStep M J A α} (hx : Exits Local x) :
      Exits (FrameKept R) x := fun i => .of_local rule (hx i)
  refine Exits.bind htrans (hlocal (Local.requireEnabled fenv .curie)) fun _ => ?_
  refine Exits.bind htrans (hlocal Local.requireNonStaticcall) fun _ => ?_
  refine Exits.bind htrans (hlocal Local.popn2) fun (index, value) i => ⟨rfl, fun opened => ?_⟩
  exact rule.tstore opened i.frame.targetAddress index value i.machine.host

end Kept

variable [MemoryTr M] [TransientStorageTr J] {R R' : Reach J}
  {Answers Answers' : Interpreter M J → Interpreter M J → Prop}
  {base : SpecId → U8 → HostInstruction M J A} {handler : FrameHandler M J A P}
  {precompiles : P} {fenv : FrameEnv}

/-- The rule of runs of frames. -/
theorem FrameLaws.frameRule [LawfulJournal J] (rule : ReachRule R)
    (laws : FrameLaws R (FrameKept R) base handler precompiles fenv) :
    FrameRule base handler precompiles fenv (FrameKept R) where
  of_local := .of_local rule
  trans h h' := h.trans rule h'
  blockhash :=
    FrameKept.onMachine fun opened => (rule.access opened).blockhash fenv.keccak256 fenv.env
  tstore := FrameKept.tstore rule fenv
  instruction := laws.instruction
  answered := laws.answered
  called := by
    intro i₀ i callee callee' input fuel trace action hcall h hrun hkept
    obtain ⟨hcheckpoint, hreturned⟩ := laws.returned hcall h hrun hkept.checkpoint_eq
    refine ⟨hcheckpoint, fun opened => ?_⟩
    -- the callee ran between the opening of its checkpoint and its end
    have hcallee := hkept.reach (callee.frame.checkpoint :: opened)
    have hreturn := hreturned opened
    rw [hkept.checkpoint_eq] at hreturn
    exact rule.trans (rule.trans (laws.entered hcall h opened) hcallee) hreturn

end ScrollRevm
