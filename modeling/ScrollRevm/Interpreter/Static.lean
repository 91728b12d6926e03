import ScrollRevm.Interpreter.Funds

/-!
# Static calls

`TSTORE` stops in a static frame, and the accesses of `BLOCKHASH` leave the transient storage.
So no frame that runs below a static call leaves a change of transient storage behind.
-/

namespace ScrollRevm

open FixedWidth StateResult Interpreter

section Static

variable {M J A P ε : Type} [MemoryTr M] [JournalTr J ε] [TransientStorageTr J]

/-- The same transient storage. -/
def SameTransient (j j' : J) : Prop :=
  ∀ address key, TransientStorageTr.tload address key j' = TransientStorageTr.tload address key j

omit [MemoryTr M] [JournalTr J ε] in
theorem SameTransient.trans {j j' j'' : J} (h : SameTransient j j') (h' : SameTransient j' j'') :
    SameTransient j j'' := fun address key => (h' address key).trans (h address key)

/-- A frame stays static or not, and a static one keeps the transient storage. -/
structure StaticKept (i i' : Interpreter M J) : Prop where
  isStatic_eq : i'.frame.isStatic = i.frame.isStatic
  transient (h : i.frame.isStatic = true) : SameTransient i.machine.host i'.machine.host

/-- What revm documents of transient storage: of its instructions only `TSTORE` writes it, a
frame entered from a static one is static, and the caller goes on with the storage that its
callee left, or with its own if the callee was reverted. -/
structure TransientLaws (base : SpecId → U8 → HostInstruction M J A)
    (handler : FrameHandler M J A P) (precompiles : P) (fenv : FrameEnv) : Prop where
  instruction (opcode : U8) (h : opcode ∉ overridden) :
    Exits (fun i i' => i'.frame.isStatic = i.frame.isStatic ∧
      SameTransient i.machine.host i'.machine.host) ((base .shanghai opcode).execute fenv.host)
  answered {input : A} {i₀ i caller : Interpreter M J}
    (hcall : CallsFrame (makeScrollInstructionTable base fenv.spec) fenv i₀ input i)
    (h : handler.frameInit fenv.host precompiles input i = .inl caller) :
    caller.frame.isStatic = i.frame.isStatic ∧ SameTransient i.machine.host caller.machine.host
  entered {input : A} {i₀ i callee : Interpreter M J}
    (hcall : CallsFrame (makeScrollInstructionTable base fenv.spec) fenv i₀ input i)
    (h : handler.frameInit fenv.host precompiles input i = .inr callee) :
    (i.frame.isStatic = true → callee.frame.isStatic = true) ∧
      SameTransient i.machine.host callee.machine.host
  returned {input : A} {i₀ i callee callee' : Interpreter M J} {fuel : Nat}
    {trace : List (TraceEvent A)} {action : InterpreterAction A}
    (hcall : CallsFrame (makeScrollInstructionTable base fenv.spec) fenv i₀ input i)
    (h : handler.frameInit fenv.host precompiles input i = .inr callee)
    (hrun : callee.runFrames (makeScrollInstructionTable base fenv.spec) handler precompiles fenv
      fuel = some (trace, action, callee')) :
    let caller := handler.frameReturnResult fenv.host i action callee'
    caller.frame.isStatic = i.frame.isStatic ∧
      (SameTransient callee'.machine.host caller.machine.host ∨
        SameTransient i.machine.host caller.machine.host)

variable {base : SpecId → U8 → HostInstruction M J A} {handler : FrameHandler M J A P}
  {precompiles : P} {fenv : FrameEnv}

omit [MemoryTr M] in
theorem sameTransient_iff [LawfulTransientStorage J] {j j' : J} :
    SameTransient j j' ↔ (JournalTr.view j').inner.transientStorage =
      (JournalTr.view j).inner.transientStorage := by
  constructor
  · intro h
    funext address key
    exact (LawfulTransientStorage.tload_eq j' address key).symm.trans
      ((h address key).trans (LawfulTransientStorage.tload_eq j address key))
  · intro h address key
    have hkey := congrFun (congrFun h address) key
    exact (LawfulTransientStorage.tload_eq j' address key).trans
      (hkey.trans (LawfulTransientStorage.tload_eq j address key).symm)

omit [MemoryTr M] in
/-- A lawful host leaves the transient storage where its journal does. -/
theorem SameTransient.of_simulates [LawfulTransientStorage J] {ε' α : Type} {x : EStateM ε' J α}
    {y : EStateM ε' (Journal ε) α} (hx : Simulates JournalTr.view x y)
    (hy : Journal.KeepsTransient y) : Exits SameTransient x := by
  intro j
  rw [sameTransient_iff, hx.exitState_eq j]
  exact hy (JournalTr.view j)

omit [MemoryTr M] in
/-- The accesses of `BLOCKHASH` leave the transient storage. -/
theorem sameTransient_accessRule [LawfulJournal J] [LawfulTransientStorage J] :
    AccessRule (SameTransient (J := J)) where
  refl _ _ _ := rfl
  trans _ _ _ h h' := h.trans h'
  loadAccountDelegated :=
    .of_simulates (LawfulJournal.loadAccountDelegated _)
      (Journal.keepsTransient_loadAccountDelegated _)
  sloadSkipColdLoad _ _ :=
    .of_simulates (LawfulJournal.sloadSkipColdLoad _ _ _)
      (Journal.keepsTransient_sloadSkipColdLoad _ _ _)
  isolatedLoad := by
    refine exits_isolatedLoad fun j opened j' hopened => ?_
    have hrevert : Simulates JournalTr.view (JournalTr.checkpointRevert (J := J) opened)
        (Journal.checkpointRevert opened) := LawfulJournal.checkpointRevert opened
    have hload : Simulates JournalTr.view
        (JournalTr.loadAccountInfoSkipColdLoad (J := J) historyStorageAddress false)
        (Journal.loadAccountInfoSkipColdLoad historyStorageAddress false) :=
      LawfulJournal.loadAccountInfoSkipColdLoad historyStorageAddress false
    have hkept := Journal.transient_revertTo_load (JournalTr.view j) historyStorageAddress false
    rw [Journal.run_checkpoint] at hopened
    injection hopened with hposition hview
    rw [sameTransient_iff, hrevert.exitState_eq, hload.exitState_eq, ← hview, ← hposition]
    exact hkept

omit [MemoryTr M] in
theorem StaticKept.of_local {i i' : Interpreter M J} (h : Local i i') : StaticKept i i' :=
  ⟨h.isStatic_eq, fun _ _ _ => by rw [h.host_eq]⟩

omit [MemoryTr M] in
theorem StaticKept.trans {i i' i'' : Interpreter M J} (h : StaticKept i i')
    (h' : StaticKept i' i'') : StaticKept i i'' :=
  ⟨h'.isStatic_eq.trans h.isStatic_eq, fun hstatic =>
    (h.transient hstatic).trans (h'.transient (h.isStatic_eq.trans hstatic))⟩

omit [MemoryTr M] in
/-- `TSTORE` stops in a static frame. -/
theorem staticKept_tstore (fenv : FrameEnv) :
    Exits StaticKept (tstore fenv : InterpreterStep M J A Unit) := by
  have htrans (i i' i'' : Interpreter M J) (h : StaticKept i i') (h' : StaticKept i' i'') :
      StaticKept i i'' := h.trans h'
  refine Exits.bind htrans (fun i => .of_local (Local.requireEnabled fenv .curie i)) fun _ i => ?_
  cases hstatic : i.frame.isStatic with
  | true =>
    have hstop : (requireNonStaticcall : InterpreterStep M J A Unit).run i =
        .error .stateChangeDuringStaticCall i := if_pos hstatic
    rw [run_bind_of_error hstop]
    exact .of_local (.refl i)
  | false =>
    -- a frame that is not static may write
    have hpass : (requireNonStaticcall : InterpreterStep M J A Unit).run i = .ok () i :=
      if_neg (Bool.eq_false_iff.mp hstatic)
    rw [run_bind_of_ok hpass]
    have hpop := Local.popn2 (M := M) (J := J) (A := A) i
    refine ⟨?_, fun h => absurd (hstatic.symm.trans h) Bool.false_ne_true⟩
    cases hrun : (popn2 : InterpreterStep M J A (U256 × U256)).run i with
    | error e i' =>
      rw [run_bind_of_error hrun]
      rw [hrun] at hpop
      exact hpop.isStatic_eq
    | ok popped i' =>
      rw [run_bind_of_ok hrun]
      rw [hrun] at hpop
      exact hpop.isStatic_eq

/-- The rule of static frames. -/
theorem TransientLaws.frameRule [LawfulJournal J] [LawfulTransientStorage J]
    (laws : TransientLaws base handler precompiles fenv) :
    FrameRule base handler precompiles fenv StaticKept where
  of_local := .of_local
  trans := .trans
  blockhash := by
    intro i
    have hkept := (sameTransient_accessRule (J := J)).blockhash fenv.keccak256 fenv.env i.machine
    unfold onMachine
    rw [run_focus]
    cases hrun : (blockhash fenv.keccak256 fenv.env).run i.machine with
    | ok _ m =>
      rw [hrun] at hkept
      exact ⟨rfl, fun _ => hkept⟩
    | error e m =>
      rw [hrun] at hkept
      exact ⟨rfl, fun _ => hkept⟩
  tstore := staticKept_tstore fenv
  instruction opcode h i :=
    ⟨(laws.instruction opcode h i).1, fun _ => (laws.instruction opcode h i).2⟩
  answered hcall h := ⟨(laws.answered hcall h).1, fun _ => (laws.answered hcall h).2⟩
  called := by
    intro i₀ i callee callee' input fuel trace action hcall h hrun hkept
    obtain ⟨hstatic, hentered⟩ := laws.entered hcall h
    obtain ⟨hcaller, hreturned⟩ := laws.returned hcall h hrun
    refine ⟨hcaller, fun hcalling => ?_⟩
    rcases hreturned with hleft | hreverted
    · exact (hentered.trans (hkept.transient (hstatic hcalling))).trans hleft
    · exact hreverted

/-- **Static calls.** No frame that runs under a static one, at any depth and under any
hardfork, leaves a change of transient storage behind. -/
theorem runFrames_static [LawfulJournal J] [LawfulTransientStorage J]
    (laws : TransientLaws base handler precompiles fenv) {fuel : Nat}
    {i i' : Interpreter M J} {trace : List (TraceEvent A)} {action : InterpreterAction A}
    (hrun : i.runFrames (makeScrollInstructionTable base fenv.spec) handler precompiles fenv
      fuel = some (trace, action, i'))
    (hstatic : i.frame.isStatic = true) : SameTransient i.machine.host i'.machine.host :=
  (laws.frameRule.runFrames hrun).transient hstatic

end Static

section Sample

open ReferenceFrames

theorem ReferenceFrames.transientLaws (spec : ScrollSpecId) :
    TransientLaws instructions handler () (frameEnv spec) where
  instruction opcode _ i :=
    have h := local_instructions .shanghai opcode (frameEnv spec).host i
    ⟨h.isStatic_eq, fun _ _ => by rw [h.host_eq]⟩
  answered _ h := nomatch h
  entered := by
    rintro input i₀ i callee hcall ⟨⟩
    exact ⟨fun _ => rfl, fun _ _ => rfl⟩
  returned := by
    intro input i₀ i callee callee' fuel trace action hcall h hrun
    refine ⟨rfl, ?_⟩
    change SameTransient _ (leave i action callee').machine.host ∨
      SameTransient _ (leave i action callee').machine.host
    have hkept := ((fundsLaws spec).frameRule fundsReach_rule).runFrames hrun
    have hentered := (fundsLaws spec).entered hcall h []
    have hother : (0 : Address) ≠ precompile3 := by decide
    -- what the callee did is logged from the entry of its frame on
    have hlogged := fundsStep_logged hother
      (hentered.trans (hkept.reach [callee.frame.checkpoint]))
    have hposition : callee'.frame.checkpoint = ⟨i.machine.host.inner.journal.length⟩ := by
      rw [hkept.checkpoint_eq]
      cases h
      rfl
    unfold leave
    dsimp only
    split
    · exact Or.inl fun _ _ => rfl
    · refine Or.inr (sameTransient_iff.mpr ?_)
      rw [hposition]
      exact hlogged.transient_revertTo

/-- A static frame that calls code with a `TSTORE` in it. -/
def staticCaller : Interpreter ReferenceMemory Host :=
  let i := interpreter [staticcall, stopCode]
  { i with frame := { i.frame with isStatic := true } }

/-- The callee stops at its `TSTORE`, and the caller goes on. -/
theorem runFrames_static_call : ∃ trace i',
    staticCaller.runFrames (makeScrollInstructionTable instructions .curie) handler ()
        (frameEnv .curie) 10 = some (trace, .halted .stop, i') ∧
      .exited Opcode.tstore .stateChangeDuringStaticCall ∈ trace ∧
      SameTransient staticCaller.machine.host i'.machine.host := by
  obtain ⟨trace, i', hrun, hstopped⟩ : ∃ trace i',
      staticCaller.runFrames (makeScrollInstructionTable instructions .curie) handler ()
          (frameEnv .curie) 10 = some (trace, .halted .stop, i') ∧
        .exited Opcode.tstore .stateChangeDuringStaticCall ∈ trace :=
    ⟨_, _, rfl, by decide⟩
  exact ⟨trace, i', hrun, hstopped, runFrames_static (transientLaws .curie) hrun rfl⟩

end Sample

end ScrollRevm
