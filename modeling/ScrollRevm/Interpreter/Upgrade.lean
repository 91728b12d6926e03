import ScrollRevm.Interpreter.Reference

/-!
# Hardfork upgrades

A hardfork activates opcodes and changes `BLOCKHASH`. A run that met no opcode for which its
hardfork was too early, and no `BLOCKHASH` that changed, is the same run under every later
hardfork with the same precompiles and gas parameters: with the same trace, the same gas, the
same memory and the same journal.
-/

namespace ScrollRevm

open FixedWidth StateResult Interpreter

/-- The opcodes that a hardfork activates. -/
def gatedOpcodes : List U8 :=
  [Opcode.basefee, Opcode.tstore, Opcode.tload, Opcode.mcopy, Opcode.clz]

/-- The hardforks agree on where `BLOCKHASH` looks the hash up and what it charges. -/
def SameBlockhash (spec spec' : ScrollSpecId) : Prop :=
  spec.isEnabledIn .feynman = spec'.isEnabledIn .feynman ∧
    spec.isEnabledIn .tsukiV2 = spec'.isEnabledIn .tsukiV2

section Step

variable {M J A ε α : Type} {fenv : FrameEnv} {spec' : ScrollSpecId}

theorem requireEnabled_of_enabled {spec : ScrollSpecId} (h : fenv.spec.isEnabledIn spec = true) :
    (requireEnabled fenv spec : InterpreterStep M J A Unit) = pure () := by
  funext i
  change requireEnabled fenv spec i = .ok () i
  unfold requireEnabled
  rw [h, Bool.not_true, if_neg Bool.false_ne_true]

/-- An instruction behind a gate stops at the gate, or its hardfork is active. -/
theorem gated_cases {spec : ScrollSpecId} (body : InterpreterStep M J A α)
    (i : Interpreter M J) :
    fenv.spec.isEnabledIn spec = true ∨
      (do requireEnabled fenv spec; body).run i = .error (.halted .notActivated) i := by
  cases h : fenv.spec.isEnabledIn spec with
  | true => exact Or.inl rfl
  | false =>
    refine Or.inr (run_bind_of_error ?_)
    change requireEnabled fenv spec i = _
    unfold requireEnabled
    rw [h, Bool.not_false, if_pos rfl]

/-- An instruction that does not stop at its gate does the same under a later hardfork. -/
theorem gated_upgrade {spec : ScrollSpecId} {body : InterpreterStep M J A α}
    {i : Interpreter M J} (hup : spec'.isEnabledIn fenv.spec = true)
    (h : (do requireEnabled fenv spec; body).run i ≠ .error (.halted .notActivated) i) :
    (do requireEnabled (fenv.withSpec spec') spec; body).run i =
      (do requireEnabled fenv spec; body).run i := by
  have henabled := (gated_cases body i).resolve_right h
  have hlater : (fenv.withSpec spec').spec.isEnabledIn spec = true :=
    ScrollSpecId.isEnabledIn_trans hup henabled
  rw [requireEnabled_of_enabled henabled, requireEnabled_of_enabled hlater]

variable [JournalTr J ε]

/-- `BLOCKHASH` reads nothing else of the hardfork. -/
theorem blockhash_withSpec (h : SameBlockhash fenv.spec spec') :
    blockhash (J := J) fenv.keccak256 (fenv.withSpec spec').env =
      blockhash fenv.keccak256 fenv.env := by
  have hfeynman : fenv.env.cfg.spec.isEnabledIn .feynman = spec'.isEnabledIn .feynman := h.1
  have htsukiV2 : fenv.env.cfg.spec.isEnabledIn .tsukiV2 = spec'.isEnabledIn .tsukiV2 := h.2
  unfold blockhash blockhashWith
  simp only [FrameEnv.withSpec, hfeynman, htsukiV2]
  rfl

variable [MemoryTr M] [TransientStorageTr J] {base : SpecId → U8 → HostInstruction M J A}

/-- An instruction that is not `BLOCKHASH` and does not stop at its gate does the same under a
later hardfork. -/
theorem execute_upgrade {opcode : U8} {i : Interpreter M J}
    (hup : spec'.isEnabledIn fenv.spec = true)
    (hactivated : opcode ∈ gatedOpcodes →
      ((makeScrollInstructionTable base fenv.spec opcode).execute fenv).run i ≠
        .error (.halted .notActivated) i)
    (hblockhash : SameBlockhash fenv.spec spec' ∨ opcode ≠ Opcode.blockhash) :
    ((makeScrollInstructionTable base spec' opcode).execute (fenv.withSpec spec')).run i =
      ((makeScrollInstructionTable base fenv.spec opcode).execute fenv).run i := by
  rw [makeScrollInstructionTable_eq base spec' fenv.spec]
  by_cases hmem : opcode ∈ overridden
  swap
  · rw [makeScrollInstructionTable_of_not_mem hmem]
    rfl
  simp only [overridden, List.mem_cons, List.not_mem_nil, or_false] at hmem
  rcases hmem with rfl | rfl | rfl | rfl | rfl | rfl | rfl | rfl
  · have hsame := blockhash_withSpec (J := J) (hblockhash.resolve_right fun h => h rfl)
    exact congrArg (fun x => (onMachine (M := M) (A := A) x).run i) hsame
  · exact gated_upgrade hup (hactivated (by decide))
  · exact gated_upgrade hup (hactivated (by decide))
  · exact gated_upgrade hup (hactivated (by decide))
  · rfl
  · exact gated_upgrade hup (hactivated (by decide))
  · rfl
  · exact gated_upgrade hup (hactivated (by decide))

/-- A step that does not stop at a gate is the same step under a later hardfork. -/
theorem step_upgrade {i : Interpreter M J} (hup : spec'.isEnabledIn fenv.spec = true)
    (hactivated : i.opcode ∈ gatedOpcodes → ∀ i',
      (Interpreter.step (makeScrollInstructionTable base fenv.spec) fenv).run i ≠
        .error (.halted .notActivated) i')
    (hblockhash : SameBlockhash fenv.spec spec' ∨ i.opcode ≠ Opcode.blockhash) :
    (Interpreter.step (makeScrollInstructionTable base spec') (fenv.withSpec spec')).run i =
      (Interpreter.step (makeScrollInstructionTable base fenv.spec) fenv).run i := by
  have hstep (spec : ScrollSpecId) (fenv : FrameEnv) :
      (Interpreter.step (makeScrollInstructionTable base spec) fenv).run i =
        (do gas (makeScrollInstructionTable base spec i.opcode).staticGas
            (makeScrollInstructionTable base spec i.opcode).execute fenv).run i.advance := rfl
  rw [hstep] at hactivated ⊢
  rw [hstep, makeScrollInstructionTable_eq base spec' fenv.spec]
  cases hgas : (gas (M := M) (J := J) (A := A)
      (makeScrollInstructionTable base fenv.spec i.opcode).staticGas).run i.advance with
  | error action i' => rw [run_bind_of_error hgas, run_bind_of_error hgas]
  | ok _ i' =>
    simp only [run_bind_of_ok hgas] at hactivated ⊢
    have hexecute :
        ((makeScrollInstructionTable base spec' i.opcode).execute (fenv.withSpec spec')).run i' =
          ((makeScrollInstructionTable base fenv.spec i.opcode).execute fenv).run i' :=
      execute_upgrade hup (fun hmem => hactivated hmem i') hblockhash
    rwa [makeScrollInstructionTable_eq base spec' fenv.spec] at hexecute

/-! ## Runs -/

variable {P : Type} {handler : FrameHandler M J A P} {precompiles : P}

/-- **Upgrades are conservative.** Let a run of a frame, with all frames it calls, stop at no
opcode that its hardfork has not activated, and execute no `BLOCKHASH` unless the two hardforks
agree on it. Then the frame runs in the same way under every later hardfork with the same
precompiles and gas parameters: with the same trace, result, gas, memory and journal. -/
theorem runFrames_upgrade (hup : spec'.isEnabledIn fenv.spec = true) {fuel : Nat}
    {i i' : Interpreter M J} {trace : List (TraceEvent A)} {action : InterpreterAction A}
    (hrun : i.runFrames (makeScrollInstructionTable base fenv.spec) handler precompiles fenv
      fuel = some (trace, action, i'))
    (hactivated : ∀ opcode ∈ gatedOpcodes, .exited opcode (.halted .notActivated) ∉ trace)
    (hblockhash : SameBlockhash fenv.spec spec' ∨ .executed Opcode.blockhash ∉ trace) :
    i.runFrames (makeScrollInstructionTable base spec') handler precompiles
      (fenv.withSpec spec') fuel = some (trace, action, i') := by
  induction fuel generalizing i trace action i' with
  | zero => cases hrun
  | succ fuel ih =>
    -- the first step sees no gate, as the trace does not
    have hstep {rest : List (TraceEvent A)} (htrace : trace = .executed i.opcode :: rest)
        (hexits : ∀ i'', (Interpreter.step (makeScrollInstructionTable base fenv.spec) fenv).run i =
          .error (.halted .notActivated) i'' →
            .exited i.opcode (.halted .notActivated) ∈ trace) :
        (Interpreter.step (makeScrollInstructionTable base spec') (fenv.withSpec spec')).run i =
          (Interpreter.step (makeScrollInstructionTable base fenv.spec) fenv).run i := by
      refine step_upgrade hup (fun hmem i'' herror => ?_) (hblockhash.imp_right fun hnot heq => ?_)
      · exact hactivated _ hmem (hexits i'' herror)
      · rw [htrace, heq] at hnot
        exact hnot List.mem_cons_self
    apply Interpreter.runFrames_succ.mpr
    cases Interpreter.runFrames_succ.mp hrun with
    | halted hfirst hhalts =>
      refine .halted ((hstep rfl fun i'' herror => ?_).trans hfirst) hhalts
      rw [hfirst] at herror
      cases herror
      exact List.mem_cons_of_mem _ List.mem_cons_self
    | stepped hfirst hrest =>
      have hrest' := ih hrest (fun opcode hmem hin => hactivated opcode hmem (.tail _ hin))
        (hblockhash.imp_right fun hnot hin => hnot (.tail _ hin))
      refine .stepped ((hstep rfl fun i'' herror => ?_).trans hfirst) hrest'
      cases hfirst.symm.trans herror
    | answered hfirst hinit hrest =>
      have hrest' := ih hrest (fun opcode hmem hin => hactivated opcode hmem (.tail _ hin))
        (hblockhash.imp_right fun hnot hin => hnot (.tail _ hin))
      refine .answered ((hstep rfl fun i'' herror => ?_).trans hfirst) hinit hrest'
      cases hfirst.symm.trans herror
    | called hfirst hinit hcallee hrest =>
      have hcallee' := ih hcallee
        (fun opcode hmem hin => hactivated opcode hmem (.tail _ (List.mem_append_left _ hin)))
        (hblockhash.imp_right fun hnot hin => hnot (.tail _ (List.mem_append_left _ hin)))
      have hrest' := ih hrest
        (fun opcode hmem hin => hactivated opcode hmem (.tail _ (List.mem_append_right _ hin)))
        (hblockhash.imp_right fun hnot hin => hnot (.tail _ (List.mem_append_right _ hin)))
      refine .called ((hstep rfl fun i'' herror => ?_).trans hfirst) hinit hcallee' hrest'
      cases hfirst.symm.trans herror

end Step

section Sample

open ReferenceFrames

/-- Copies 5 bytes within the memory and pushes the base fee. -/
def copyCode : Bytes :=
  [push1, 5, push1, 0, push1, 2, Opcode.mcopy, Opcode.basefee, stopCode]

/-- The code runs under Curie, and so it runs in the same way under TsukiV2. -/
theorem runFrames_upgrade_copy : ∃ trace i',
    (interpreter copyCode).runFrames (makeScrollInstructionTable instructions .tsukiV2) handler ()
        (frameEnv .tsukiV2) 10 = some (trace, .halted .stop, i') ∧
      i'.machine.gas = 99980 := by
  obtain ⟨trace, i', hrun, hactivated, hblockhash, hgas⟩ : ∃ trace i',
      (interpreter copyCode).runFrames (makeScrollInstructionTable instructions .curie) handler ()
          (frameEnv .curie) 10 = some (trace, .halted .stop, i') ∧
        (∀ opcode ∈ gatedOpcodes, .exited opcode (.halted .notActivated) ∉ trace) ∧
        .executed Opcode.blockhash ∉ trace ∧ i'.machine.gas = 99980 :=
    ⟨_, _, rfl, by decide, by decide, by decide⟩
  have hlater : (interpreter copyCode).runFrames
      (makeScrollInstructionTable instructions .tsukiV2) handler ()
      ((frameEnv .curie).withSpec .tsukiV2) 10 = some (trace, .halted .stop, i') :=
    runFrames_upgrade rfl hrun hactivated (Or.inr hblockhash)
  exact ⟨trace, i', hlater, hgas⟩

end Sample

end ScrollRevm
