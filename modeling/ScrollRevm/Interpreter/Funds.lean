import ScrollRevm.Interpreter.Reach
import ScrollRevm.Interpreter.Reference
import ScrollRevm.Session.Frames

/-!
# What frames of the Scroll table do to the funds

Whatever bytecode runs, and whatever frames it calls, a run of frames acts on the journal by
the operations of frames alone. So the overriding instructions mint nothing, burn nothing and
leave nothing that a revert of the transaction would not undo.
-/

namespace ScrollRevm

open FixedWidth StateResult Interpreter Ledger

/-! ## The loads of `BLOCKHASH` -/

namespace Journal

variable {ε : Type} {address other : Address} {s : Journal ε}

theorem recorded_accessSlot {account : Account} (key : U256) (slot : EvmStorageSlot)
    (h : s.inner.state other = some account) :
    Recorded address s (s.accessSlot other account key slot) := by
  have hset : Recorded address s (s.setAccount other (account.setSlot key slot)) := by
    refine recorded_setAccount (congrArg AccountInfo.funds (info_of_state h)).symm ?_
    rw [touched, h]
    rfl
  unfold accessSlot
  dsimp only
  split
  · exact hset.trans (recorded_push _ fun _ => rfl)
  · exact hset

theorem isRecorded_sloadSkipColdLoad (address other : Address) (key : U256)
    (skipColdLoad : Bool) :
    IsRecorded address (sloadSkipColdLoad (ε := ε) other key skipColdLoad) := by
  intro s
  rcases sloadSkipColdLoad_cases s other key skipColdLoad with
    ⟨e, hrun⟩ | ⟨account, slot, load, hstate, -, hrun⟩
  · rw [hrun]
    exact .refl address s
  · rw [hrun]
    exact recorded_accessSlot key slot hstate

/-- A slot load changes no account information. -/
theorem sloadSkipColdLoad_info (s : Journal ε) (other : Address) (key : U256)
    (skipColdLoad : Bool) :
    (exitState ((sloadSkipColdLoad other key skipColdLoad).run s)).info = s.info := by
  rcases sloadSkipColdLoad_cases s other key skipColdLoad with
    ⟨e, hrun⟩ | ⟨account, slot, load, hstate, -, hrun⟩
  · rw [hrun]
    rfl
  · rw [hrun]
    change (s.accessSlot other account key slot).info = s.info
    have hinfo : s.info other = (account.setSlot key slot).info :=
      (info_of_state hstate).trans rfl
    unfold accessSlot
    dsimp only
    split
    · rw [info_push, info_setAccount_of_eq hinfo]
    · exact info_setAccount_of_eq hinfo

end Journal

section Loads

variable {ε : Type}

theorem fundsExits_sloadSkipColdLoad (address : Address) (key : U256) (skipColdLoad : Bool) :
    FundsExits (Journal.sloadSkipColdLoad (ε := ε) address key skipColdLoad) :=
  .of_info (Journal.traced_exits
    (Journal.isRecorded_sloadSkipColdLoad · address key skipColdLoad)
    (Journal.isQuiet_sloadSkipColdLoad · address key skipColdLoad))
    (Journal.sloadSkipColdLoad_info · address key skipColdLoad)

theorem fundsExits_loadAccountInfoSkipColdLoad (address : Address) (skipColdLoad : Bool) :
    FundsExits (Journal.loadAccountInfoSkipColdLoad (ε := ε) address skipColdLoad) := by
  intro checkpoints s
  have hload := fundsExits_loadAccount address checkpoints s
  change Relation.ReflTransGen FundsStep _
    (exitState (Journal.loadAccount address s), checkpoints) at hload
  change Relation.ReflTransGen FundsStep _
    (exitState (Journal.loadAccountInfoSkipColdLoad address skipColdLoad s), checkpoints)
  unfold Journal.loadAccountInfoSkipColdLoad
  split
  · exact .refl
  · cases hrun : Journal.loadAccount address s with
    | ok load t =>
      rw [hrun] at hload
      exact hload
    | error e t =>
      rw [hrun] at hload
      exact hload

theorem fundsExits_loadAccountDelegated (address : Address) :
    FundsExits (Journal.loadAccountDelegated (ε := ε) address) := by
  refine (fundsExits_loadAccount address).bind fun load => ?_
  cases load.data.info.code with
  | legacy bytes => exact .pure load
  | eip7702 target => exact (fundsExits_loadAccount target).bind fun _ => .pure load

end Loads

/-! ## Runs -/

section Runs

variable {M J A P ε : Type} [JournalTr J ε]

/-- One host is reached from the other by operations of frames, between the open checkpoints. -/
def FundsReach (checkpoints checkpoints' : List JournalCheckpoint) (j j' : J) : Prop :=
  Relation.ReflTransGen FundsStep (JournalTr.view j, checkpoints) (JournalTr.view j', checkpoints')

/-- What revm documents of its frames, where they act on the journal by operations of frames. -/
abbrev FundsLaws [MemoryTr M] [TransientStorageTr J] (base : SpecId → U8 → HostInstruction M J A)
    (handler : FrameHandler M J A P) (precompiles : P) (fenv : FrameEnv) : Prop :=
  FrameLaws FundsReach (FrameKept FundsReach) base handler precompiles fenv

/-- A lawful host does what its journal does. -/
theorem FundsExits.of_simulates {ε' α : Type} {x : EStateM ε' J α} {y : EStateM ε' (Journal ε) α}
    (hx : Simulates JournalTr.view x y) (hy : FundsExits y)
    (checkpoints : List JournalCheckpoint) : Exits (FundsReach checkpoints checkpoints) x := by
  intro j
  rw [FundsReach, hx.exitState_eq j]
  exact hy checkpoints (JournalTr.view j)

variable [MemoryTr M] [TransientStorageTr J] {base : SpecId → U8 → HostInstruction M J A}
  {handler : FrameHandler M J A P} {precompiles : P} {fenv : FrameEnv}

omit [MemoryTr M] in
/-- The overriding instructions do what frames do: `TSTORE` logs what it changes and touches no
account. -/
theorem fundsReach_rule [LawfulJournal J] [LawfulTransientStorage J] :
    ReachRule (FundsReach (J := J)) where
  refl _ _ := .refl
  trans h h' := h.trans h'
  checkpoint h := .single (.checkpoint h)
  checkpointRevert opened checkpoint j := by
    have hrevert : Simulates JournalTr.view (JournalTr.checkpointRevert (J := J) checkpoint)
        (Journal.checkpointRevert checkpoint) := LawfulJournal.checkpointRevert checkpoint
    rw [FundsReach, hrevert.exitState_eq]
    exact .single (.checkpointRevert rfl)
  loadAccountDelegated :=
    FundsExits.of_simulates (LawfulJournal.loadAccountDelegated _)
      (fundsExits_loadAccountDelegated _)
  loadAccountInfoSkipColdLoad :=
    FundsExits.of_simulates (LawfulJournal.loadAccountInfoSkipColdLoad _ _)
      (fundsExits_loadAccountInfoSkipColdLoad _ _)
  sloadSkipColdLoad opened index skipCold :=
    FundsExits.of_simulates (LawfulJournal.sloadSkipColdLoad _ _ _)
      (fundsExits_sloadSkipColdLoad _ _ _) opened
  tstore opened address key value j := by
    have hinfo := Journal.info_tstore (JournalTr.view j) address key value
    rw [FundsReach, LawfulTransientStorage.view_tstore]
    refine .single (.changed (Journal.traced_tstore _ _ _ _) (Journal.balance_of_info hinfo) ?_)
    intro a
    rw [Journal.nonce_of_info hinfo]
    exact BitVec.le_refl _

end Runs

section Sample

open ReferenceFrames ReferenceMainnet

theorem ReferenceFrames.local_pushByte : Exits Local (pushByte : Step) :=
  Local.bind .refl fun _ => Local.bind (fun _ => ⟨rfl, rfl, rfl, rfl⟩) fun _ => .push _

theorem ReferenceFrames.local_instructions (spec : SpecId) (opcode : U8) (henv : HostEnv) :
    Exits Local ((instructions spec opcode).execute henv) := by
  unfold instructions
  split
  · exact .refl
  split
  · exact local_pushByte
  split
  · exact .refl
  · exact .refl

theorem ReferenceFrames.fundsLaws (spec : ScrollSpecId) :
    FundsLaws instructions handler () (frameEnv spec) where
  instruction opcode _ i :=
    .of_local fundsReach_rule (local_instructions .shanghai opcode (frameEnv spec).host i)
  answered _ h := nomatch h
  entered := by
    rintro input i₀ i callee hcall ⟨⟩ checkpoints
    exact .single (.checkpoint rfl)
  returned := by
    intro input i₀ i callee callee' fuel trace action hcall h hrun hcheckpoint
    refine ⟨rfl, fun checkpoints => .single ?_⟩
    change FundsStep _ (JournalTr.view (leave i action callee').machine.host, checkpoints)
    unfold leave
    dsimp only
    split
    · exact .checkpointCommit rfl
    · exact .checkpointRevert rfl

end Sample

end ScrollRevm
