import ScrollRevm.Precompile.Transfer
import ScrollRevm.Session.Frames

/-!
# Transfers in nested frames

A call of the precompile runs in a frame, and any frame around it may still be reverted. The
journal logs a transfer by its amount, so that undoing one whose credit had overflowed would
not give the balances back; the precompile makes no such transfer. Over any nesting of frames
it is therefore a ledger of covered moves whose balances are saved when a frame is entered.
-/

namespace ScrollRevm

open FixedWidth StateResult UndoLog

namespace TransferPrecompile

variable {J ε : Type} [Repr ε]

/-! ## One call -/

section Call

variable {s s' : Journal ε} {source target : Address} {value : U256}

theorem traced_receiverOverflows (source target : Address) (value : U256) :
    Exits Journal.Traced (receiverOverflows (J := Journal ε) source target value) := by
  unfold receiverOverflows
  split
  · have hload : Exits Journal.Traced (Journal.loadAccount (ε := ε) target) :=
      Journal.traced_exits (Journal.isRecorded_loadAccount · target)
        (Journal.isQuiet_loadAccount · target)
    exact Exits.bind (fun _ _ _ h h' => h.trans h') (hload.focus fun _ _ => rfl)
      fun _ => .pure Journal.Traced.refl _
  · exact .pure Journal.Traced.refl false

/-- The transfer after the check is undone by the log, as its credit has room. -/
theorem traced_moveValue (source target : Address) (value : U256) :
    Exits Journal.Traced (moveValue (J := Journal ε) source target value) := by
  intro s
  have hcheck := traced_receiverOverflows (ε := ε) source target value
  unfold moveValue
  cases hrun : (receiverOverflows (J := Journal ε) source target value).run s with
  | error e s₁ =>
    rw [run_bind_of_error hrun]
    exact hcheck.error hrun
  | ok overflows s₁ =>
    rw [run_bind_of_ok hrun]
    refine (hcheck.ok hrun).trans ?_
    cases overflows with
    | true => exact .refl s₁
    | false =>
      obtain ⟨hsame, -, hoverflows⟩ := receiverOverflows_ok hrun
      have htransfer : Journal.Traced s₁
          (exitState ((Journal.transfer source target value).run s₁)) := by
        refine Journal.traced_transfer_of_room fun hne _ => ?_
        rw [Journal.balance_of_info hsame]
        exact (hoverflows.mp rfl).resolve_left hne
      rw [if_neg Bool.false_ne_true]
      cases hmove : (Journal.transfer source target value).run s₁ with
      | error e s₂ =>
        have hinternals : (internals (JournalTr.transfer source target value)).run s₁ =
            .error _ s₂ := run_focus_of_error hmove
        rw [run_bind_of_error hinternals]
        rwa [hmove] at htransfer
      | ok r s₂ =>
        have hinternals : (internals (JournalTr.transfer source target value)).run s₁ =
            .ok r s₂ := run_focus_of_ok hmove
        rw [run_bind_of_ok hinternals]
        rw [hmove] at htransfer
        cases r <;> exact htransfer

/-- A call of the precompile is undone by the log, however large the balances are. -/
theorem traced_run (input : PrecompileInput) :
    Exits Journal.Traced (run (J := Journal ε) input) := by
  intro s
  by_cases hpermitted : Permitted input
  · rw [run_of_permitted hpermitted]
    exact traced_moveValue _ _ _ s
  · obtain ⟨e, herror⟩ := run_of_not_permitted (J := Journal ε) hpermitted
    rw [herror s]
    exact .refl s

/-- A call of the precompile does what frames do. -/
theorem fundsExits_run (input : PrecompileInput) : FundsExits (run (J := Journal ε) input) := by
  have hoverflows (source target : Address) (value : U256) :
      FundsExits (receiverOverflows (J := Journal ε) source target value) := by
    unfold receiverOverflows
    split
    · exact ((fundsExits_loadAccount target).mapError _).bind fun _ => .pure _
    · exact .pure false
  have hmove (source target : Address) (value : U256) :
      FundsExits (moveValue (J := Journal ε) source target value) := by
    refine (hoverflows source target value).bind fun overflows => ?_
    split
    · exact .pure _
    refine ((fundsExits_transfer source target value).mapError _).bind fun r => ?_
    cases r with
    | none => exact .pure _
    | some e => exact .pure _
  intro checkpoints s
  by_cases hpermitted : Permitted input
  · rw [run_of_permitted hpermitted]
    exact hmove _ _ _ checkpoints s
  · obtain ⟨e, herror⟩ := run_of_not_permitted (J := Journal ε) hpermitted
    rw [herror s]
    exact .refl

end Call

/-! ## The ledger -/

/-- What happens around the calls of a transaction. -/
inductive Action where
  | call (input : PrecompileInput)
  /-- A frame is entered. -/
  | enter
  /-- The innermost frame is left, and its changes are kept or reverted. -/
  | leave (accepted : Bool)

instance (input : PrecompileInput) : Decidable (Permitted input) :=
  decidable_of_iff (input.isStatic = false ∧ input.targetAddress = input.bytecodeAddress ∧
      input.caller = nativeDogeTokenAddress ∧ gasCost ≤ input.gas ∧ input.data.length = 96)
    ⟨fun ⟨h₁, h₂, h₃, h₄, h₅⟩ => ⟨h₁, h₂, h₃, h₄, h₅⟩,
      fun ⟨h₁, h₂, h₃, h₄, h₅⟩ => ⟨h₁, h₂, h₃, h₄, h₅⟩⟩

/-- The ledger's view of an action: a permitted call moves its value. -/
def Action.event : Action → Event (Address → U256)
  | .call input => .change fun balance =>
    if Permitted input then
      Ledger.move balance (sender input.data) (receiver input.data) (amount input.data)
    else balance
  | .enter => .opened
  | .leave accepted => if accepted then .committed else .reverted

/-- An action on the journal and the checkpoints of the open frames, the innermost first. -/
def Action.perform [JournalTr J ε] (c : J × List JournalCheckpoint) :
    Action → J × List JournalCheckpoint
  | .call input => (exitState ((run input).run c.1), c.2)
  | .enter =>
    match JournalTr.checkpoint.run c.1 with
    | .ok checkpoint j => (j, checkpoint :: c.2)
    | .error _ j => (j, c.2)
  | .leave accepted =>
    match c.2 with
    | [] => c
    | checkpoint :: rest =>
      if accepted then (exitState (JournalTr.checkpointCommit.run c.1), rest)
      else (exitState ((JournalTr.checkpointRevert checkpoint).run c.1), rest)

/-- Balances that moved are those of the ledger. -/
theorem eq_move_of_transferred {before after : Address → U256} {source target : Address}
    {value : U256} (hcovered : Covered before source target value)
    (h : Journal.Transferred before after source target value) :
    after = Ledger.move before source target value := by
  refine Eq.trans ?_ (if_pos hcovered).symm
  split
  · rename_i heq
    exact h.self heq
  · rename_i hne
    ext1 a
    by_cases htarget : a = target
    · subst htarget
      rw [Function.update_self]
      apply BitVec.eq_of_toNat_eq
      rw [h.credit hne, BitVec.toNat_add_of_lt (hcovered.2.resolve_left hne)]
    rw [Function.update_of_ne htarget]
    by_cases hsource : a = source
    · subst hsource
      rw [Function.update_self]
      apply BitVec.eq_of_toNat_eq
      have hdebit := h.debit hne
      rw [BitVec.toNat_sub_of_le hcovered.1]
      omega
    · rw [Function.update_of_ne hsource, h.other a hsource htarget]

/-- The journal as an undo log of the balances. -/
def balanceLog : UndoLog (Journal ε) (Address → U256) :=
  Journal.fundsLog.map fun funds a => (funds a).balance

variable [JournalTr J ε] [LawfulJournal J] {j : J} {checkpoints : List JournalCheckpoint}

/-- A call over a database that answers acts on the balances as its ledger event. -/
theorem balance_run (hanswers : (JournalTr.view j).database.Answers) (input : PrecompileInput) :
    (JournalTr.view (exitState ((run input).run j))).balance =
      if Permitted input then
        Ledger.move (JournalTr.view j).balance (sender input.data) (receiver input.data)
          (amount input.data)
      else (JournalTr.view j).balance := by
  have hreadable (address : Address) : (JournalTr.view j).Readable address :=
    fun _ => hanswers.basic address
  rcases run_cases input j with ⟨j', hrun, hsucceeds, hmoved⟩ | ⟨hfails, hsame, -⟩
  · rw [hrun, if_pos hsucceeds.1]
    exact eq_move_of_transferred hsucceeds.2.1 hmoved
  · rw [Journal.balance_of_info hsame]
    split
    · rename_i hpermitted
      have huncovered : ¬Covered (JournalTr.view j).balance (sender input.data)
          (receiver input.data) (amount input.data) :=
        fun hcovered => hfails ⟨hpermitted, hcovered, hreadable _, hreadable _⟩
      exact (if_neg huncovered).symm
    · rfl

/-- The balances that the journal and its open checkpoints show are those of the ledger. -/
structure Ledgered (base : Journal ε) (c : J × List JournalCheckpoint)
    (snapshots : Snapshots (Address → U256)) : Prop where
  balance_eq : (JournalTr.view c.1).balance = snapshots.1
  nested : balanceLog.Nested base (c.2.map JournalCheckpoint.journalI) snapshots.2
    (JournalTr.view c.1)

/-- One action acts on the ledger as its event. -/
theorem Ledgered.perform {base : Journal ε} {c : J × List JournalCheckpoint}
    {snapshots : Snapshots (Address → U256)} (hanswers : base.database.Answers)
    (h : Ledgered base c snapshots) (action : Action) :
    Ledgered base (action.perform c) (Snapshots.step action.event snapshots) := by
  obtain ⟨j, checkpoints⟩ := c
  obtain ⟨balance, saved⟩ := snapshots
  obtain ⟨hbalance, hnested⟩ := h
  dsimp only at hbalance hnested
  subst hbalance
  have hlogged {event : Event (Address → U256)} {j' : J}
      {checkpoints' : List JournalCheckpoint}
      (hstep : balanceLog.Step event
        (JournalTr.view j, checkpoints.map JournalCheckpoint.journalI)
        (JournalTr.view j', checkpoints'.map JournalCheckpoint.journalI)) :
      Ledgered base (j', checkpoints')
        (Snapshots.step event ((JournalTr.view j).balance, saved)) := by
    obtain ⟨saved', hsnapshots, hnested'⟩ := hnested.step hstep
    have hvalue : Snapshots.step event ((JournalTr.view j).balance, saved) =
      ((JournalTr.view j').balance, saved') := hsnapshots
    rw [hvalue]
    exact ⟨rfl, hnested'⟩
  cases action with
  | call input =>
    have htraced : Journal.Traced (JournalTr.view j)
        (JournalTr.view (exitState ((run input).run j))) := by
      rw [(run_simulates input).exitState_eq]
      exact traced_run input (JournalTr.view j)
    have hdatabase : (JournalTr.view j).database = base.database :=
      hnested.extends_base.database_eq
    refine hlogged (.change htraced ?_)
    exact balance_run (hdatabase ▸ hanswers) input
  | enter =>
    obtain ⟨j', hrun, hview⟩ := (LawfulJournal.checkpoint (J := J)).exists_ok
      (s := j) (a := ⟨(JournalTr.view j).inner.journal.length⟩) rfl
    have hperform : Action.enter.perform (j, checkpoints) =
        (j', ⟨(JournalTr.view j).inner.journal.length⟩ :: checkpoints) := by
      unfold Action.perform
      rw [hrun]
    rw [hperform]
    refine hlogged (.opened ?_ ?_)
    · rw [hview]
      exact Journal.traced_depth _ _
    · rw [hview]
      rfl
  | leave accepted =>
    cases checkpoints with
    | nil =>
      -- no frame is open
      cases hnested with
      | base hbase => cases accepted <;> exact ⟨rfl, .base hbase⟩
    | cons checkpoint rest =>
      cases accepted with
      | true =>
        have hview : JournalTr.view (exitState (JournalTr.checkpointCommit.run j)) =
            exitState (Journal.checkpointCommit.run (JournalTr.view j)) :=
          (LawfulJournal.checkpointCommit (J := J)).exitState_eq j
        refine hlogged ?_
        rw [hview]
        exact .committed (Journal.traced_depth _ _) rfl
      | false =>
        have hview : JournalTr.view (exitState ((JournalTr.checkpointRevert checkpoint).run j)) =
            (JournalTr.view j).revertTo checkpoint.journalI :=
          (LawfulJournal.checkpointRevert (J := J) checkpoint).exitState_eq j
        refine hlogged ?_
        rw [hview]
        exact .reverted

/-- Any actions act on the ledger as their events. -/
theorem Ledgered.performAll {base : Journal ε} {c : J × List JournalCheckpoint}
    {snapshots : Snapshots (Address → U256)} (hanswers : base.database.Answers)
    (h : Ledgered base c snapshots) (actions : List Action) :
    Ledgered base (actions.foldl Action.perform c)
      (Snapshots.run (actions.map Action.event) snapshots) := by
  induction actions generalizing c snapshots with
  | nil => exact h
  | cons action rest ih => exact ih (h.perform hanswers action)

/-- The ledger keeps the sum of all balances, in the frames that are open too. -/
theorem total_ledger {sum : Nat} {snapshots : Snapshots (Address → U256)}
    (h : snapshots.All fun balance => Ledger.total balance = sum) (actions : List Action) :
    (Snapshots.run (actions.map Action.event) snapshots).All fun balance =>
      Ledger.total balance = sum := by
  induction actions generalizing snapshots with
  | nil => exact h
  | cons action rest ih =>
    refine ih (h.step fun f hchange => ?_)
    cases action with
    | call input =>
      cases hchange
      dsimp only
      split
      · rw [Ledger.total_move_eq]
        exact h.1
      · exact h.1
    | enter => cases hchange
    | leave accepted => cases accepted <;> cases hchange

/-- **Transfers in frames.** Over a database that answers, any calls of the precompile in any
nesting of frames show the balances of the ledger that makes the covered moves of permitted
calls, saves its balances when a frame is entered and restores them when it is reverted. The
sum of all balances stays, with no bound on it. -/
theorem transfer_frames_ledger (j : J) (hanswers : (JournalTr.view j).database.Answers)
    (actions : List Action) :
    let c := actions.foldl Action.perform (j, [])
    (JournalTr.view c.1).balance =
        (Snapshots.run (actions.map Action.event) ((JournalTr.view j).balance, [])).1 ∧
      Ledger.total (JournalTr.view c.1).balance = Ledger.total (JournalTr.view j).balance := by
  intro c
  have hstart : Ledgered (JournalTr.view j) (j, []) ((JournalTr.view j).balance, []) :=
    ⟨rfl, .base (Journal.Traced.refl _)⟩
  have hend := hstart.performAll hanswers actions
  refine ⟨hend.balance_eq, ?_⟩
  rw [hend.balance_eq]
  exact (total_ledger ⟨rfl, fun _ hmem => absurd hmem List.not_mem_nil⟩ actions).1

/-- A transfer of 41 wei is kept by its frame and undone by the frame around it, and another
one stays. -/
theorem transfer_frames_ledger_sample :
    let actions : List Action := [.call sampleTransfer, .enter, .enter, .call sampleTransfer,
      .leave true, .leave false]
    let c := actions.foldl Action.perform (sampleTransferJournal, [])
    c.1.balance 3 = 59 ∧
      Ledger.total (JournalTr.view c.1).balance =
        Ledger.total (JournalTr.view sampleTransferJournal).balance := by
  intro actions c
  obtain ⟨hbalance, htotal⟩ := transfer_frames_ledger sampleTransferJournal
    ⟨fun _ => ⟨_, rfl⟩, fun _ _ => ⟨_, rfl⟩⟩ actions
  refine ⟨?_, htotal⟩
  have hthree := congrFun hbalance 3
  exact hthree.trans (by decide +kernel)

end TransferPrecompile

end ScrollRevm
