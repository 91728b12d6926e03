import ScrollRevm.Journal.Views

/-!
# The native transfer precompile

The precompile moves native balance between two arbitrary accounts for the native DOGE
token. The journal's transfer is not atomic where the receiver's balance overflows, so
the precompile checks the receiver first; this module shows that the check makes the
whole call atomic, and says exactly when the call succeeds.
-/

namespace ScrollRevm

open FixedWidth StateResult

/-- The native DOGE token address, the only caller allowed. -/
def nativeDogeTokenAddress : Address := 0x530000000000000000000000000000000000d09e

/-- The input of a precompile call. -/
structure PrecompileInput where
  data : Bytes
  gas : U64
  caller : Address
  /-- The value of the message. -/
  value : U256 := 0
  targetAddress : Address
  isStatic : Bool := false
  bytecodeAddress : Address
  deriving DecidableEq, Repr

/-- The code runs at its own address: neither a delegatecall nor a callcode. -/
def PrecompileInput.isDirectCall (input : PrecompileInput) : Bool :=
  input.targetAddress == input.bytecodeAddress

/-- Why a precompile failed. -/
inductive PrecompileError where
  | outOfGas
  | other (message : String)
  | fatal (message : String)
  deriving DecidableEq, Repr

/-- The output of a precompile. -/
structure PrecompileOutput where
  gasUsed : U64
  bytes : Bytes
  reverted : Bool
  deriving DecidableEq, Repr

namespace PrecompileOutput

def new (gasUsed : U64) (bytes : Bytes) : PrecompileOutput := ⟨gasUsed, bytes, false⟩
def newReverted (gasUsed : U64) (bytes : Bytes) : PrecompileOutput := ⟨gasUsed, bytes, true⟩

end PrecompileOutput

/-- The word of big-endian bytes. -/
def fromBeSlice (w : Nat) (bytes : Bytes) : BitVec w :=
  BitVec.ofNat w (bytes.foldl (fun acc byte => acc * 256 + byte.toNat) 0)

/-- The bytes from `first` to `last`, exclusively. -/
def slice (bytes : Bytes) (first last : Nat) : Bytes := (bytes.take last).drop first

namespace TransferPrecompile

/-- The gas cost of the precompile. -/
def gasCost : U64 := 9000

/-- Three parameters of 32 bytes each. -/
def callDataLength : Nat := 32 + 32 + 32

def sender (data : Bytes) : Address := fromBeSlice 160 (slice data 12 32)
def receiver (data : Bytes) : Address := fromBeSlice 160 (slice data 44 64)
def amount (data : Bytes) : U256 := fromBeSlice 256 (slice data 64 96)

section Run

variable {J ε : Type} [JournalTr J ε] [Repr ε]

/-- A journal operation whose errors are fatal to the call. -/
def internals {α : Type} (x : EStateM ε J α) : EStateM PrecompileError J α :=
  focus id (fun s _ => s)
    (fun dbError => .fatal ("transfer failed due to database error: " ++ reprStr dbError)) x

/-- Loads the receiver and checks that its balance can hold the value. -/
def receiverOverflows (source target : Address) (value : U256) :
    EStateM PrecompileError J Bool := do
  if source ≠ target then
    let account ← internals (JournalTr.loadAccount target)
    return (checkedAdd account.data.info.balance value).isNone
  else return false

/-- The move of the value, after the checks of the call. -/
def moveValue (source target : Address) (value : U256) :
    EStateM PrecompileError J PrecompileOutput := do
  if ← receiverOverflows source target value then
    return .newReverted gasCost []
  match ← internals (JournalTr.transfer source target value) with
  | none => return .new gasCost []
  | some _ => return .newReverted gasCost []

/-- The precompile. -/
def run (input : PrecompileInput) : EStateM PrecompileError J PrecompileOutput := do
  if input.isStatic then
    throw (.other "transfer precompile cannot be called in a static context")
  if !input.isDirectCall then
    throw (.other "transfer precompile must be called directly, not via delegatecall or callcode")
  if input.caller ≠ nativeDogeTokenAddress then
    throw (.other "transfer precompile can only be called by the allowed caller")
  if input.gas < gasCost then
    throw .outOfGas
  if input.data.length ≠ callDataLength then
    throw (.other "transfer precompile expects exactly 96 bytes of calldata")
  moveValue (sender input.data) (receiver input.data) (amount input.data)

/-- A sequence of calls, each on the state the one before left, however it ended. -/
def runAll (inputs : List PrecompileInput) (j : J) : J :=
  inputs.foldl (fun j input => exitState ((run input).run j)) j

end Run

/-! ## Moving the value -/

/-- The conditions on the balances. -/
def Covered (s : Address → U256) (source target : Address) (value : U256) : Prop :=
  value ≤ s source ∧ (source = target ∨ (s target).toNat + value.toNat < 2 ^ 256)

section Move

variable {ε : Type} [Repr ε] {s s' : Journal ε} {source target : Address} {value : U256}

theorem internals_ok {α : Type} {x : EStateM ε (Journal ε) α} {a : α}
    (h : (internals x).run s = .ok a s') : x.run s = .ok a s' := by
  obtain ⟨s₁, hrun, rfl⟩ := run_focus_eq_ok.mp h
  exact hrun

theorem internals_error {α : Type} {x : EStateM ε (Journal ε) α} {e : PrecompileError}
    (h : (internals x).run s = .error e s') : ∃ d, x.run s = .error d s' := by
  obtain ⟨d, s₁, hrun, -, rfl⟩ := run_focus_eq_error.mp h
  exact ⟨d, hrun⟩

/-- The check of the receiver shows no change and finds exactly the overflows. -/
theorem receiverOverflows_ok {overflows : Bool}
    (h : (receiverOverflows source target value).run s = .ok overflows s') :
    s'.info = s.info ∧ (s.Readable source ∧ s.Readable target ↔
        s'.Readable source ∧ s'.Readable target) ∧
      (overflows = false ↔
        source = target ∨ (s.balance target).toNat + value.toNat < 2 ^ 256) := by
  unfold receiverOverflows at h
  by_cases heq : source = target
  · rw [if_neg (not_not.mpr heq)] at h
    cases h
    exact ⟨rfl, Iff.rfl, fun _ => Or.inl heq, fun _ => rfl⟩
  · rw [if_pos heq] at h
    obtain ⟨account, s₁, hload, hret⟩ := run_bind_eq_ok.mp h
    cases hret
    have hloaded := internals_ok hload
    obtain ⟨-, hinfo, hsame, -⟩ := Journal.loadAccount_ok hloaded
    refine ⟨hsame, ?_, ?_⟩
    · rw [Journal.readable_loadAccount hloaded, Journal.readable_loadAccount hloaded]
    · rw [or_iff_right heq, Journal.balance, ← hinfo, ← not_le, ← checkedAdd_eq_none]
      cases checkedAdd account.data.info.balance value <;> simp

theorem receiverOverflows_error {e : PrecompileError}
    (h : (receiverOverflows source target value).run s = .error e s') :
    s' = s ∧ ¬s.Readable target := by
  unfold receiverOverflows at h
  split at h
  · rcases run_bind_eq_error.mp h with hload | ⟨_, _, _, hret⟩
    · obtain ⟨d, hloaded⟩ := internals_error hload
      exact ⟨(Journal.loadAccount_error hloaded).1,
        Journal.not_readable_of_loadAccount_error hloaded⟩
    · cases hret
  · cases h

/-- A call past its checks moves a covered value, and otherwise reverts without a change. -/
theorem moveValue_ok {output : PrecompileOutput}
    (h : (moveValue source target value).run s = .ok output s') :
    (output = .new gasCost [] ∧ Covered s.balance source target value ∧
        (s.Readable source ∧ s.Readable target) ∧
        Journal.Transferred s.balance s'.balance source target value) ∨
      (output = .newReverted gasCost [] ∧ ¬Covered s.balance source target value ∧
        s'.info = s.info) := by
  obtain ⟨overflows, s₁, hcheck, h₁⟩ := run_bind_eq_ok.mp h
  obtain ⟨hsame, hreadable, hoverflows⟩ := receiverOverflows_ok hcheck
  cases overflows with
  | true =>
    cases h₁
    exact Or.inr ⟨rfl, fun hcovered => Bool.noConfusion (hoverflows.mpr hcovered.2), hsame⟩
  | false =>
    have hroom := hoverflows.mp rfl
    rw [if_neg Bool.false_ne_true] at h₁
    obtain ⟨r, s₂, htransfer, hret⟩ := run_bind_eq_ok.mp h₁
    have hrun := internals_ok htransfer
    have houtcome := Journal.transfer_ok hrun
    rw [hsame] at houtcome
    have hfst : r = (Journal.transferOutcome s.info source target value).1 :=
      congrArg Prod.fst houtcome
    have hsnd : s₂.info = (Journal.transferOutcome s.info source target value).2 :=
      congrArg Prod.snd houtcome
    cases r with
    | none =>
      cases hret
      refine Or.inl ⟨rfl, Journal.transferOutcome_fst_eq_none.mp hfst.symm,
        hreadable.mpr (Journal.readable_of_transfer_ok hrun), ?_⟩
      have hmoved := Journal.transferOutcome_transferred hfst.symm
      rw [← hsnd] at hmoved
      exact hmoved
    | some e =>
      cases hret
      have hrefused : (Journal.transferOutcome s.info source target value).1 ≠ none := by
        rw [← hfst]
        exact Option.some_ne_none e
      refine Or.inr ⟨rfl, fun hcovered => ?_, ?_⟩
      · exact hrefused (Journal.transferOutcome_fst_eq_none.mpr hcovered)
      · rw [hsnd, Journal.transferOutcome_snd_of_ne_none hroom hrefused]

/-- A call past its checks fails only where an account cannot be read. -/
theorem moveValue_error {e : PrecompileError}
    (h : (moveValue source target value).run s = .error e s') :
    s'.info = s.info ∧ ¬(s.Readable source ∧ s.Readable target) := by
  rcases run_bind_eq_error.mp h with hcheck | ⟨overflows, s₁, hcheck, h₁⟩
  · obtain ⟨rfl, hunreadable⟩ := receiverOverflows_error hcheck
    exact ⟨rfl, fun hreadable => hunreadable hreadable.2⟩
  obtain ⟨hsame, hreadable, -⟩ := receiverOverflows_ok hcheck
  split at h₁
  · cases h₁
  rcases run_bind_eq_error.mp h₁ with htransfer | ⟨r, s₂, -, hret⟩
  · obtain ⟨d, hrun⟩ := internals_error htransfer
    obtain ⟨hunchanged, hunreadable⟩ := Journal.transfer_error hrun
    rw [hreadable]
    exact ⟨hunchanged.trans hsame, hunreadable⟩
  · cases r <;> cases hret

/-- A call past its checks raises no nonce. -/
theorem moveValue_nonce {output : PrecompileOutput}
    (h : (moveValue source target value).run s = .ok output s') : s'.nonce = s.nonce := by
  obtain ⟨overflows, s₁, hcheck, h₁⟩ := run_bind_eq_ok.mp h
  obtain ⟨hsame, -, -⟩ := receiverOverflows_ok hcheck
  rw [← Journal.nonce_of_info hsame]
  split at h₁
  · cases h₁
    rfl
  · obtain ⟨r, s₂, htransfer, hret⟩ := run_bind_eq_ok.mp h₁
    ext1 a
    have hnonce := Journal.transfer_nonce (internals_ok htransfer) a
    cases r <;> cases hret <;> exact hnonce

end Move

/-! ## The whole call -/

/-- The checks on the call itself; neither the padding of the parameters nor the value of
the message is among them. -/
structure Permitted (input : PrecompileInput) : Prop where
  nonStatic : input.isStatic = false
  direct : input.targetAddress = input.bytecodeAddress
  caller : input.caller = nativeDogeTokenAddress
  gas : gasCost ≤ input.gas
  data : input.data.length = 96

section Call

variable {J ε : Type} [JournalTr J ε] [Repr ε] {input : PrecompileInput}

theorem run_of_permitted (h : Permitted input) :
    run (J := J) input =
      moveValue (sender input.data) (receiver input.data) (amount input.data) := by
  have hdirect : input.isDirectCall = true := beq_iff_eq.mpr h.direct
  have hdata : ¬input.data.length ≠ callDataLength := not_not.mpr h.data
  unfold run
  rw [h.nonStatic, hdirect, if_neg Bool.false_ne_true, Bool.not_true,
    if_neg Bool.false_ne_true, if_neg (not_not.mpr h.caller), if_neg (BitVec.not_lt.mpr h.gas),
    if_neg hdata]

/-- A call that is not permitted fails before it reads the state. -/
theorem run_of_not_permitted (h : ¬Permitted input) :
    ∃ e, ∀ j : J, (run input).run j = .error e j := by
  unfold run
  cases hstatic : input.isStatic with
  | true => exact ⟨_, fun _ => rfl⟩
  | false =>
  rw [if_neg Bool.false_ne_true]
  cases hdirect : input.isDirectCall with
  | false => exact ⟨_, fun _ => rfl⟩
  | true =>
  rw [Bool.not_true, if_neg Bool.false_ne_true]
  by_cases hcaller : input.caller = nativeDogeTokenAddress
  swap
  · rw [if_pos hcaller]
    exact ⟨_, fun _ => rfl⟩
  rw [if_neg (not_not.mpr hcaller)]
  by_cases hgas : input.gas < gasCost
  · rw [if_pos hgas]
    exact ⟨_, fun _ => rfl⟩
  rw [if_neg hgas]
  by_cases hdata : input.data.length = callDataLength
  · exact absurd ⟨hstatic, beq_iff_eq.mp hdirect, hcaller, BitVec.not_lt.mp hgas, hdata⟩ h
  · rw [if_pos hdata]
    exact ⟨_, fun _ => rfl⟩

variable [LawfulJournal J]

/-- The call over a lawful journal acts on its records as over the documented one. -/
theorem run_simulates (input : PrecompileInput) :
    Simulates JournalTr.view (run (J := J) input) (run (J := Journal ε) input) := by
  have hoverflows (source target : Address) (value : U256) :
      Simulates JournalTr.view (receiverOverflows (J := J) source target value)
        (receiverOverflows (J := Journal ε) source target value) :=
    .ite (((LawfulJournal.loadAccount target).mapError _).bind fun _ => .pure _ _) (.pure _ _)
  have hmove (source target : Address) (value : U256) :
      Simulates JournalTr.view (moveValue (J := J) source target value)
        (moveValue (J := Journal ε) source target value) := by
    refine (hoverflows source target value).bind fun overflows => .ite (.pure _ _) ?_
    refine ((LawfulJournal.transfer source target value).mapError _).bind fun r => ?_
    cases r with
    | none => exact .pure _ _
    | some e => exact .pure _ _
  exact .guard (.guard (.guard (.guard (.guard (hmove _ _ _)))))

/-- The conditions under which the call moves its value: it is permitted, the balances
allow the move, and both accounts can be read. -/
def Succeeds (s : Journal ε) (input : PrecompileInput) : Prop :=
  Permitted input ∧
    Covered s.balance (sender input.data) (receiver input.data) (amount input.data) ∧
    s.Readable (sender input.data) ∧ s.Readable (receiver input.data)

/-- The call moves its value under its conditions, and otherwise ends with an error or a
reverted output and shows no change. -/
theorem run_cases (input : PrecompileInput) (j : J) :
    (∃ j', (run input).run j = .ok (.new gasCost []) j' ∧ Succeeds (JournalTr.view j) input ∧
        Journal.Transferred (JournalTr.view j).balance (JournalTr.view j').balance
          (sender input.data) (receiver input.data) (amount input.data)) ∨
      (¬Succeeds (JournalTr.view j) input ∧
        (JournalTr.view (exitState ((run input).run j))).info = (JournalTr.view j).info ∧
        ((∃ e j', (run input).run j = .error e j') ∨
          ∃ j', (run input).run j = .ok (.newReverted gasCost []) j')) := by
  by_cases hpermitted : Permitted input
  swap
  · obtain ⟨e, hrun⟩ := run_of_not_permitted (J := J) hpermitted
    rw [hrun j]
    exact Or.inr ⟨fun h => hpermitted h.1, rfl, Or.inl ⟨e, j, rfl⟩⟩
  cases hrun : (run input).run j with
  | ok output j' =>
    have hview := (run_simulates input).ok hrun
    rw [run_of_permitted hpermitted] at hview
    rcases moveValue_ok hview with ⟨rfl, hcovered, hreadable, hmoved⟩ | ⟨rfl, hno, hsame⟩
    · exact Or.inl ⟨j', rfl, ⟨hpermitted, hcovered, hreadable⟩, hmoved⟩
    · exact Or.inr ⟨fun h => hno h.2.1, hsame, Or.inr ⟨j', rfl⟩⟩
  | error e j' =>
    have hview := (run_simulates input).error hrun
    rw [run_of_permitted hpermitted] at hview
    obtain ⟨hsame, hunreadable⟩ := moveValue_error hview
    exact Or.inr ⟨fun h => hunreadable h.2.2, hsame, Or.inl ⟨e, j', rfl⟩⟩

/-- One call keeps the sum of all balances, however it ends. -/
theorem total_run (input : PrecompileInput) (j : J) :
    Ledger.total (JournalTr.view (exitState ((run input).run j))).balance =
      Ledger.total (JournalTr.view j).balance := by
  rcases run_cases input j with ⟨j', hrun, -, hmoved⟩ | ⟨-, hsame, -⟩
  · rw [hrun, exitState_ok]
    exact hmoved.total_eq
  · rw [Journal.balance_of_info hsame]

/-- One call raises no nonce, however it ends. -/
theorem nonce_run (input : PrecompileInput) (j : J) :
    (JournalTr.view (exitState ((run input).run j))).nonce = (JournalTr.view j).nonce := by
  rw [(run_simulates input).exitState_eq]
  by_cases hpermitted : Permitted input
  swap
  · obtain ⟨e, hrun⟩ := run_of_not_permitted (J := Journal ε) hpermitted
    rw [hrun]
    rfl
  rw [run_of_permitted hpermitted]
  cases hmove : (moveValue (sender input.data) (receiver input.data) (amount input.data)).run
      (JournalTr.view j) with
  | ok output s' => exact moveValue_nonce hmove
  | error e s' => exact Journal.nonce_of_info (moveValue_error hmove).1

/-- Any sequence of calls keeps the sum of all balances. -/
theorem total_runAll (inputs : List PrecompileInput) (j : J) :
    Ledger.total (JournalTr.view (runAll inputs j)).balance =
      Ledger.total (JournalTr.view j).balance := by
  induction inputs generalizing j with
  | nil => rfl
  | cons input rest ih => exact (ih _).trans (total_run input j)

end Call

end TransferPrecompile

open TransferPrecompile in
/-- The transfer precompile moves exactly its value under exactly its conditions, changes no
balance in every other case, and so keeps the sum of all balances over any calls. -/
theorem transfer_precompile_exact {J ε : Type} [JournalTr J ε] [Repr ε] [LawfulJournal J]
    (j : J) :
    (∀ input : PrecompileInput,
      (Succeeds (JournalTr.view j) input →
        ∃ j', (run input).run j = .ok (.new 9000 []) j' ∧
          Journal.Transferred (JournalTr.view j).balance (JournalTr.view j').balance
            (sender input.data) (receiver input.data) (amount input.data)) ∧
      (¬Succeeds (JournalTr.view j) input →
        ((∃ e j', (run input).run j = .error e j') ∨
          ∃ output j', (run input).run j = .ok output j' ∧ output.reverted = true) ∧
        ∀ a, (JournalTr.view (exitState ((run input).run j))).balance a =
          (JournalTr.view j).balance a)) ∧
      ∀ inputs, Ledger.total (JournalTr.view (runAll inputs j)).balance =
        Ledger.total (JournalTr.view j).balance := by
  refine ⟨fun input => ?_, fun inputs => total_runAll inputs j⟩
  rcases run_cases input j with ⟨j', hrun, hsucceeds, hmoved⟩ | ⟨hfails, hsame, hended⟩
  · exact ⟨fun _ => ⟨j', hrun, hmoved⟩, fun h => absurd hsucceeds h⟩
  · refine ⟨fun h => absurd h hfails, fun _ => ⟨?_, fun a => ?_⟩⟩
    · rcases hended with herror | ⟨j', hreverted⟩
      · exact Or.inl herror
      · exact Or.inr ⟨_, j', hreverted, rfl⟩
    · rw [Journal.balance_of_info hsame]

/-- A call by the token that moves 41 wei from account 3 to account 4. Its padding is not
zero. -/
def sampleTransfer : PrecompileInput where
  data := List.replicate 12 255 ++ List.replicate 19 0 ++ [3] ++ List.replicate 12 255 ++
    List.replicate 19 0 ++ [4] ++ List.replicate 31 0 ++ [41]
  gas := 9000
  caller := nativeDogeTokenAddress
  value := 5
  targetAddress := 0x20
  bytecodeAddress := 0x20

/-- A database with 100 wei on account 3 and 7 wei on account 4. -/
def sampleTransferJournal : Journal Unit where
  database :=
    { basic := fun address =>
        .ok (if address = 3 then some { balance := 100 }
          else if address = 4 then some { balance := 7 } else none)
      storage := fun _ _ => .ok 0 }

theorem sampleTransfer_parameters :
    TransferPrecompile.sender sampleTransfer.data = 3 ∧
      TransferPrecompile.receiver sampleTransfer.data = 4 ∧
      TransferPrecompile.amount sampleTransfer.data = 41 := by
  decide

theorem transfer_precompile_exact_sample :
    ∃ j', (TransferPrecompile.run sampleTransfer).run sampleTransferJournal =
        .ok (.new 9000 []) j' ∧
      (j'.balance 3).toNat = 59 ∧ (j'.balance 4).toNat = 48 ∧
      Ledger.total (JournalTr.view (TransferPrecompile.runAll [sampleTransfer, sampleTransfer]
          sampleTransferJournal)).balance =
        Ledger.total (JournalTr.view sampleTransferJournal).balance := by
  obtain ⟨hsender, hreceiver, hamount⟩ := sampleTransfer_parameters
  obtain ⟨hcall, htotal⟩ := transfer_precompile_exact sampleTransferJournal
  have hcovered : TransferPrecompile.Covered sampleTransferJournal.balance
      (TransferPrecompile.sender sampleTransfer.data)
      (TransferPrecompile.receiver sampleTransfer.data)
      (TransferPrecompile.amount sampleTransfer.data) := by
    rw [hsender, hreceiver, hamount]
    exact ⟨by decide, Or.inr (by decide)⟩
  obtain ⟨j', hrun, hmoved⟩ := (hcall sampleTransfer).1
    ⟨⟨rfl, rfl, rfl, by decide, rfl⟩, hcovered, fun _ => ⟨_, rfl⟩, fun _ => ⟨_, rfl⟩⟩
  rw [hsender, hreceiver, hamount] at hmoved
  have hdebit : (j'.balance 3).toNat + 41 = 100 := hmoved.debit (by decide)
  have hcredit : (j'.balance 4).toNat = 7 + 41 := hmoved.credit (by decide)
  exact ⟨j', hrun, by omega, hcredit, htotal _⟩

end ScrollRevm
