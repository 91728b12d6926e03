import ScrollRevm.Journal.Transient
import ScrollRevm.Lib.Ledger

/-!
# What frames do to the funds

The frames of a transaction act on the journal through its operations: they change what the
log undoes, they move balances by transfers, and they open, commit and revert checkpoints.
Whatever they do, the sum of all balances stays, no nonce is lowered, and the log undoes it.
-/

namespace ScrollRevm

open FixedWidth StateResult

variable {ε : Type} {s s' t : Journal ε}

namespace Journal

/-- The second journal was reached from the first by changes that the log undoes. The touch of
one precompile survives a revert, and with it the storage a commit would write. -/
structure Traced (s s' : Journal ε) : Prop where
  recorded : ∀ address, Recorded address s s'
  logged : ∀ address, address ≠ precompile3 → Logged address s s'

theorem Traced.refl (s : Journal ε) : Traced s s :=
  ⟨fun address => .refl address s, fun address _ => .refl address s⟩

theorem Traced.trans (h : Traced s s') (h' : Traced s' t) : Traced s t :=
  ⟨fun address => (h.recorded address).trans (h'.recorded address),
    fun address hne => (h.logged address hne).trans (h'.logged address hne)⟩

theorem Traced.database_eq (h : Traced s s') : s'.database = s.database :=
  (h.recorded 0).database_eq

/-- A change that is recorded and shows the same storage of every account. -/
theorem Traced.of_quiet (hrecorded : ∀ address, Recorded address s s')
    (hquiet : ∀ address, Quiet address s s') : Traced s s' :=
  ⟨hrecorded, fun address _ => (hquiet address).toLogged⟩

/-- A computation that is recorded and shows the same storage of every account. -/
theorem traced_exits {ε' α : Type} {x : EStateM ε' (Journal ε) α}
    (hrecorded : ∀ address, IsRecorded address x) (hquiet : ∀ address, IsQuiet address x) :
    Exits Traced x :=
  fun s => .of_quiet (fun address => hrecorded address s) fun address => hquiet address s

/-- Bumping a nonce moves no balance and lowers no nonce. -/
theorem bump_funds {address : Address}
    (h : s'.info = Function.update s.info address (s.info address).bump) :
    s'.balance = s.balance ∧ ∀ a, s.nonce a ≤ s'.nonce a := by
  have hinfo (a : Address) : s'.info a = if a = address then (s.info a).bump else s.info a := by
    rw [h, Function.update_apply]
    split
    · rename_i ha
      rw [ha]
    · rfl
  refine ⟨funext fun a => ?_, fun a => ?_⟩
  · rw [balance, balance, hinfo a]
    split <;> rfl
  · rw [nonce, nonce, hinfo a]
    split
    · exact AccountInfo.nonce_le_bump _
    · exact BitVec.le_refl _

theorem traced_depth (s : Journal ε) (depth : Nat) :
    Traced s { s with inner := { s.inner with depth := depth } } := by
  refine .of_quiet (fun address => ?_) fun address => quiet_depth address s depth
  exact .of_eq rfl (List.append_nil _).symm (fun _ h => nomatch h) rfl id

/-- The journal is an undo log of the funds of all accounts. -/
def fundsLog : UndoLog (Journal ε) (Address → Funds) where
  value s := s.funds
  position s := s.inner.journal.length
  Extends := Traced
  revert n s := s.revertTo n
  refl := Traced.refl
  trans := Traced.trans
  value_revert h := funext fun address => (h.recorded address).covers_revertTo.funds_eq
  extends_revert h h' :=
    ⟨fun address => (h.recorded address).revertTo (h'.recorded address),
      fun address hne => (h.logged address hne).revertTo (h'.logged address hne) hne⟩

/-- The second journal shows the balances, nonces and storage of the first, the transient one
too, aside from the storage of the precompile whose touch survives a revert. -/
structure ShowsSame (s t : Journal ε) : Prop where
  balance_eq : t.balance = s.balance
  nonce_eq : t.nonce = s.nonce
  storageAt_eq : ∀ address, address ≠ precompile3 → t.storageAt address = s.storageAt address
  transientStorage_eq : t.inner.transientStorage = s.inner.transientStorage

/-- A revert of traced changes shows what the journal showed before them. -/
theorem Traced.showsSame_revertTo (h : Traced s t) :
    ShowsSame s (t.revertTo s.inner.journal.length) := by
  have hfunds (address : Address) :
      (t.revertTo s.inner.journal.length).funds address = s.funds address :=
    (h.recorded address).covers_revertTo.funds_eq
  constructor
  · exact funext fun address => congrArg Funds.balance (hfunds address)
  · exact funext fun address => congrArg Funds.nonce (hfunds address)
  · intro address hne
    exact congrArg StorageView.storage ((h.logged address hne).storageView_revertTo hne)
  · exact (h.logged 0 (by decide)).transient_revertTo

/-- A write of transient storage is traced. -/
theorem traced_tstore (s : Journal ε) (address : Address) (key value : U256) :
    Traced s (s.tstore address key value) :=
  .of_quiet (fun other => recorded_tstore other address s key value)
    fun other => quiet_tstore other address s key value

/-- A transfer whose credit has room is traced. -/
theorem traced_transfer_of_room {source target : Address} {amount : U256}
    (hroom : source ≠ target → amount ≤ s.balance source →
      (s.balance target).toNat + amount.toNat < 2 ^ 256) :
    Traced s (exitState ((transfer source target amount).run s)) :=
  .of_quiet (fun _ => recorded_transfer hroom) fun address => isQuiet_transfer address _ _ _ s

/-- A transfer is traced where the sum of all balances fits in a word. -/
theorem traced_transfer {source target : Address} {amount : U256} {r : Option TransferError}
    (hlt : Ledger.total s.balance < 2 ^ 256)
    (h : (transfer source target amount).run s = .ok r t) : Traced s t := by
  have htraced : Traced s (exitState ((transfer source target amount).run s)) := by
    refine traced_transfer_of_room fun hne hle => ?_
    have hpair := Ledger.toNat_add_le_total s.balance hne
    rw [BitVec.le_def] at hle
    omega
  rwa [h] at htraced

/-- A transfer keeps the sum of all balances where it fits in a word. -/
theorem transfer_total {source target : Address} {amount : U256} {r : Option TransferError}
    (hlt : Ledger.total s.balance < 2 ^ 256)
    (h : (transfer source target amount).run s = .ok r t) :
    Ledger.total t.balance = Ledger.total s.balance := by
  have houtcome := transfer_ok h
  have hinfo := congrArg Prod.snd houtcome
  dsimp only at hinfo
  cases hresult : (transferOutcome s.info source target amount).1 with
  | none =>
    have hmoved := transferOutcome_transferred hresult
    rw [← hinfo] at hmoved
    exact hmoved.total_eq
  | some e =>
    have hsame : t.info = s.info := by
      by_cases hcovered : amount ≤ s.balance source
      · have hroom : source = target ∨ (s.balance target).toNat + amount.toNat < 2 ^ 256 := by
          by_cases heq : source = target
          · exact Or.inl heq
          · have hpair := Ledger.toNat_add_le_total s.balance heq
            rw [BitVec.le_def] at hcovered
            exact Or.inr (by omega)
        rw [hinfo]
        refine transferOutcome_snd_of_ne_none hroom ?_
        rw [hresult]
        exact Option.some_ne_none e
      · rw [hinfo, transferOutcome_of_lt (BitVec.not_le.mp hcovered)]
    rw [balance_of_info hsame]

end Journal

/-! ## The operations of frames -/

/-- One thing the frames of a transaction do to the journal and to the open checkpoints, the
last one first. -/
inductive FundsStep : Journal ε × List JournalCheckpoint → Journal ε × List JournalCheckpoint →
    Prop
  /-- Anything the log undoes but a movement of balance: accesses, writes of storage and code,
  raised nonces. -/
  | changed {s t : Journal ε} {checkpoints : List JournalCheckpoint} (h : Journal.Traced s t)
      (hbalance : t.balance = s.balance) (hnonce : ∀ a, s.nonce a ≤ t.nonce a) :
    FundsStep (s, checkpoints) (t, checkpoints)
  | transferred {s t : Journal ε} {checkpoints : List JournalCheckpoint}
      {source target : Address} {amount : U256} {r : Option TransferError}
      (h : (Journal.transfer source target amount).run s = .ok r t) :
    FundsStep (s, checkpoints) (t, checkpoints)
  | checkpoint {s t : Journal ε} {checkpoints : List JournalCheckpoint}
      {opened : JournalCheckpoint} (h : Journal.checkpoint.run s = .ok opened t) :
    FundsStep (s, checkpoints) (t, opened :: checkpoints)
  | checkpointCommit {s t : Journal ε} {checkpoints : List JournalCheckpoint}
      {opened : JournalCheckpoint} (h : Journal.checkpointCommit.run s = .ok () t) :
    FundsStep (s, opened :: checkpoints) (t, checkpoints)
  | checkpointRevert {s t : Journal ε} {checkpoints : List JournalCheckpoint}
      {opened : JournalCheckpoint} (h : (Journal.checkpointRevert opened).run s = .ok () t) :
    FundsStep (s, opened :: checkpoints) (t, checkpoints)

/-- The funds hold the given sum and no nonce is below the given ones. -/
structure FundsAbove (sum : Nat) (nonce : Address → U64) (funds : Address → Funds) : Prop where
  total_eq : Ledger.total (fun a => (funds a).balance) = sum
  nonce_le : ∀ a, nonce a ≤ (funds a).nonce

/-- An operation of a frame is one of the log, and a change keeps the sum and lowers no
nonce. -/
theorem FundsStep.step {sum : Nat} {nonce : Address → U64} (hsum : sum < 2 ^ 256)
    {c c' : Journal ε × List JournalCheckpoint} (h : FundsStep c c')
    (hfunds : FundsAbove sum nonce c.1.funds) :
    ∃ event, Journal.fundsLog.Step event (c.1, c.2.map JournalCheckpoint.journalI)
        (c'.1, c'.2.map JournalCheckpoint.journalI) ∧
      ∀ f, event = .change f → FundsAbove sum nonce (f c.1.funds) := by
  cases h with
  | @changed s t _ htraced hbalance hnonce =>
    refine ⟨.change fun _ => t.funds, .change htraced rfl, fun f heq => ?_⟩
    cases heq
    have hbalances : (fun a => (t.funds a).balance) = fun a => (s.funds a).balance := hbalance
    refine ⟨by rw [hbalances, hfunds.total_eq], fun a => ?_⟩
    exact BitVec.le_trans (hfunds.nonce_le a) (hnonce a)
  | @transferred s t _ source target amount r hrun =>
    have hlt : Ledger.total s.balance < 2 ^ 256 := hfunds.total_eq ▸ hsum
    refine ⟨.change fun _ => t.funds, .change (Journal.traced_transfer hlt hrun) rfl,
      fun f heq => ?_⟩
    cases heq
    refine ⟨(Journal.transfer_total hlt hrun).trans hfunds.total_eq, fun a => ?_⟩
    have hnonce : (t.funds a).nonce = (s.funds a).nonce := Journal.transfer_nonce hrun a
    rw [hnonce]
    exact hfunds.nonce_le a
  | @checkpoint s _ _ _ hrun =>
    cases hrun
    exact ⟨.opened, .opened (Journal.traced_depth s _) rfl, fun f heq => nomatch heq⟩
  | @checkpointCommit s _ _ _ hrun =>
    cases hrun
    exact ⟨.committed, .committed (Journal.traced_depth s _) rfl, fun f heq => nomatch heq⟩
  | checkpointRevert hrun =>
    cases hrun
    exact ⟨.reverted, .reverted, fun f heq => nomatch heq⟩

/-- An operation of a frame is one of the log of the storage of an account. -/
theorem FundsStep.logged_step {address : Address} (haddress : address ≠ precompile3)
    {c c' : Journal ε × List JournalCheckpoint} (h : FundsStep c c') :
    ∃ event, (Journal.undoLog address haddress).Step event
      (c.1, c.2.map JournalCheckpoint.journalI) (c'.1, c'.2.map JournalCheckpoint.journalI) := by
  cases h with
  | @changed s t _ htraced hbalance hnonce =>
    exact ⟨.change fun _ => t.storageAt address, .change (htraced.logged address haddress) rfl⟩
  | @transferred s t _ source target amount r hrun =>
    have hquiet := (Journal.isQuiet_transfer address source target amount).ok hrun
    exact ⟨.change fun _ => t.storageAt address, .change hquiet.toLogged rfl⟩
  | @checkpoint s _ _ _ hrun =>
    cases hrun
    exact ⟨.opened, .opened (Journal.quiet_depth address s _).toLogged rfl⟩
  | @checkpointCommit s _ _ _ hrun =>
    cases hrun
    exact ⟨.committed, .committed (Journal.quiet_depth address s _).toLogged rfl⟩
  | checkpointRevert hrun =>
    cases hrun
    exact ⟨.reverted, .reverted⟩

/-- What frames do is logged, whatever the balances are. -/
theorem fundsStep_logged {address : Address} (haddress : address ≠ precompile3)
    {checkpoints : List JournalCheckpoint}
    (h : Relation.ReflTransGen FundsStep (s, []) (t, checkpoints)) :
    Journal.Logged address s t := by
  suffices hnested : ∀ c : Journal ε × List JournalCheckpoint,
      Relation.ReflTransGen FundsStep (s, []) c → ∃ saved,
        (Journal.undoLog address haddress).Nested s (c.2.map JournalCheckpoint.journalI) saved
          c.1 by
    obtain ⟨saved, hnested⟩ := hnested _ h
    exact hnested.extends_base
  intro c hrun
  induction hrun with
  | refl => exact ⟨[], .base (Journal.Logged.refl address s)⟩
  | tail _ hstep ih =>
    obtain ⟨saved, hnested⟩ := ih
    obtain ⟨event, hevent⟩ := hstep.logged_step haddress
    obtain ⟨saved', -, hnested'⟩ := hnested.step hevent
    exact ⟨saved', hnested'⟩

/-- What frames do is traced, keeps the sum of all balances and lowers no nonce. -/
theorem fundsStep_run {sum : Nat} {nonce : Address → U64} (hsum : sum < 2 ^ 256)
    {checkpoints : List JournalCheckpoint} (hfunds : FundsAbove sum nonce s.funds)
    (h : Relation.ReflTransGen FundsStep (s, []) (t, checkpoints)) :
    Journal.Traced s t ∧ FundsAbove sum nonce t.funds := by
  -- every open checkpoint is one of funds with the same sum and nonces
  suffices hnested : ∀ c : Journal ε × List JournalCheckpoint,
      Relation.ReflTransGen FundsStep (s, []) c →
        ∃ saved, Journal.fundsLog.Nested s (c.2.map JournalCheckpoint.journalI) saved c.1 ∧
          UndoLog.Snapshots.All (FundsAbove sum nonce) (c.1.funds, saved) by
    obtain ⟨saved, hnested, hall⟩ := hnested _ h
    exact ⟨hnested.extends_base, hall.1⟩
  intro c hrun
  induction hrun with
  | refl => exact ⟨[], .base (Journal.Traced.refl s), hfunds, fun _ h => nomatch h⟩
  | tail _ hstep ih =>
    obtain ⟨saved, hnested, hall⟩ := ih
    obtain ⟨event, hevent, hchange⟩ := hstep.step hsum hall.1
    exact hnested.step_all hevent hall hchange

/-! ## Computations of frames -/

section Computations

variable {ε' α β : Type}

/-- A computation that does what frames do and leaves the open checkpoints. -/
abbrev FundsExits (x : EStateM ε' (Journal ε) α) : Prop :=
  ∀ checkpoints, Exits (fun s t => Relation.ReflTransGen FundsStep (s, checkpoints)
    (t, checkpoints)) x

theorem FundsExits.pure (a : α) : FundsExits (Pure.pure a : EStateM ε' (Journal ε) α) :=
  fun _ _ => .refl

theorem FundsExits.bind {x : EStateM ε' (Journal ε) α} {f : α → EStateM ε' (Journal ε) β}
    (hx : FundsExits x) (hf : ∀ a, FundsExits (f a)) : FundsExits (x >>= f) :=
  fun checkpoints =>
    Exits.bind (fun _ _ _ h h' => h.trans h') (hx checkpoints) fun a => hf a checkpoints

/-- Converting errors. -/
theorem FundsExits.mapError {x : EStateM ε' (Journal ε) α} {ε'' : Type} (h : FundsExits x)
    (convert : ε' → ε'') : FundsExits (focus id (fun s _ => s) convert x) :=
  fun checkpoints => (h checkpoints).focus fun _ _ => rfl

/-- A traced operation that changes no information. -/
theorem FundsExits.of_info {x : EStateM ε' (Journal ε) α} (htraced : Exits Journal.Traced x)
    (hinfo : ∀ s, (exitState (x.run s)).info = s.info) : FundsExits x := by
  intro checkpoints s
  refine .single (.changed (htraced s) (Journal.balance_of_info (hinfo s)) fun a => ?_)
  rw [Journal.nonce, Journal.nonce, hinfo s]
  exact BitVec.le_refl _

theorem fundsExits_loadAccount (address : Address) :
    FundsExits (Journal.loadAccount (ε := ε) address) := by
  refine .of_info (Journal.traced_exits (Journal.isRecorded_loadAccount · address)
    (Journal.isQuiet_loadAccount · address)) fun s => ?_
  cases hrun : (Journal.loadAccount address).run s with
  | ok load t => exact (Journal.loadAccount_ok hrun).2.2.1
  | error e t =>
    rw [(Journal.loadAccount_error hrun).1]
    rfl

theorem fundsExits_loadAccountMut (address : Address) :
    FundsExits (Journal.loadAccountMut (ε := ε) address) :=
  (fundsExits_loadAccount address).bind fun _ => .pure _

theorem fundsExits_transfer (source target : Address) (amount : U256) :
    FundsExits (Journal.transfer (ε := ε) source target amount) := by
  intro checkpoints s
  cases hrun : (Journal.transfer source target amount).run s with
  | ok r t => exact .single (.transferred hrun)
  | error e t =>
    -- only the two loads can fail
    have hsourceLoad := fundsExits_loadAccount (ε := ε) source checkpoints
    have htargetLoad := fundsExits_loadAccount (ε := ε) target checkpoints
    rcases run_bind_eq_error.mp hrun with hsource | ⟨debited, s₁, hsource, h₁⟩
    · exact hsourceLoad.error hsource
    rcases run_bind_eq_error.mp h₁ with htarget | ⟨credited, s₂, htarget, h₂⟩
    · exact (hsourceLoad.ok hsource).trans (htargetLoad.error htarget)
    · obtain ⟨hstate₁, -⟩ := Journal.loadAccount_ok hsource
      obtain ⟨hstate₂, -⟩ := Journal.loadAccount_ok htarget
      obtain ⟨account, hcached⟩ := Journal.loadAccount_keeps htarget hstate₁
      obtain ⟨r, s₃, hmove, -⟩ := Journal.transferLoaded_run hcached hstate₂ amount
      cases hmove.symm.trans h₂

theorem fundsExits_bumpNonce (address : Address) :
    FundsExits (Journal.bumpNonce (ε := ε) address) := by
  intro checkpoints s
  have htraced : Journal.Traced s (exitState ((Journal.bumpNonce address).run s)) :=
    Journal.traced_exits (Journal.isRecorded_bumpNonce · address)
      (Journal.isQuiet_bumpNonce · address) s
  cases hstate : s.inner.state address with
  | none =>
    have hrun : (Journal.bumpNonce address).run s = .ok false s := by
      change Journal.bumpNonce address s = _
      unfold Journal.bumpNonce Journal.modifyAccount
      rw [hstate]
    rw [hrun]
    exact .refl
  | some account =>
    obtain ⟨bumped, t, hrun, -, -, hinfo⟩ := Journal.bumpNonce_run hstate
    rw [hrun] at htraced ⊢
    rw [← Journal.info_of_state hstate] at hinfo
    obtain ⟨hbalance, hnonce⟩ := Journal.bump_funds hinfo
    exact .single (.changed htraced hbalance hnonce)

end Computations

end ScrollRevm
