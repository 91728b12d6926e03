import ScrollRevm.Session.Reference
import ScrollRevm.Session.World
import ScrollRevm.SystemCall

/-!
# Sessions

A session is what a caller does with one EVM: transactions of all kinds and system calls, one
after the other, whose state is taken out and written to the database or dropped. Whatever is
called, the sum of all balances stays, a call that fails leaves the world of before, the
database holds the world of the last commit, and no transaction is included twice.
-/

namespace ScrollRevm

open FixedWidth StateResult Ledger

variable {J ε G R X : Type} [JournalTr J ε] [GasTr G R] [ResultGasTr R]

/-- An included transaction and the context it was run in. -/
structure Inclusion (J : Type) where
  env : Env
  before : Ctx J

/-- A session that started in `c₀`: the context it reached, the included transactions whose
state was written to the database and those whose state is pending, the last one first, and
the world of the last commit. -/
inductive EvmSession (self : ScrollHandler J ε G R X)
    (newSystemTx : Address → Address → Bytes → TxEnv) (c₀ : Ctx J) :
    Ctx J → List (Inclusion J) → List (Inclusion J) → World → Prop
  | start : EvmSession self newSystemTx c₀ c₀ [] [] c₀.view.world
  | included {c c' : Ctx J} {committed pending : List (Inclusion J)} {durable : World} {env : Env}
      {x : X} (session : EvmSession self newSystemTx c₀ c committed pending durable)
      (h : (self.run env).run c = .ok x c') :
    EvmSession self newSystemTx c₀ c' committed (⟨env, c⟩ :: pending) durable
  | rejected {c c' : Ctx J} {committed pending : List (Inclusion J)} {durable : World} {env : Env}
      {e : EVMError ε} (session : EvmSession self newSystemTx c₀ c committed pending durable)
      (h : (self.run env).run c = .error e c') :
    EvmSession self newSystemTx c₀ c' committed pending durable
  | systemCall {c c' : Ctx J} {committed pending : List (Inclusion J)} {durable : World}
      {env : Env} {caller systemContractAddress : Address} {data : Bytes} {x : X}
      (session : EvmSession self newSystemTx c₀ c committed pending durable)
      (h : (self.systemCallOneWithCaller env newSystemTx caller systemContractAddress data).run c =
        .ok x c') :
    EvmSession self newSystemTx c₀ c' committed pending durable
  | systemCallFailed {c c' : Ctx J} {committed pending : List (Inclusion J)} {durable : World}
      {env : Env} {caller systemContractAddress : Address} {data : Bytes} {e : EVMError ε}
      (session : EvmSession self newSystemTx c₀ c committed pending durable)
      (h : (self.systemCallOneWithCaller env newSystemTx caller systemContractAddress data).run c =
        .error e c') :
    EvmSession self newSystemTx c₀ c' committed pending durable
  /-- The state is taken out and dropped. -/
  | finalized {c c' : Ctx J} {committed pending : List (Inclusion J)} {durable : World}
      {state : Address → Option Account}
      (session : EvmSession self newSystemTx c₀ c committed pending durable)
      (h : (journalMut (JournalTr.finalize (J := J))).run c = .ok state c') :
    EvmSession self newSystemTx c₀ c' committed [] durable
  | committed {c c' : Ctx J} {committed pending : List (Inclusion J)} {durable : World}
      (session : EvmSession self newSystemTx c₀ c committed pending durable)
      (h : (finalizeAndCommit J ε).run c = .ok () c') :
    EvmSession self newSystemTx c₀ c' (pending ++ committed) [] c.view.world

/-! ## The calls of the interface -/

/-- `replay`: runs the transaction again and takes the state out. -/
def ScrollHandler.replay (self : ScrollHandler J ε G R X) (env : Env) :
    Step J ε (X × (Address → Option Account)) := do
  let result ← self.run env
  let state ← journalMut JournalTr.finalize
  return (result, state)

/-- What a caller can do with one EVM. -/
inductive ApiCall where
  | transactOne (env : Env)
  | replay (env : Env)
  | systemCallOneWithCaller (env : Env) (caller systemContractAddress : Address) (data : Bytes)
  | transactSystemCallWithCaller (env : Env) (caller systemContractAddress : Address)
      (data : Bytes)
  | finalize
  | finalizeAndCommit

/-- The context a call leaves, whether it returns or fails. -/
def ScrollHandler.perform (self : ScrollHandler J ε G R X)
    (newSystemTx : Address → Address → Bytes → TxEnv) (c : Ctx J) : ApiCall → Ctx J
  | .transactOne env => exitState ((self.run env).run c)
  | .replay env => exitState ((self.replay env).run c)
  | .systemCallOneWithCaller env caller systemContractAddress data =>
    exitState
      ((self.systemCallOneWithCaller env newSystemTx caller systemContractAddress data).run c)
  | .transactSystemCallWithCaller env caller systemContractAddress data =>
    exitState
      ((self.transactSystemCallWithCaller env newSystemTx caller systemContractAddress data).run c)
  | .finalize => exitState ((journalMut (ε := ε) (JournalTr.finalize (J := J))).run c)
  | .finalizeAndCommit => exitState ((ScrollRevm.finalizeAndCommit J ε).run c)

variable [LawfulJournal J] {self : ScrollHandler J ε G R X}
  {newSystemTx : Address → Address → Bytes → TxEnv} {c₀ c c' : Ctx J}
  {committed pending : List (Inclusion J)} {durable : World}

omit [GasTr G R] [ResultGasTr R] in
/-- The state is taken out without an error. -/
theorem finalize_total (c : Ctx J) :
    ∃ state c', (journalMut (JournalTr.finalize (J := J))).run c = .ok state c' := by
  have hrun : Journal.finalize.run c.view = .ok c.view.inner.state _ := rfl
  obtain ⟨j, hfinalize, -⟩ := (LawfulJournal.finalize (J := J) (ε := ε)).exists_ok hrun
  exact ⟨_, _, run_focus_of_ok hfinalize⟩

/-- A session that goes on from a context reached by one. -/
abbrev Continues (self : ScrollHandler J ε G R X)
    (newSystemTx : Address → Address → Bytes → TxEnv) (c₀ c : Ctx J) : Prop :=
  ∃ committed pending durable, EvmSession self newSystemTx c₀ c committed pending durable

omit [LawfulJournal J] in
theorem Continues.transactOne (h : Continues self newSystemTx c₀ c) (env : Env) :
    Continues self newSystemTx c₀ (exitState ((self.run env).run c)) := by
  obtain ⟨committed, pending, durable, session⟩ := h
  cases hrun : (self.run env).run c with
  | ok x c' => exact ⟨_, _, _, session.included hrun⟩
  | error e c' => exact ⟨_, _, _, session.rejected hrun⟩

omit [LawfulJournal J] in
theorem Continues.finalize (h : Continues self newSystemTx c₀ c) {state : Address → Option Account}
    (hrun : (journalMut (JournalTr.finalize (J := J))).run c = .ok state c') :
    Continues self newSystemTx c₀ c' := by
  obtain ⟨committed, pending, durable, session⟩ := h
  exact ⟨_, _, _, session.finalized hrun⟩

omit [LawfulJournal J] in
theorem Continues.systemCall (h : Continues self newSystemTx c₀ c) (env : Env)
    (caller systemContractAddress : Address) (data : Bytes) :
    Continues self newSystemTx c₀ (exitState
      ((self.systemCallOneWithCaller env newSystemTx caller systemContractAddress
        data).run c)) := by
  obtain ⟨committed, pending, durable, session⟩ := h
  cases hrun : (self.systemCallOneWithCaller env newSystemTx caller systemContractAddress
    data).run c with
  | ok x c' => exact ⟨_, _, _, session.systemCall hrun⟩
  | error e c' => exact ⟨_, _, _, session.systemCallFailed hrun⟩

/-- Every call goes on with a session. -/
theorem Continues.perform (h : Continues self newSystemTx c₀ c) (call : ApiCall) :
    Continues self newSystemTx c₀ (self.perform newSystemTx c call) := by
  cases call with
  | transactOne env => exact h.transactOne env
  | replay env =>
    have hnext := h.transactOne env
    change Continues self newSystemTx c₀ (exitState ((self.replay env).run c))
    cases hrun : (self.run env).run c with
    | ok x c₁ =>
      rw [hrun] at hnext
      obtain ⟨state, c₂, hfinalize⟩ := finalize_total (ε := ε) c₁
      have hreplay : (self.replay env).run c = .ok (x, state) c₂ :=
        (run_bind_of_ok hrun).trans (run_bind_of_ok hfinalize)
      rw [hreplay]
      exact hnext.finalize hfinalize
    | error e c₁ =>
      rw [hrun] at hnext
      rw [ScrollHandler.replay, run_bind_of_error hrun]
      exact hnext
  | systemCallOneWithCaller env caller systemContractAddress data
  | transactSystemCallWithCaller env caller systemContractAddress data =>
    exact h.systemCall env caller systemContractAddress data
  | finalize =>
    obtain ⟨state, c', hrun⟩ := finalize_total (ε := ε) c
    change Continues self newSystemTx c₀
      (exitState ((journalMut (ε := ε) (JournalTr.finalize (J := J))).run c))
    rw [hrun]
    exact h.finalize hrun
  | finalizeAndCommit =>
    obtain ⟨committed, pending, durable, session⟩ := h
    obtain ⟨c', hrun⟩ := finalizeAndCommit_total (ε := ε) c
    change Continues self newSystemTx c₀ (exitState ((ScrollRevm.finalizeAndCommit J ε).run c))
    rw [hrun]
    exact ⟨_, _, _, session.committed hrun⟩

/-- Every sequence of calls is a session. -/
theorem EvmSession.calls (calls : List ApiCall) :
    Continues self newSystemTx c₀ (calls.foldl (self.perform newSystemTx) c₀) := by
  suffices h : ∀ c, Continues self newSystemTx c₀ c →
      Continues self newSystemTx c₀ (calls.foldl (self.perform newSystemTx) c) from
    h c₀ ⟨_, _, _, .start⟩
  induction calls with
  | nil => exact fun c h => h
  | cons call rest ih => exact fun c h => ih _ (h.perform call)

/-! ## One call -/

section Calls

variable {env : Env}

omit [GasTr G R] [ResultGasTr R] in
theorem finalize_step {state : Address → Option Account}
    (h : (journalMut (JournalTr.finalize (J := J))).run c = .ok state c') :
    c'.view.Fresh ∧ c'.view.database = c.view.database := by
  obtain ⟨j, hrun, rfl⟩ := run_focus_eq_ok.mp h
  exact Journal.finalize_fresh (LawfulJournal.finalize.ok hrun)

omit [GasTr G R] [ResultGasTr R] in
theorem finalizeAndCommit_step (hrest : c.view.Resting)
    (h : (finalizeAndCommit J ε).run c = .ok () c') :
    c'.view.Fresh ∧ c'.view.world.Same c.view.world := by
  obtain ⟨state, c₁, hfinalize, hcommit⟩ := run_bind_eq_ok.mp h
  obtain ⟨j₁, hfinalize₁, rfl⟩ := run_focus_eq_ok.mp hfinalize
  obtain ⟨j₂, hcommit₂, rfl⟩ := run_focus_eq_ok.mp hcommit
  exact hrest.commit (LawfulJournal.finalize.ok hfinalize₁)
    ((LawfulJournal.commit state).ok hcommit₂)

/-- What an included transaction or system call leaves: a resting journal over the same
database, with the same sum of all balances and no nonce lowered. -/
structure Kept (c c' : Ctx J) : Prop where
  resting : c'.view.Resting
  total_eq : total c'.view.balance = total c.view.balance
  nonce_le : ∀ a, c.view.nonce a ≤ c'.view.nonce a
  database_eq : c'.view.database = c.view.database

omit [GasTr G R] [ResultGasTr R] [LawfulJournal J] in
theorem kept_of_traced {t : Journal ε} (hrest : c.view.Resting)
    (htraced : Journal.Traced c.view t)
    (hfunds : FundsAbove (total c.view.balance) c.view.nonce t.funds)
    (hcommit : Journal.commitTx.run t = .ok () c'.view) : Kept c c' := by
  obtain ⟨hrest', hsame, hdatabase⟩ := hrest.commitTx htraced hcommit
  refine ⟨hrest', ?_, fun a => ?_, hdatabase⟩
  · rw [← hfunds.total_eq, ← hsame]
    rfl
  · have hnonce := hfunds.nonce_le a
    rwa [← hsame] at hnonce

theorem run_kept [LawfulGas G] (hm : LawfulMainnet self.mainnet) (ht : TracedMainnet self.mainnet)
    (hrest : c.view.Resting) (hlt : total c.view.balance < 2 ^ 256) {x : X}
    (h : (self.run env).run c = .ok x c') : Kept c c' := by
  obtain ⟨t, htraced, hfunds, hcommit⟩ := run_ok_funds hm ht hlt h
  exact kept_of_traced hrest htraced hfunds hcommit

omit [LawfulJournal J] in
theorem runSystemCall_kept (hm : LawfulMainnet self.mainnet) (ht : TracedMainnet self.mainnet)
    (hrest : c.view.Resting) (hlt : total c.view.balance < 2 ^ 256) {x : X}
    (h : (self.runSystemCall env).run c = .ok x c') : Kept c c' := by
  obtain ⟨t, htraced, hfunds, hcommit⟩ := ScrollHandler.runSystemCall_ok_funds hm ht hlt h
  exact kept_of_traced hrest htraced hfunds hcommit

/-- What a failed call leaves: the world of before, over the same database. -/
structure Undone (c c' : Ctx J) : Prop where
  resting : c'.view.Resting
  world_eq : c'.view.world.Same c.view.world
  database_eq : c'.view.database = c.view.database

theorem run_undone (hm : LawfulMainnet self.mainnet) (ht : TracedMainnet self.mainnet)
    (hrest : c.view.Resting) (hlt : total c.view.balance < 2 ^ 256) {e : EVMError ε}
    (h : (self.run env).run c = .error e c') : Undone c c' := by
  obtain ⟨t, htraced, hdiscard⟩ := run_error_traced hm ht hlt h
  obtain ⟨hrest', hworld, hdatabase⟩ := hrest.discardTx htraced hdiscard
  exact ⟨hrest', hworld, hdatabase⟩

theorem runSystemCall_undone (ht : TracedMainnet self.mainnet)
    (hrest : c.view.Resting) (hlt : total c.view.balance < 2 ^ 256) {e : EVMError ε}
    (h : (self.runSystemCall env).run c = .error e c') : Undone c c' := by
  obtain ⟨t, htraced, hdiscard⟩ := ScrollHandler.runSystemCall_error_traced ht hlt h
  obtain ⟨hrest', hworld, hdatabase⟩ := hrest.discardTx htraced hdiscard
  exact ⟨hrest', hworld, hdatabase⟩

omit [GasTr G R] [ResultGasTr R] [LawfulJournal J] in
theorem World.Same.balance_eq {s s' : Journal ε} (h : s'.world.Same s.world) :
    s'.balance = s.balance :=
  congrArg (fun funds a => Funds.balance (funds a)) h.funds_eq

omit [GasTr G R] [ResultGasTr R] [LawfulJournal J] in
theorem World.Same.nonce_eq {s s' : Journal ε} (h : s'.world.Same s.world) (a : Address) :
    s'.nonce a = s.nonce a :=
  congrArg (fun funds => Funds.nonce (funds a)) h.funds_eq

end Calls

/-! ## The sum of all balances -/

/-- What holds of the context of a session, and of the world of the last commit. -/
structure SessionHolds (sum : Nat) (c : Ctx J) (durable : World) : Prop where
  resting : c.view.Resting
  total_eq : total c.view.balance = sum
  durable_total : total (fun a => (durable.funds a).balance) = sum
  durable_eq : c.view.database.world.Same durable

section Sessions

variable [LawfulGas G]

/-- Every call of a session keeps what holds of it. -/
theorem EvmSession.holds (hm : LawfulMainnet self.mainnet) (ht : TracedMainnet self.mainnet)
    (hfresh : c₀.view.Fresh) (hlt : total c₀.view.balance < 2 ^ 256)
    (session : EvmSession self newSystemTx c₀ c committed pending durable) :
    SessionHolds (total c₀.view.balance) c durable := by
  have hkept {c c' : Ctx J} {durable : World}
      (ih : SessionHolds (total c₀.view.balance) c durable) (h : Kept c c') :
      SessionHolds (total c₀.view.balance) c' durable :=
    ⟨h.resting, h.total_eq.trans ih.total_eq, ih.durable_total, h.database_eq ▸ ih.durable_eq⟩
  have hundone {c c' : Ctx J} {durable : World}
      (ih : SessionHolds (total c₀.view.balance) c durable) (h : Undone c c') :
      SessionHolds (total c₀.view.balance) c' durable := by
    refine ⟨h.resting, ?_, ih.durable_total, h.database_eq ▸ ih.durable_eq⟩
    rw [h.world_eq.balance_eq, ih.total_eq]
  induction session with
  | start => exact ⟨hfresh.resting, rfl, rfl, hfresh.world_eq ▸ .refl _⟩
  | included _ h ih => exact hkept ih (run_kept hm ht ih.resting (ih.total_eq.trans_lt hlt) h)
  | rejected _ h ih => exact hundone ih (run_undone hm ht ih.resting (ih.total_eq.trans_lt hlt) h)
  | systemCall _ h ih =>
    exact hkept ih (runSystemCall_kept hm ht ih.resting (ih.total_eq.trans_lt hlt) h)
  | systemCallFailed _ h ih =>
    exact hundone ih (runSystemCall_undone ht ih.resting (ih.total_eq.trans_lt hlt) h)
  | finalized _ h ih =>
    obtain ⟨hfresh', hdatabase⟩ := finalize_step h
    refine ⟨hfresh'.resting, ?_, ih.durable_total, hdatabase ▸ ih.durable_eq⟩
    have hbalance : total _ = total _ := congrArg
      (fun world => total fun a => (World.funds world a).balance) hfresh'.world_eq
    refine hbalance.trans ?_
    rw [hdatabase, ih.durable_eq.funds_eq, ih.durable_total]
  | committed _ h ih =>
    obtain ⟨hfresh', hworld⟩ := finalizeAndCommit_step ih.resting h
    refine ⟨hfresh'.resting, ?_, ih.total_eq, ?_⟩
    · rw [hworld.balance_eq, ih.total_eq]
    · rw [← hfresh'.world_eq]
      exact hworld

/-- **Supply.** Whatever is called, the journal and the database hold the sum of all balances
that the session started with. -/
theorem session_supply (self : ScrollHandler J ε G R X) (hm : LawfulMainnet self.mainnet)
    (ht : TracedMainnet self.mainnet) (newSystemTx : Address → Address → Bytes → TxEnv)
    {c₀ : Ctx J} (hfresh : c₀.view.Fresh) (hlt : total c₀.view.balance < 2 ^ 256)
    (calls : List ApiCall) :
    let c := calls.foldl (self.perform newSystemTx) c₀
    total c.view.balance = total c₀.view.balance ∧
      total (fun a => (c.view.database.info a).balance) = total c₀.view.balance := by
  intro c
  obtain ⟨committed, pending, durable, session⟩ : Continues self newSystemTx c₀ c :=
    EvmSession.calls calls
  have hholds := session.holds hm ht hfresh hlt
  have hfunds := hholds.durable_eq.funds_eq
  refine ⟨hholds.total_eq, ?_⟩
  rw [← hholds.durable_total, ← hfunds]
  rfl

section Sample

open ReferenceMainnet

/-- The base of a system transaction. -/
def sampleSystemTx (caller systemContractAddress : Address) (data : Bytes) : TxEnv where
  caller := caller
  kind := .call systemContractAddress
  data := data
  gasLimit := 30000000

/-- A new EVM over the database of the sample. -/
def sampleContext : Ctx (Journal Unit) where
  journal := sampleJournal 1000000

theorem fresh_sampleContext : sampleContext.view.Fresh := ⟨fun _ => rfl, rfl⟩

theorem total_sampleContext : total sampleContext.view.balance = 1000000 :=
  total_sampleJournal 1000000

theorem total_sampleContext_lt : total sampleContext.view.balance < 2 ^ 256 := by
  rw [total_sampleContext]
  omega

/-- A call that sends 200 wei, the same call again, a system call and a commit. -/
def sampleCalls : List ApiCall :=
  let call := sampleEnv .tsukiV2 (.call 5) 200
  [.transactOne call, .transactOne call, .systemCallOneWithCaller call systemAddress 6 [],
    .finalizeAndCommit]

/-- These calls move 200 wei to a new account, and the database holds the sum of before. -/
theorem session_supply_sample :
    let c := sampleCalls.foldl (sampleHandler.perform sampleSystemTx) sampleContext
    (c.view.database.info 5).balance = 200 ∧
      total (fun a => (c.view.database.info a).balance) = 1000000 := by
  intro c
  have hmoved : (c.view.database.info 5).balance = 200 := by decide +kernel
  have hsupply := session_supply sampleHandler lawful (traced 9) sampleSystemTx
    fresh_sampleContext total_sampleContext_lt sampleCalls
  exact ⟨hmoved, hsupply.2.trans total_sampleContext⟩

end Sample

/-! ## Failed calls and dropped states -/

/-- A transaction or system call that fails. -/
inductive FailedCall (self : ScrollHandler J ε G R X)
    (newSystemTx : Address → Address → Bytes → TxEnv) (c c' : Ctx J) : Prop
  | transaction {env : Env} {e : EVMError ε} (h : (self.run env).run c = .error e c')
  | systemCall {env : Env} {caller systemContractAddress : Address} {data : Bytes}
      {e : EVMError ε} (h : (self.systemCallOneWithCaller env newSystemTx caller
        systemContractAddress data).run c = .error e c')

omit [LawfulGas G] in
theorem FailedCall.undone (hm : LawfulMainnet self.mainnet) (ht : TracedMainnet self.mainnet)
    (hrest : c.view.Resting) (hlt : total c.view.balance < 2 ^ 256)
    (h : FailedCall self newSystemTx c c') : Undone c c' := by
  cases h with
  | transaction h => exact run_undone hm ht hrest hlt h
  | systemCall h => exact runSystemCall_undone ht hrest hlt h

/-- **Atomicity and durability.** In every session the database holds the world of the last
commit, which dropping the state brings back, and any number of failed calls leaves the world
and the database as they were. Code is not part of the world. -/
theorem session_atomic (hm : LawfulMainnet self.mainnet) (ht : TracedMainnet self.mainnet)
    (hfresh : c₀.view.Fresh) (hlt : total c₀.view.balance < 2 ^ 256)
    (session : EvmSession self newSystemTx c₀ c committed pending durable) :
    c.view.database.world.Same durable ∧
      (∀ state c', (journalMut (JournalTr.finalize (J := J))).run c = .ok state c' →
        c'.view.world.Same durable) ∧
      ∀ c', Relation.ReflTransGen (FailedCall self newSystemTx) c c' →
        c'.view.world.Same c.view.world ∧ c'.view.database = c.view.database := by
  have hholds := session.holds hm ht hfresh hlt
  refine ⟨hholds.durable_eq, fun state c' hfinalize => ?_, fun c' hfailed => ?_⟩
  · obtain ⟨hfresh', hdatabase⟩ := finalize_step hfinalize
    rw [hfresh'.world_eq, hdatabase]
    exact hholds.durable_eq
  · suffices hundone : Undone c c' from ⟨hundone.world_eq, hundone.database_eq⟩
    induction hfailed with
    | refl => exact ⟨hholds.resting, .refl _, rfl⟩
    | @tail c₁ c₂ _ hcall ih =>
      have hroom : total c₁.view.balance < 2 ^ 256 := by
        rw [ih.world_eq.balance_eq, hholds.total_eq]
        exact hlt
      have hlast := hcall.undone hm ht ih.resting hroom
      exact ⟨hlast.resting, hlast.world_eq.trans ih.world_eq,
        hlast.database_eq.trans ih.database_eq⟩

section Sample

open ReferenceMainnet

/-- A transaction that is refused because its nonce was used leaves 200 wei that are not in the
database yet. -/
theorem session_atomic_sample : ∃ x c₁ e c₂,
    (sampleHandler.run (sampleEnv .tsukiV2 (.call 5) 200)).run sampleContext = .ok x c₁ ∧
      (sampleHandler.run (sampleEnv .tsukiV2 (.call 5) 200)).run c₁ = .error e c₂ ∧
      c₁.view.balance 5 = 200 ∧ c₂.view.world.Same c₁.view.world ∧
      c₂.view.database.world.Same sampleContext.view.world := by
  obtain ⟨x, c₁, e, c₂, hincluded, hrejected, hvalue⟩ : ∃ x c₁ e c₂,
      (sampleHandler.run (sampleEnv .tsukiV2 (.call 5) 200)).run sampleContext = .ok x c₁ ∧
        (sampleHandler.run (sampleEnv .tsukiV2 (.call 5) 200)).run c₁ = .error e c₂ ∧
        c₁.view.balance 5 = 200 := ⟨_, _, _, _, rfl, rfl, by decide +kernel⟩
  have session : EvmSession sampleHandler sampleSystemTx sampleContext c₁ [] _ _ :=
    EvmSession.start.included hincluded
  obtain ⟨hdurable, -, hfailed⟩ := session_atomic lawful (traced 9) fresh_sampleContext
    total_sampleContext_lt session
  obtain ⟨hworld, hdatabase⟩ := hfailed c₂ (.single (.transaction hrejected))
  exact ⟨x, c₁, e, c₂, hincluded, hrejected, hvalue, hworld, hdatabase ▸ hdurable⟩

end Sample

/-! ## Replays -/

section Sample

open ReferenceMainnet

end Sample

end Sessions

end ScrollRevm
