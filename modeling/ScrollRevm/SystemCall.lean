import ScrollRevm.Session.Transactions

/-!
# System calls

A system call runs the frames of a call and builds its result: it is neither validated nor
charged, and no gas is returned or paid. A call that fails is discarded like a transaction.
-/

namespace ScrollRevm

open FixedWidth StateResult Ledger

/-- The transaction of a system call. It pays no rollup fee, so it comes without the rlp bytes
and the compression ratio. -/
def ScrollTransaction.newSystemTxWithCaller (newSystemTx : Address → Address → Bytes → TxEnv)
    (caller systemContractAddress : Address) (data : Bytes) : ScrollTransaction where
  base := newSystemTx caller systemContractAddress data

namespace ScrollHandler

variable {J ε G R X : Type} [JournalTr J ε] [GasTr G R] [ResultGasTr R]
variable (self : ScrollHandler J ε G R X) (env : Env)

/-- `catch_error`: what a failed run did is discarded. -/
def catchError (x : Step J ε X) : Step J ε X := fun ctx =>
  match x ctx with
  | .ok x ctx => .ok x ctx
  | .error e ctx =>
    match journalMut (ε := ε) (JournalTr.discardTx (J := J)) ctx with
    | .ok () ctx => .error e ctx
    | .error _ ctx => .error e ctx

/-- `run_system_call`. -/
def runSystemCall : Step J ε X :=
  catchError do
    let execResult ← self.execution env ⟨0, 0⟩
    self.executionResult env execResult (GasTr.buildResultGas execResult.gas ⟨0, 0⟩)

/-- Runs a system call from the given caller. -/
def systemCallOneWithCaller (newSystemTx : Address → Address → Bytes → TxEnv)
    (caller systemContractAddress : Address) (data : Bytes) : Step J ε X :=
  self.runSystemCall
    { env with tx := .newSystemTxWithCaller newSystemTx caller systemContractAddress data }

/-- The same call; its state stays in the journal. -/
def transactSystemCallWithCaller (newSystemTx : Address → Address → Bytes → TxEnv)
    (caller systemContractAddress : Address) (data : Bytes) : Step J ε X :=
  self.runSystemCall
    { env with tx := .newSystemTxWithCaller newSystemTx caller systemContractAddress data }

variable {self env} {c c' : Ctx J}

omit [GasTr G R] [ResultGasTr R] in
theorem catchError_ok {y : Step J ε X} {x : X} (h : (catchError y).run c = .ok x c') :
    y.run c = .ok x c' := by
  change catchError y c = _ at h
  unfold catchError at h
  cases hresult : y c with
  | ok x₁ c₁ =>
    rw [hresult] at h
    exact hresult.trans h
  | error e c₁ =>
    rw [hresult] at h
    dsimp only at h
    split at h <;> cases h

omit [GasTr G R] [ResultGasTr R] in
theorem catchError_error [LawfulJournal J] {y : Step J ε X} {e : EVMError ε}
    (h : (catchError y).run c = .error e c') :
    ∃ c₁, y.run c = .error e c₁ ∧ Journal.discardTx.run c₁.view = .ok () c'.view := by
  change catchError y c = _ at h
  unfold catchError at h
  cases hresult : y c with
  | ok x c₁ =>
    rw [hresult] at h
    cases h
  | error e₁ c₁ =>
    rw [hresult] at h
    dsimp only at h
    have hrun : Journal.discardTx.run c₁.view = .ok () _ := rfl
    obtain ⟨j, hj, -⟩ := (LawfulJournal.discardTx (J := J) (ε := ε)).exists_ok hrun
    have hdiscard : journalMut (JournalTr.discardTx (J := J)) c₁ = .ok () (c₁.withJournal j) :=
      run_focus_of_ok hj
    rw [hdiscard] at h
    cases h
    exact ⟨c₁, hresult, (LawfulJournal.discardTx (J := J) (ε := ε)).ok hj⟩

/-- A system call that returns is a run of its frames with all the gas, and of the result. -/
theorem runSystemCall_ok {x : X} (h : (self.runSystemCall env).run c = .ok x c') :
    ∃ frame c₁, (mainnetStep (self.mainnet.runExecLoop env env.tx.gasLimit)).run c =
        .ok frame c₁ ∧
      (self.executionResult env (lastFrameResult env frame)
        (GasTr.buildResultGas (lastFrameResult env frame).gas ⟨0, 0⟩)).run c₁ = .ok x c' := by
  obtain ⟨executed, c₁, hexec, hresult⟩ := run_bind_eq_ok.mp (catchError_ok h)
  obtain ⟨frame, c₁', hframe, hret⟩ := run_bind_eq_ok.mp hexec
  cases hret
  refine ⟨frame, c₁, ?_, hresult⟩
  have hgas : env.tx.gasLimit - (0 : U64) = env.tx.gasLimit := BitVec.sub_zero _
  rwa [hgas] at hframe

/-- A system call that returns ends what its frames traced; it is charged nothing. -/
theorem runSystemCall_ok_funds (hm : LawfulMainnet self.mainnet)
    (ht : TracedMainnet self.mainnet) (hlt : total c.view.balance < 2 ^ 256) {x : X}
    (h : (self.runSystemCall env).run c = .ok x c') :
    ∃ t, Journal.Traced c.view t ∧ FundsAbove (total c.view.balance) c.view.nonce t.funds ∧
      Journal.commitTx.run t = .ok () c'.view := by
  obtain ⟨frame, c₁, hframe, hresult⟩ := runSystemCall_ok h
  have hframes := frames_funds ht env env.tx.gasLimit hlt
  rw [hframe] at hframes
  obtain ⟨j, hbuilt, rfl⟩ := run_focus_eq_ok.mp hresult
  exact ⟨c₁.view, hframes.1, hframes.2, (hm.executionResult_ok hbuilt).2⟩

/-- A system call that fails discards what its frames traced. -/
theorem runSystemCall_error_traced [LawfulJournal J] (ht : TracedMainnet self.mainnet)
    (hlt : total c.view.balance < 2 ^ 256) {e : EVMError ε}
    (h : (self.runSystemCall env).run c = .error e c') :
    ∃ t, Journal.Traced c.view t ∧ Journal.discardTx.run t = .ok () c'.view := by
  obtain ⟨c₁, hfail, hdiscard⟩ := catchError_error h
  refine ⟨c₁.view, ?_, hdiscard⟩
  have hframes := (frames_funds ht env (env.tx.gasLimit - 0) hlt).1
  rcases run_bind_eq_error.mp hfail with hexec | ⟨executed, c₂, hexec, hresult⟩
  · rcases run_bind_eq_error.mp hexec with hframe | ⟨_, _, _, hret⟩
    · rw [hframe] at hframes
      exact hframes
    · cases hret
  obtain ⟨frame, c₂', hframe, hret⟩ := run_bind_eq_ok.mp hexec
  cases hret
  rw [hframe] at hframes
  obtain ⟨e', j, hbuilt, rfl, rfl⟩ := run_focus_eq_error.mp hresult
  exact hframes.trans (ht.executionResult_error hbuilt)

end ScrollHandler

end ScrollRevm
