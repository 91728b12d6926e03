import ScrollRevm.Oracle.Frames
import ScrollRevm.Preservation

/-!
# The steps write no oracle storage

Every step of the handler but the frames is logged and shows the oracle storage of before,
whether it returns or fails. So do the steps that are revm's, as it documents them.
-/

namespace ScrollRevm

open FixedWidth StateResult

variable {J ε G R X : Type} [JournalTr J ε]

/-- A journal operation that is logged and shows the oracle storage of before. -/
abbrev OracleQuiet {ε' α : Type} (x : EStateM ε' J α) : Prop :=
  Exits (fun j j' => Journal.Quiet l1GasPriceOracleAddress (JournalTr.view j) (JournalTr.view j')) x

/-- What revm documents of the storage its handler writes: only the frames write any, with
the operations of the journal. -/
structure LawfulStorage (mainnet : MainnetHandler J ε G R X) : Prop where
  validateAgainstStateAndDeductCaller (env : Env) :
    OracleQuiet (mainnet.validateAgainstStateAndDeductCaller env)
  loadAccounts (env : Env) : OracleQuiet (mainnet.loadAccounts env)
  applyEip7702AuthList (env : Env) : OracleQuiet (mainnet.applyEip7702AuthList env)
  runExecLoop (env : Env) (gas : U64) (j : J) : ∃ ops checkpoints,
    FrameRun ops (JournalTr.view j, [])
      (JournalTr.view (exitState ((mainnet.runExecLoop env gas).run j)), checkpoints)
  reimburseCaller (env : Env) (gas : G) : OracleQuiet (mainnet.reimburseCaller env gas)
  /-- A result that is not built does not end the transaction. -/
  executionResult_error {env : Env} {frame : FrameResult G} {gas : R} {e : EVMError ε} {j j' : J}
    (h : (mainnet.executionResult env frame gas).run j = .error e j') :
    Journal.Quiet l1GasPriceOracleAddress (JournalTr.view j) (JournalTr.view j')

/-! ## Quiet steps -/

/-- A step that is logged and shows the oracle storage of before. -/
abbrev QuietStep {α : Type} (x : Step J ε α) : Prop :=
  Exits (fun c c' => Journal.Quiet l1GasPriceOracleAddress c.view c'.view) x

theorem quiet_keptByJournal (address : Address) :
    KeptByJournal (ε := ε) (Journal.Quiet address) where
  refl s := .refl address s
  trans h h' := h.trans h'
  loadAccountMut other := Journal.isQuiet_loadAccountMut address other
  touch other := Journal.isQuiet_touch address other
  decrBalance other amount := Journal.isQuiet_decrBalance address other amount
  balanceIncr other amount := Journal.isQuiet_balanceIncr address other amount
  bumpNonce other := Journal.isQuiet_bumpNonce address other

theorem LawfulStorage.keptByMainnet {mainnet : MainnetHandler J ε G R X}
    (hm : LawfulStorage mainnet) :
    KeptByMainnet mainnet (Journal.Quiet l1GasPriceOracleAddress) where
  validateAgainstStateAndDeductCaller := hm.validateAgainstStateAndDeductCaller
  loadAccounts := hm.loadAccounts
  applyEip7702AuthList := hm.applyEip7702AuthList
  reimburseCaller := hm.reimburseCaller

namespace ScrollHandler

variable [LawfulJournal J] {self : ScrollHandler J ε G R X} (env : Env)

/-- Preparing the state for execution. -/
theorem quiet_preExecution (hm : LawfulStorage self.mainnet) :
    QuietStep (self.preExecution env) :=
  exits_preExecution env (quiet_keptByJournal _) hm.keptByMainnet

/-- Settling the gas. -/
theorem quiet_postExecution [GasTr G R] (hm : LawfulStorage self.mainnet)
    (execResult : FrameResult G) (init : InitialAndFloorGas) (refund : I64) :
    QuietStep (self.postExecution env execResult init refund) :=
  exits_postExecution env (quiet_keptByJournal _) hm.keptByMainnet execResult init refund

end ScrollHandler

end ScrollRevm
