import ScrollRevm.Oracle.Reference
import ScrollRevm.Session.Transactions

/-!
# Frames without code are traced

The reference handler changes the journal by what the log undoes, and its frames by
transfers and raised nonces, so it obeys the law of the funds.
-/

namespace ScrollRevm

open FixedWidth StateResult

namespace ReferenceMainnet

variable {ε α : Type}

/-- Frames without code. -/
theorem fundsExits_emptyFrames (createdAddress : Address) (env : Env) (gas : U64) :
    FundsExits (emptyFrames (ε := ε) createdAddress env gas) := by
  have htransfer (source target : Address) (amount : U256) :
      FundsExits (database (Journal.transfer (ε := ε) source target amount)) :=
    (fundsExits_transfer source target amount).mapError _
  unfold emptyFrames
  cases env.tx.kind with
  | call target =>
    refine (htransfer _ _ _).bind fun r => ?_
    cases r with
    | none => exact .pure _
    | some e => exact .pure _
  | create =>
    refine ((fundsExits_loadAccountMut _).mapError _).bind fun caller => ?_
    split
    · exact .pure _
    · refine ((fundsExits_bumpNonce _).mapError _).bind fun _ => ?_
      exact (htransfer _ _ _).bind fun _ => .pure _

theorem traced_database {x : EStateM ε (Journal ε) α} (h : Exits Journal.Traced x) :
    Exits Journal.Traced (database x) :=
  Exits.focus h fun _ _ => rfl

theorem traced_validateAgainstStateAndDeductCaller (env : Env) :
    Exits Journal.Traced (validateAgainstStateAndDeductCaller (ε := ε) env) := by
  intro s
  have hload := traced_database (traced_keptByJournal (ε := ε).loadAccountMut env.tx.caller)
  have hbump := traced_database (traced_keptByJournal (ε := ε).bumpNonce env.tx.caller)
  cases hrun : (database (Journal.loadAccountMut env.tx.caller)).run s with
  | error e s₁ =>
    rw [validateAgainstStateAndDeductCaller, run_bind_of_error hrun]
    exact hload.error hrun
  | ok caller s₁ =>
    rw [validateAgainstStateAndDeductCaller, run_bind_of_ok hrun]
    refine (hload.ok hrun).trans ?_
    cases hrefusal : refusal env caller.info with
    | some e => exact .refl s₁
    | none =>
      -- the sender was loaded, so its new balance is traced
      obtain ⟨hstate, -⟩ := Journal.loadAccountMut_ok (database_ok hrun)
      have hpaid : Journal.Traced s₁ (Journal.setBalance env.tx.caller caller
          (caller.info.balance - gasFee env) s₁) :=
        .of_quiet (fun _ => Journal.recorded_setBalance hstate _)
          fun _ => Journal.quiet_setBalance hstate _
      refine hpaid.trans ?_
      cases env.tx.kind.isCall with
      | false => exact .refl _
      | true =>
        exact Exits.bind (fun _ _ _ h h' => h.trans h') hbump
          (fun _ => Exits.pure Journal.Traced.refl ()) _

theorem traced_loadAccounts (env : Env) : Exits Journal.Traced (loadAccounts (ε := ε) env) :=
  Journal.traced_exits
    (fun _ _ => .of_eq rfl (List.append_nil _).symm (fun _ h => nomatch h) rfl id)
    fun address => isQuiet_loadAccounts address env

theorem emptyFrames_remaining {createdAddress : Address} {env : Env} {gas : U64}
    {frame : FrameResult ReferenceGas} {s s' : Journal ε}
    (h : (emptyFrames createdAddress env gas).run s = .ok frame s') :
    frame.gas.remaining = gas := by
  unfold emptyFrames at h
  cases hkind : env.tx.kind with
  | call target =>
    rw [hkind] at h
    obtain ⟨r, s₁, -, hret⟩ := run_bind_eq_ok.mp h
    cases r <;> cases hret <;> rfl
  | create =>
    rw [hkind] at h
    obtain ⟨caller, s₁, -, h₁⟩ := run_bind_eq_ok.mp h
    split at h₁
    · cases h₁
      rfl
    · obtain ⟨_, s₂, -, h₂⟩ := run_bind_eq_ok.mp h₁
      obtain ⟨_, s₃, -, hret⟩ := run_bind_eq_ok.mp h₂
      cases hret
      rfl

/-- The handler with frames without code obeys the law of the funds. -/
theorem traced (createdAddress : Address) :
    TracedMainnet (handler (ε := ε) (emptyFrames createdAddress)) where
  validateAgainstStateAndDeductCaller := traced_validateAgainstStateAndDeductCaller
  loadAccounts := traced_loadAccounts
  applyEip7702AuthList _ := Exits.pure Journal.Traced.refl 0
  reimburseCaller _ _ := traced_database (traced_keptByJournal.balanceIncr _ _)
  runExecLoop env gas s := ⟨[], fundsExits_emptyFrames createdAddress env gas [] s⟩
  remaining_le h := BitVec.le_def.mpr (congrArg BitVec.toNat (emptyFrames_remaining h)).le
  executionResult_error h := nomatch h

end ReferenceMainnet

end ScrollRevm
