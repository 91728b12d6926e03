import ScrollRevm.Handler
import ScrollRevm.Journal.Views

/-!
# A mainnet handler that obeys the laws

The documented mainnet steps over the documented journal, with the frames as a
parameter. It shows that the laws can be met and evaluates the handler on concrete
inputs; nothing about the crate depends on it.
-/

namespace ScrollRevm

open FixedWidth StateResult

namespace ReferenceMainnet

variable {ε : Type}

/-- A journal operation whose errors are database errors. -/
def database {α : Type} (x : EStateM ε (Journal ε) α) : EStateM (EVMError ε) (Journal ε) α :=
  focus id (fun s _ => s) EVMError.database x

def maxFeePerGas (tx : TxEnv) : U128 := tx.gasPrice

def effectiveGasPrice (tx : TxEnv) (baseFee : U128) : U128 :=
  match TransactionType.ofU8 tx.txType, tx.gasPriorityFee with
  | .legacy, _ | .eip2930, _ | _, none => tx.gasPrice
  | _, some priorityFee => wordMin tx.gasPrice (satAdd baseFee priorityFee)

def maxBalanceSpending (tx : TxEnv) : Except InvalidTransaction U256 :=
  match checkedMul (tx.gasLimit.setWidth 128) (maxFeePerGas tx) with
  | none => .error .overflowPaymentInTransaction
  | some fee =>
    match checkedAdd (fee.setWidth 256) tx.value with
    | none => .error .overflowPaymentInTransaction
    | some spending => .ok spending

/-- Why the sender is refused, if it is. -/
def refusal (env : Env) (caller : AccountInfo) : Option InvalidTransaction :=
  if !env.cfg.isEip3607Disabled && caller.code.rejectsCaller then some .rejectCallerWithCode
  else if caller.nonce < env.tx.nonce then some (.nonceTooHigh env.tx.nonce caller.nonce)
  else if env.tx.nonce < caller.nonce then some (.nonceTooLow env.tx.nonce caller.nonce)
  else
    match maxBalanceSpending env.tx.base with
    | .error e => some e
    | .ok spending =>
      if caller.balance < spending then some (.lackOfFundForMaxFee spending caller.balance)
      else none

def gasFee (env : Env) : U256 :=
  BitVec.ofNat 256 (env.tx.gasLimit.toNat *
    (effectiveGasPrice env.tx.base (env.block.basefee.setWidth 128)).toNat)

def validateAgainstStateAndDeductCaller (env : Env) :
    EStateM (EVMError ε) (Journal ε) Unit := do
  let caller ← database (Journal.loadAccountMut env.tx.caller)
  match refusal env caller.info with
  | some e => throw (.transaction e)
  | none =>
    modify (Journal.setBalance env.tx.caller caller (caller.info.balance - gasFee env))
    if env.tx.kind.isCall then
      let _ ← database (Journal.bumpNonce env.tx.caller)

def reimburseCaller (env : Env) (gas : ReferenceGas) : EStateM (EVMError ε) (Journal ε) Unit :=
  let price := effectiveGasPrice env.tx.base (env.block.basefee.setWidth 128)
  database (Journal.balanceIncr env.tx.caller
    ((satMul price ((gas.remaining + gas.refunded).setWidth 128)).setWidth 256))

/-- The frames of a transaction whose target has no code or whose init code is empty. The
nonce of a create is bumped once the balance covers the value. -/
def emptyFrames (createdAddress : Address) (env : Env) (gas : U64) :
    EStateM (EVMError ε) (Journal ε) (FrameResult ReferenceGas) := do
  match env.tx.kind with
  | .call target =>
    match ← database (Journal.transfer env.tx.caller target env.tx.value) with
    | some _ => return ⟨.outOfFunds, ⟨gas, gas, 0⟩⟩
    | none => return ⟨.stop, ⟨gas, gas, 0⟩⟩
  | .create =>
    let caller ← database (Journal.loadAccountMut env.tx.caller)
    if caller.info.balance < env.tx.value then return ⟨.outOfFunds, ⟨gas, gas, 0⟩⟩
    let _ ← database (Journal.bumpNonce env.tx.caller)
    let _ ← database (Journal.transfer env.tx.caller createdAddress env.tx.value)
    return ⟨.returned, ⟨gas, gas, 0⟩⟩

/-- The addresses that have a precompile under a hardfork. -/
def precompileAddresses (spec : ScrollSpecId) : List Address :=
  (if spec.isEnabledIn .tsuki then [253] else []) ++
    (if spec.isEnabledIn .euclid then [256] else []) ++ [9, 8, 7, 6, 5, 4, 3, 2, 1]

/-- Warms the precompiles of the hardfork, the coinbase and the access list. -/
def loadAccounts (env : Env) : EStateM (EVMError ε) (Journal ε) Unit := do
  database (Journal.warmPrecompiles (precompileAddresses env.cfg.spec))
  database (Journal.warmCoinbaseAccount env.block.beneficiary)
  database (Journal.warmAccessList
    ((env.tx.accessList.getD []).map fun item => (item.address, item.storageSlots)))

/-- The handler with the given frames. -/
def handler (frames : Env → U64 → EStateM (EVMError ε) (Journal ε) (FrameResult ReferenceGas)) :
    MainnetHandler (Journal ε) ε ReferenceGas ReferenceResultGas ReferenceResultGas where
  transactionType := .ofU8
  maxFeePerGas := maxFeePerGas
  effectiveGasPrice := effectiveGasPrice
  maxBalanceSpending := maxBalanceSpending
  validateLegacyGasPrice _ _ := .ok ()
  validatePriorityFeeTx _ _ _ _ := .ok ()
  validateEip4844Tx _ _ _ _ := .ok ()
  validateAgainstStateAndDeductCaller := validateAgainstStateAndDeductCaller
  loadAccounts := loadAccounts
  applyEip7702AuthList _ := pure 0
  runExecLoop := frames
  reimburseCaller := reimburseCaller
  executionResult _ _ gas := do
    database Journal.commitTx
    return gas
  resultGas gas := gas

variable {frames : Env → U64 → EStateM (EVMError ε) (Journal ε) (FrameResult ReferenceGas)}

theorem effectiveGasPrice_le (tx : TxEnv) (baseFee : U128) :
    effectiveGasPrice tx baseFee ≤ maxFeePerGas tx := by
  unfold effectiveGasPrice maxFeePerGas
  split
  · exact BitVec.le_refl _
  · exact BitVec.le_refl _
  · exact BitVec.le_refl _
  · rw [BitVec.le_def, toNat_wordMin]
    exact min_le_left _ _

/-- The sender is refused exactly when a mainnet check fails. -/
theorem refusal_eq_none {env : Env} {caller : AccountInfo} :
    refusal env caller = none ↔ (handler frames).Accepts env caller := by
  unfold refusal
  constructor
  · intro h
    split at h
    · cases h
    rename_i hcode
    split at h
    · cases h
    rename_i hhigh
    split at h
    · cases h
    rename_i hlow
    refine ⟨?_, ?_, ?_⟩
    · exact BitVec.le_antisymm (BitVec.not_lt.mp hlow) (BitVec.not_lt.mp hhigh)
    · cases hdisabled : env.cfg.isEip3607Disabled with
      | true => exact Or.inl rfl
      | false => simpa [hdisabled] using hcode
    · split at h
      · cases h
      · rename_i spending hmax
        split at h
        · cases h
        · rename_i hfunds
          exact ⟨spending, hmax, BitVec.not_lt.mp hfunds⟩
  · rintro ⟨hnonce, hcode, spending, hmax, hle⟩
    have hcode' : ¬(!env.cfg.isEip3607Disabled && caller.code.rejectsCaller) = true := by
      rcases hcode with h | h <;> simp [h]
    have hmax' : maxBalanceSpending env.tx.base = .ok spending := hmax
    rw [if_neg hcode', hnonce, if_neg (BitVec.lt_irrefl _), if_neg (BitVec.lt_irrefl _), hmax']
    exact if_neg (BitVec.not_lt.mpr hle)

theorem database_ok {α : Type} {x : EStateM ε (Journal ε) α} {s s' : Journal ε} {a : α}
    (h : (database x).run s = .ok a s') : x.run s = .ok a s' := by
  obtain ⟨s₁, hrun, rfl⟩ := run_focus_eq_ok.mp h
  exact hrun

theorem database_error {α : Type} {x : EStateM ε (Journal ε) α} {s s' : Journal ε}
    {e : EVMError ε} (h : (database x).run s = .error e s') :
    ∃ d, e = .database d ∧ x.run s = .error d s' := by
  obtain ⟨d, s₁, hrun, rfl, rfl⟩ := run_focus_eq_error.mp h
  exact ⟨d, rfl, hrun⟩

theorem deduct_ok {env : Env} {s s' : Journal ε}
    (h : (validateAgainstStateAndDeductCaller env).run s = .ok () s') :
    (handler frames).Accepts env (s.info env.tx.caller) ∧
      s'.inner.state env.tx.caller ≠ none ∧
      s'.info = Function.update s.info env.tx.caller
        ((handler frames).deducted env (s.info env.tx.caller)) := by
  obtain ⟨caller, s₁, hload, h₁⟩ := run_bind_eq_ok.mp h
  obtain ⟨hstate, hinfo, hsame, -⟩ := Journal.loadAccountMut_ok (database_ok hload)
  cases hrefusal : refusal env caller.info with
  | some e =>
    rw [hrefusal] at h₁
    cases h₁
  | none =>
    rw [hrefusal] at h₁
    obtain ⟨_, s₂, hmodify, h₂⟩ := run_bind_eq_ok.mp h₁
    cases hmodify
    have hbalance := Journal.setBalance_info hstate (caller.info.balance - gasFee env)
    have hcached := Journal.setBalance_state hstate (caller.info.balance - gasFee env)
    rw [← hinfo]
    refine ⟨refusal_eq_none.mp hrefusal, ?_⟩
    rw [MainnetHandler.deducted]
    cases hcall : env.tx.kind.isCall with
    | true =>
      rw [hcall, if_pos rfl] at h₂
      obtain ⟨_, s₃, hbump, hret⟩ := run_bind_eq_ok.mp h₂
      cases hret
      obtain ⟨_, s₄, hrun, -, hstate', hinfo'⟩ := Journal.bumpNonce_run hcached
      cases hrun.symm.trans (database_ok hbump)
      refine ⟨hstate', ?_⟩
      rw [hinfo', hbalance, Function.update_idem, hsame, if_pos rfl]
      rfl
    | false =>
      rw [hcall, if_neg Bool.false_ne_true] at h₂
      cases h₂
      refine ⟨?_, ?_⟩
      · rw [hcached]
        exact Option.some_ne_none _
      · rw [hbalance, hsame, if_neg Bool.false_ne_true]
        rfl

theorem deduct_error {env : Env} {e : EVMError ε} {s s' : Journal ε}
    (h : (validateAgainstStateAndDeductCaller env).run s = .error e s') :
    s'.info = s.info ∧
      ((∃ d, e = .database d) ∨ ¬(handler frames).Accepts env (s.info env.tx.caller)) := by
  rcases run_bind_eq_error.mp h with hload | ⟨caller, s₁, hload, h₁⟩
  · obtain ⟨d, rfl, hrun⟩ := database_error hload
    rw [(Journal.loadAccountMut_error hrun).1]
    exact ⟨rfl, Or.inl ⟨d, rfl⟩⟩
  obtain ⟨hstate, hinfo, hsame, -⟩ := Journal.loadAccountMut_ok (database_ok hload)
  cases hrefusal : refusal env caller.info with
  | some e' =>
    rw [hrefusal] at h₁
    cases h₁
    refine ⟨hsame, Or.inr fun haccepts => ?_⟩
    rw [← hinfo, ← refusal_eq_none, hrefusal] at haccepts
    cases haccepts
  | none =>
    -- a loaded account is charged without an error
    rw [hrefusal] at h₁
    rcases run_bind_eq_error.mp h₁ with hmodify | ⟨_, s₂, hmodify, h₂⟩
    · cases hmodify
    cases hmodify
    have hcached := Journal.setBalance_state hstate (caller.info.balance - gasFee env)
    split at h₂
    · obtain ⟨_, s₃, hbump, -⟩ := Journal.bumpNonce_run hcached
      rcases run_bind_eq_error.mp h₂ with hfail | ⟨_, _, _, hret⟩
      · obtain ⟨d, -, hrun⟩ := database_error hfail
        cases hbump.symm.trans hrun
      · cases hret
    · cases h₂

/-- The handler obeys the laws, whatever its frames do. -/
theorem lawful : LawfulMainnet (handler frames) where
  transactionType _ := rfl
  effectiveGasPrice_le := effectiveGasPrice_le
  maxBalanceSpending _ _ := rfl
  deduct_ok _ := deduct_ok
  deduct_error := deduct_error
  loadAccounts_ok h := by
    cases h
    rfl
  applyEip7702AuthList_of_ne _ _ := rfl
  applyEip7702AuthList_ok h _ := by
    cases h
    exact ⟨rfl, BitVec.le_refl _⟩
  reimburseCaller_ok h := (Journal.balanceIncr_ok (database_ok h)).1
  reimburseCaller_error h := by
    obtain ⟨d, rfl, -⟩ := database_error h
    exact ⟨d, rfl⟩
  executionResult_ok h := by
    cases h
    exact ⟨rfl, rfl⟩

/-! ## Frames without code -/

theorem transfer_nonce {source target : Address} {amount : U256} {r : Option TransferError}
    {s s' : Journal ε}
    (h : (database (Journal.transfer source target amount)).run s = .ok r s') (a : Address) :
    s'.nonce a = s.nonce a :=
  Journal.transfer_nonce (database_ok h) a

theorem emptyFrames_call {createdAddress : Address} {env : Env} {gas : U64}
    {frame : FrameResult ReferenceGas} {s s' : Journal ε}
    (h : (emptyFrames createdAddress env gas).run s = .ok frame s')
    (hkind : env.tx.kind.isCall = true) (a : Address) : s'.nonce a = s.nonce a := by
  unfold emptyFrames at h
  cases hk : env.tx.kind with
  | create =>
    rw [hk] at hkind
    cases hkind
  | call target =>
    rw [hk] at h
    obtain ⟨r, s₁, htransfer, hret⟩ := run_bind_eq_ok.mp h
    have hnonce := transfer_nonce htransfer a
    cases r <;> cases hret <;> exact hnonce

/-- A call that stops has moved its value. -/
theorem emptyFrames_total {createdAddress : Address} {env : Env} {gas : U64}
    {frame : FrameResult ReferenceGas} {s s' : Journal ε}
    (h : (emptyFrames createdAddress env gas).run s = .ok frame s')
    (hkind : env.tx.kind.isCall = true) (hstop : frame.result = .stop) :
    Ledger.total s'.balance = Ledger.total s.balance := by
  unfold emptyFrames at h
  cases hk : env.tx.kind with
  | create =>
    rw [hk] at hkind
    cases hkind
  | call target =>
    rw [hk] at h
    obtain ⟨r, s₁, htransfer, hret⟩ := run_bind_eq_ok.mp h
    cases r with
    | some e =>
      cases hret
      cases hstop
    | none =>
      cases hret
      have houtcome := Journal.transfer_ok (database_ok htransfer)
      have hmoved := Journal.transferOutcome_transferred (congrArg Prod.fst houtcome).symm
      rw [← congrArg Prod.snd houtcome] at hmoved
      exact hmoved.total_eq

theorem emptyFrames_create {createdAddress : Address} {env : Env} {gas : U64}
    {frame : FrameResult ReferenceGas} {s s' : Journal ε}
    (h : (emptyFrames createdAddress env gas).run s = .ok frame s')
    (hkind : env.tx.kind.isCall = false) :
    s'.nonce env.tx.caller =
      if s.balance env.tx.caller < env.tx.value then s.nonce env.tx.caller
      else ((s.info env.tx.caller).bump).nonce := by
  unfold emptyFrames at h
  cases hk : env.tx.kind with
  | call target =>
    rw [hk] at hkind
    cases hkind
  | create =>
    rw [hk] at h
    obtain ⟨caller, s₁, hload, h₁⟩ := run_bind_eq_ok.mp h
    obtain ⟨hstate, hinfo, hsame, -⟩ := Journal.loadAccountMut_ok (database_ok hload)
    rw [Journal.balance, ← hinfo]
    split at h₁
    · rename_i hlt
      cases h₁
      rw [if_pos hlt, Journal.nonce, hsame, Journal.nonce]
    · rename_i hlt
      rw [if_neg hlt]
      obtain ⟨_, s₂, hbump, h₂⟩ := run_bind_eq_ok.mp h₁
      obtain ⟨_, s₃, htransfer, hret⟩ := run_bind_eq_ok.mp h₂
      cases hret
      obtain ⟨_, s₄, hrun, -, -, hinfo'⟩ := Journal.bumpNonce_run hstate
      cases hrun.symm.trans (database_ok hbump)
      rw [transfer_nonce htransfer, Journal.nonce, hinfo', Function.update_self]

/-- Frames without code obey the laws of nonces. -/
theorem lawfulFrames (createdAddress : Address) :
    LawfulFrames (handler (ε := ε) (emptyFrames createdAddress)) := by
  constructor
  · intro env gas frame s s' h
    change s.nonce env.tx.caller ≤ s'.nonce env.tx.caller
    cases hkind : env.tx.kind.isCall with
    | true =>
      rw [emptyFrames_call h hkind]
      exact BitVec.le_refl _
    | false =>
      rw [emptyFrames_create h hkind]
      split
      · exact BitVec.le_refl _
      · exact AccountInfo.nonce_le_bump _
  · intro env gas frame s s' h hkind hfunds hnonce
    change s.nonce env.tx.caller < s'.nonce env.tx.caller
    have hcovered : ¬ s.balance env.tx.caller < env.tx.value := BitVec.not_lt.mpr hfunds
    rw [emptyFrames_create h hkind, if_neg hcovered]
    exact AccountInfo.nonce_lt_bump hnonce
  · intro env gas frame s s' h hkind hfunds
    change s'.nonce env.tx.caller = s.nonce env.tx.caller
    rw [emptyFrames_create h hkind]
    exact if_pos hfunds

/-! ## A sample -/

/-- A legacy transaction with the given target and value, which offers 60000 gas at the
price 1. -/
def sampleEnv (spec : ScrollSpecId) (kind : TxKind) (value : U256) : Env where
  tx :=
    { base := { caller := 1, gasLimit := 60000, gasPrice := 1, kind, value, nonce := 7 }
      rlpBytes := some [1]
      compressionRatio := some 1000000000
      compressedSize := some 1 }
  block := { beneficiary := 2, gasLimit := 30000000, prevrandao := some 0 }
  cfg :=
    { spec
      chainId := 1
      gasParams :=
        { warmStorageReadCost := 100
          coldStorageAdditionalCost := 2000
          initialTxGas := fun _ isCreate _ _ _ => ⟨if isCreate then 53000 else 21000, 21000⟩ }
      txGasLimitCap := 16777216
      maxInitcodeSize := 49152 }

/-- A database with the sender of the sample, and oracle values under which its L1 fee is
100 wei from Galileo on. -/
def sampleJournal (balance : U256) : Journal Unit where
  database :=
    { basic := fun address => .ok (if address = 1 then some { balance, nonce := 7 } else none)
      storage := fun _ key => .ok (if key = l1CommitScalarSlot then 50000000000 else 1) }

theorem total_sampleJournal (balance : U256) :
    Ledger.total (sampleJournal balance).balance = balance.toNat := by
  have hbalance : (sampleJournal balance).balance = Function.update (fun _ => 0) 1 balance := by
    funext a
    by_cases ha : a = 1
    · subst ha
      rfl
    · have hbasic : (sampleJournal balance).database.basic a = .ok none := by
        simp only [sampleJournal, if_neg ha]
      rw [Function.update_of_ne ha]
      change ((sampleJournal balance).database.info a).balance = 0
      rw [Database.info, hbasic]
  have hzero : Ledger.total (fun _ : Address => (0 : U256)) = 0 := by
    simp [Ledger.total]
  have hupdate := Ledger.total_update (fun _ : Address => (0 : U256)) 1 balance
  have hempty : ((fun _ : Address => (0 : U256)) 1).toNat = 0 := rfl
  rw [hzero, Nat.zero_add, hempty, Nat.add_zero] at hupdate
  rw [hbalance, hupdate]

/-- The chain context fetched from that database. -/
def sampleChain : ScrollChainContext where
  l1BlockInfo :=
    { l1BaseFee := 1
      l1FeeOverhead := 1
      l1BaseFeeScalar := 1
      l1BlobBaseFee := some 1
      l1CommitScalar := some 50000000000
      l1BlobScalar := some 1
      calldataGas := some 50000000000
      penaltyThreshold := some 1
      penaltyFactor := some 1 }

/-- A handler for the sample. -/
def sampleHandler :
    ScrollHandler (Journal Unit) Unit ReferenceGas ReferenceResultGas ReferenceResultGas where
  mainnet := handler (emptyFrames 9)

end ReferenceMainnet

end ScrollRevm
