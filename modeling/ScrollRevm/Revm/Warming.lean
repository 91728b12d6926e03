import ScrollRevm.Journal.Accounts
import ScrollRevm.Revm.Reference

/-!
# What the mainnet steps read and warm

revm's handler is generic in the transaction and the hardfork. It sees a transaction
through the fields every transaction has and a Scroll hardfork as the Ethereum one it maps
to, but for the step that loads accounts: that one warms the precompiles of the Scroll
hardfork, the coinbase and the access list, and changes nothing else.
-/

namespace ScrollRevm

/-- Two environments that revm's handler cannot tell apart. -/
structure SameMainnet (env env' : Env) : Prop where
  base_eq : env.tx.base = env'.tx.base
  block_eq : env.block = env'.block
  cfg_eq : { env.cfg with spec := env'.cfg.spec } = env'.cfg
  spec_eq : env.cfg.spec.intoEthSpecId = env'.cfg.spec.intoEthSpecId

variable {J ε G R X : Type} [JournalTr J ε]

/-- What revm documents of what its deduction reads. -/
structure DeductionReads (mainnet : MainnetHandler J ε G R X) : Prop where
  validateAgainstStateAndDeductCaller {env env' : Env} (h : SameMainnet env env') :
    mainnet.validateAgainstStateAndDeductCaller env =
      mainnet.validateAgainstStateAndDeductCaller env'

/-- What revm documents of what its handler reads around the frames. -/
structure MainnetReads (mainnet : MainnetHandler J ε G R X) : Prop where
  /-- The precompiles are those of the Scroll hardfork. -/
  loadAccounts {env env' : Env} (h : SameMainnet env env')
    (hspec : env.cfg.spec = env'.cfg.spec) :
    mainnet.loadAccounts env = mainnet.loadAccounts env'
  executionResult {env env' : Env} (h : SameMainnet env env') :
    mainnet.executionResult env = mainnet.executionResult env'

/-- What revm documents of the step that loads accounts. -/
structure LawfulWarming (mainnet : MainnetHandler J ε G R X) : Prop where
  loadAccounts_ok {env : Env} {j j' : J} (h : (mainnet.loadAccounts env).run j = .ok () j') :
    Journal.SameAccounts (JournalTr.view j) (JournalTr.view j')
  loadAccounts_error {env : Env} {e : EVMError ε} {j j' : J}
    (h : (mainnet.loadAccounts env).run j = .error e j') : ∃ d, e = .database d

namespace ReferenceMainnet

variable {frames : Env → U64 → EStateM (EVMError ε) (Journal ε) (FrameResult ReferenceGas)}

/-- The deduction reads what the law says. -/
theorem deductionReads : DeductionReads (handler frames) := by
  constructor
  intro env env' h
  have h3607 : env.cfg.isEip3607Disabled = env'.cfg.isEip3607Disabled := by
    rw [← h.cfg_eq]
  have hrefusal : refusal env = refusal env' := by
    funext caller
    unfold refusal ScrollTransaction.nonce
    rw [h.base_eq, h3607]
  have hfee : gasFee env = gasFee env' := by
    unfold gasFee ScrollTransaction.gasLimit
    rw [h.base_eq, h.block_eq]
  change validateAgainstStateAndDeductCaller env = validateAgainstStateAndDeductCaller env'
  unfold validateAgainstStateAndDeductCaller ScrollTransaction.caller ScrollTransaction.kind
  rw [hrefusal, hfee, h.base_eq]

/-- The steps around the frames read what the laws say. -/
theorem reads : MainnetReads (handler frames) := by
  constructor
  · intro env env' h hspec
    change loadAccounts env = loadAccounts env'
    unfold loadAccounts ScrollTransaction.accessList
    rw [h.base_eq, h.block_eq, hspec]
  · intro env env' h
    rfl

/-- Loading accounts only warms addresses. -/
theorem warming : LawfulWarming (handler frames) := by
  constructor
  · intro env s s' h
    cases h
    exact ⟨rfl, rfl, rfl⟩
  · intro env e s s' h
    cases h

/-- An L1 message of the sample's sender, with a gas price it never pays and none of the
inputs of the L1 fee. -/
def sampleL1Message (spec : ScrollSpecId) (value : U256) : Env :=
  let env := sampleEnv spec (.call 5) value
  { env with tx := { base := { env.tx.base with txType := l1MessageType } } }

end ReferenceMainnet

end ScrollRevm
