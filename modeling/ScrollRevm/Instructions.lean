import ScrollRevm.Journal.Interface
import ScrollRevm.Revm.Gas

/-!
# The BLOCKHASH instruction

`BLOCKHASH` as the crate overrides it. From Feynman on the hash is read from the ring
buffer that the EIP-2935 system contract keeps in its storage, and from TsukiV2 on the
read is charged as an SLOAD (EIP-7709) without warming the account of the contract. The
20 gas of the opcode are charged before.
-/

namespace ScrollRevm

open FixedWidth StateResult

def historyStorageAddress : Address := 0x0000F90827F1C53a10cb7A02335B175320002935
def historyServeWindow : U64 := 8191

/-- `BLOCK_HASH_HISTORY`. -/
def blockHashHistory : U64 := 256

/-- What an instruction changes. -/
structure Machine (J : Type) where
  /-- The stack, its top first. -/
  stack : List U256
  /-- The remaining gas. -/
  gas : U64
  host : J

/-- An instruction returns or halts the frame. A frame that is out of gas or failed fatally
gives no gas back, so that a halt leaves the gas as it is. -/
abbrev Instruction (J α : Type) := EStateM InstructionResult (Machine J) α

def Machine.withHost {J : Type} (host : J) (machine : Machine J) : Machine J :=
  { machine with host := host }

/-- The halt a failed load causes. -/
def LoadError.halt {ε : Type} : LoadError ε → InstructionResult
  | .coldLoadSkipped => .outOfGas
  | .dbError _ => .fatalExternalError

section Interpreter

variable {J ε' α : Type}

/-- A host operation as an instruction. -/
def onHost (halt : ε' → InstructionResult) (x : EStateM ε' J α) : Instruction J α :=
  focus Machine.host Machine.withHost halt x

/-- `gas!`. -/
def recordCost (cost : U64) : Instruction J Unit := fun machine =>
  match checkedSub machine.gas cost with
  | some rest => .ok () { machine with gas := rest }
  | none => .error .outOfGas machine

/-- `gas.remaining()`. -/
def remainingGas : Instruction J U64 := fun machine => .ok machine.gas machine

/-- `popn_top!` of the top alone. -/
def top : Instruction J U256 := fun machine =>
  match machine.stack with
  | value :: _ => .ok value machine
  | [] => .error .stackUnderflow machine

/-- Writes the top of the stack. -/
def setTop (value : U256) : Instruction J Unit :=
  modify fun machine => { machine with stack := value :: machine.stack.tail }

end Interpreter

/-- `as_u64_saturated!`. -/
def asU64Saturated (value : U256) : U64 :=
  if value.toNat < 2 ^ 64 then value.setWidth 64 else BitVec.allOnes 64

/-- The big-endian bytes of a 64-bit word. -/
def toBeBytes (word : U64) : Bytes :=
  (List.range 8).map fun i => (word >>> (8 * (7 - i))).setWidth 8

/-- The block hash before Feynman: the hash of the chain id and the block number. -/
def computeBlockHash (keccak256 : Bytes → U256) (chainId blockNumber : U64) : U256 :=
  keccak256 (toBeBytes chainId ++ toBeBytes blockNumber)

section History

variable {J ε : Type} [JournalTr J ε]

/-- Loads the history account in a checkpoint that is reverted, and then its slot. The
rollback restores the warmth of the account and keeps the account cached. -/
def isolatedHistorySload (index : U256) (skipCold : Bool) :
    EStateM (LoadError ε) J (StateLoad U256) := do
  let checkpoint ← focus id (fun s _ => s) .dbError JournalTr.checkpoint
  let loaded ← attempt (JournalTr.loadAccountInfoSkipColdLoad historyStorageAddress false)
  focus id (fun s _ => s) .dbError (JournalTr.checkpointRevert checkpoint)
  match loaded with
  | .error e => throw e
  | .ok _ => JournalTr.sloadSkipColdLoad historyStorageAddress index skipCold

/-- Loads a slot of the history account without changing the warmth of the account: from
the cached account, or else after an isolated load of it. -/
def eip7709HistorySload (index : U256) (skipCold : Bool) :
    EStateM (LoadError ε) J (StateLoad U256) := do
  match ← attempt (JournalTr.sloadSkipColdLoad historyStorageAddress index skipCold) with
  | .ok value => return value
  | .error (.dbError e) => throw (.dbError e)
  | .error .coldLoadSkipped => isolatedHistorySload index skipCold

/-- The lookup from TsukiV2 on, charged as an SLOAD. `load` reads the slot. -/
def chargedLookup (load : U256 → Bool → EStateM (LoadError ε) J (StateLoad U256))
    (gasParams : GasParams) (index : U256) : Instruction J U256 := do
  recordCost gasParams.warmStorageReadCost
  let remaining ← remainingGas
  let skipCold := decide (remaining < gasParams.coldStorageAdditionalCost)
  let value ← onHost LoadError.halt (load index skipCold)
  if value.isCold then
    recordCost gasParams.coldStorageAdditionalCost
  return value.data

/-- The lookup before TsukiV2, at no further charge. -/
def freeLookup (index : U256) : Instruction J U256 := do
  let _ ← onHost (fun _ => .fatalExternalError)
    (JournalTr.loadAccountDelegated (J := J) historyStorageAddress)
  let value ← onHost (fun _ => .fatalExternalError)
    (JournalTr.sloadSkipColdLoad (J := J) historyStorageAddress index false)
  return value.data

/-- `BLOCKHASH`, with `load` for the history slot. -/
def blockhashWith (load : U256 → Bool → EStateM (LoadError ε) J (StateLoad U256))
    (keccak256 : Bytes → U256) (env : Env) : Instruction J Unit := do
  let requestedNumber ← top
  match checkedSub env.block.number requestedNumber with
  | none => setTop 0
  | some diff =>
    let diff := asU64Saturated diff
    if diff = 0 then
      -- the current block
      setTop 0
    else if blockHashHistory < diff then
      setTop 0
    else if !env.cfg.spec.isEnabledIn .feynman then
      setTop (computeBlockHash keccak256 env.cfg.chainId (asU64Saturated requestedNumber))
    else
      let index : U256 := (asU64Saturated requestedNumber % historyServeWindow).setWidth 256
      let hash ←
        if env.cfg.spec.isEnabledIn .tsukiV2 then chargedLookup load env.cfg.gasParams index
        else freeLookup index
      setTop hash

/-- `BLOCKHASH`. -/
def blockhash (keccak256 : Bytes → U256) (env : Env) : Instruction J Unit :=
  blockhashWith eip7709HistorySload keccak256 env

end History

/-! ## Over a lawful journal -/

/-- The machine with another view of its host. -/
def Machine.mapHost {J K : Type} (view : J → K) (machine : Machine J) : Machine K :=
  ⟨machine.stack, machine.gas, view machine.host⟩

section Simulates

variable {J K ε' α : Type} {view : J → K}

theorem onHost_simulates {x : EStateM ε' J α} {y : EStateM ε' K α} (h : Simulates view x y)
    (halt : ε' → InstructionResult) :
    Simulates (Machine.mapHost view) (onHost halt x) (onHost halt y) :=
  h.focus halt (fun _ => rfl) fun _ _ => rfl

theorem recordCost_simulates (view : J → K) (cost : U64) :
    Simulates (Machine.mapHost view) (recordCost (J := J) cost) (recordCost cost) := by
  rintro ⟨stack, gas, host⟩
  change mapState _ (recordCost cost _) = recordCost cost _
  unfold recordCost Machine.mapHost
  dsimp only
  cases checkedSub gas cost <;> rfl

theorem remainingGas_simulates (view : J → K) :
    Simulates (Machine.mapHost view) (remainingGas (J := J)) remainingGas := fun _ => rfl

theorem top_simulates (view : J → K) :
    Simulates (Machine.mapHost view) (top (J := J)) top := by
  rintro ⟨stack, gas, host⟩
  cases stack <;> rfl

theorem setTop_simulates (view : J → K) (value : U256) :
    Simulates (Machine.mapHost view) (setTop (J := J) value) (setTop value) := fun _ => rfl

end Simulates

section Lawful

variable {J ε : Type} [JournalTr J ε] [LawfulJournal J]

theorem isolatedHistorySload_simulates (index : U256) (skipCold : Bool) :
    Simulates JournalTr.view (isolatedHistorySload (J := J) index skipCold)
      (isolatedHistorySload (J := Journal ε) index skipCold) := by
  refine (LawfulJournal.checkpoint.mapError _).bind fun checkpoint => ?_
  refine (LawfulJournal.loadAccountInfoSkipColdLoad _ _).attempt.bind fun loaded => ?_
  refine ((LawfulJournal.checkpointRevert checkpoint).mapError _).bind fun _ => ?_
  cases loaded with
  | error e => exact .throw _ e
  | ok info => exact LawfulJournal.sloadSkipColdLoad _ _ _

theorem eip7709HistorySload_simulates (index : U256) (skipCold : Bool) :
    Simulates JournalTr.view (eip7709HistorySload (J := J) index skipCold)
      (eip7709HistorySload (J := Journal ε) index skipCold) := by
  refine (LawfulJournal.sloadSkipColdLoad _ _ _).attempt.bind fun loaded => ?_
  match loaded with
  | .ok value => exact .pure _ value
  | .error (.dbError e) => exact .throw _ _
  | .error .coldLoadSkipped => exact isolatedHistorySload_simulates index skipCold

/-- `BLOCKHASH` over a lawful journal acts on its records as over the documented one. -/
theorem blockhashWith_simulates {load : U256 → Bool → EStateM (LoadError ε) J (StateLoad U256)}
    {load' : U256 → Bool → EStateM (LoadError ε) (Journal ε) (StateLoad U256)}
    (hload : ∀ index skipCold, Simulates JournalTr.view (load index skipCold)
      (load' index skipCold))
    (keccak256 : Bytes → U256) (env : Env) :
    Simulates (Machine.mapHost JournalTr.view) (blockhashWith load keccak256 env)
      (blockhashWith load' keccak256 env) := by
  have hcharged (index : U256) : Simulates (Machine.mapHost JournalTr.view)
      (chargedLookup load env.cfg.gasParams index)
      (chargedLookup load' env.cfg.gasParams index) := by
    refine (recordCost_simulates _ _).bind fun _ => ?_
    refine (remainingGas_simulates _).bind fun remaining => ?_
    refine (onHost_simulates (hload index _) _).bind fun value => ?_
    exact .ite ((recordCost_simulates _ _).bind fun _ => .pure _ _) (.pure _ _)
  have hfree (index : U256) : Simulates (Machine.mapHost JournalTr.view)
      (freeLookup (J := J) index) (freeLookup (J := Journal ε) index) :=
    (onHost_simulates (LawfulJournal.loadAccountDelegated _) _).bind fun _ =>
      (onHost_simulates (LawfulJournal.sloadSkipColdLoad _ _ _) _).bind fun _ => .pure _ _
  refine (top_simulates _).bind fun number => ?_
  cases checkedSub env.block.number number with
  | none => exact setTop_simulates _ _
  | some diff =>
    refine .ite (setTop_simulates _ _) (.ite (setTop_simulates _ _)
      (.ite (setTop_simulates _ _) ?_))
    exact .ite ((hcharged _).bind fun hash => setTop_simulates _ hash)
      ((hfree _).bind fun hash => setTop_simulates _ hash)

end Lawful

end ScrollRevm
