import ScrollRevm.Precompile.Reference
import ScrollRevm.Precompile.Frames

/-!
# The precompiles of a hardfork

The provider holds the precompiles of one hardfork: a static set, built in layers, and from
Tsuki on the transfer precompile. What is installed at which address is compared with one
schedule, from which follows what an upgrade can change.
-/

namespace ScrollRevm

open FixedWidth StateResult LayeredTable

/-- A precompile that may act on the journal. -/
structure DynPrecompile (J : Type) where
  id : PrecompileId
  call : PrecompileInput → EStateM PrecompileError J PrecompileOutput

section Provider

variable {J : Type}

/-- A call that leaves the journal. -/
def Precompile.call (self : Precompile) (input : PrecompileInput) :
    EStateM PrecompileError J PrecompileOutput := fun j =>
  match self.execute input.data input.gas with
  | .ok output => .ok output j
  | .error e => .error e j

def Precompile.toDyn (self : Precompile) : DynPrecompile J := ⟨self.id, self.call⟩

theorem Precompile.toDyn_ok {self : Precompile} {input : PrecompileInput}
    {output : PrecompileOutput} (h : self.execute input.data input.gas = .ok output) (j : J) :
    (self.toDyn.call input).run j = .ok output j := by
  change self.call input j = _
  unfold Precompile.call
  rw [h]

theorem Precompile.toDyn_error {self : Precompile} {input : PrecompileInput}
    {e : PrecompileError} (h : self.execute input.data input.gas = .error e) (j : J) :
    (self.toDyn.call input).run j = .error e j := by
  change self.call input j = _
  unfold Precompile.call
  rw [h]

/-- alloy-evm's map of precompiles by address, static ones and others. -/
class PrecompilesMapTr (D : Type) (S J : outParam Type)
    extends LayeredTable D Address (DynPrecompile J) where
  fromStatic : S → D

/-- What alloy-evm documents of its map. -/
class LawfulPrecompilesMapTr (D : Type) {S J : Type} [PrecompilesTr S] [PrecompilesMapTr D S J] :
    Prop extends LawfulLayeredTable D where
  get_fromStatic (precompiles : S) (address : Address) :
    LayeredTable.get address (PrecompilesMapTr.fromStatic precompiles : D) =
      (LayeredTable.get address precompiles).map Precompile.toDyn

variable {D S ε : Type} [PrecompilesTr S] [PrecompilesMapTr D S J]

/-- Installs precompiles at the given addresses, in place of what is there. -/
def PrecompilesMap.withExtendedPrecompiles (new : List (Address × DynPrecompile J))
    (self : D) : D :=
  LayeredTable.extend new self

variable [JournalTr J ε] [Repr ε]

def TransferPrecompile.precompile : DynPrecompile J := ⟨Addresses.transferId, run⟩

/-- What Tsuki adds to the static set. -/
def tsukiExtensions : List (Address × DynPrecompile J) :=
  [(Addresses.transfer, TransferPrecompile.precompile)]

def PrecompilesMap.tsuki (base : RevmPrecompiles) : D :=
  withExtendedPrecompiles tsukiExtensions
    (PrecompilesMapTr.fromStatic (Precompiles.tsukiStatic base))

/-- The precompiles of one hardfork. -/
structure ScrollPrecompileProvider (D : Type) where
  inner : D
  spec : ScrollSpecId

namespace ScrollPrecompileProvider

open PrecompilesMapTr (fromStatic)

def newWithSpec (base : RevmPrecompiles) (spec : ScrollSpecId) : ScrollPrecompileProvider D where
  inner :=
    match spec with
    | .shanghai => fromStatic (Precompiles.preBernoulli base)
    | .bernoulli | .curie | .darwin => fromStatic (Precompiles.bernoulli base)
    | .euclid => fromStatic (Precompiles.euclid base)
    | .feynman => fromStatic (Precompiles.feynman base)
    | .galileo => fromStatic (Precompiles.galileo base)
    | .tsuki | .tsukiV2 => PrecompilesMap.tsuki base
  spec := spec

/-- Changes the hardfork; returns whether it was another one. -/
def setSpec (base : RevmPrecompiles) (spec : ScrollSpecId) (self : ScrollPrecompileProvider D) :
    Bool × ScrollPrecompileProvider D :=
  if spec = self.spec then (false, self) else (true, newWithSpec base spec)

/-- The addresses that a transaction finds warm. -/
def warmAddresses (self : ScrollPrecompileProvider D) : List Address :=
  LayeredTable.keys self.inner

def contains (self : ScrollPrecompileProvider D) (address : Address) : Bool :=
  (LayeredTable.get address self.inner).isSome

/-- Calls the precompile at the address of the code, if there is one. -/
def run (self : ScrollPrecompileProvider D) (input : PrecompileInput) :
    EStateM PrecompileError J (Option PrecompileOutput) :=
  match LayeredTable.get input.bytecodeAddress self.inner with
  | some precompile => do
    let output ← precompile.call input
    return some output
  | none => return none

end ScrollPrecompileProvider

end Provider

/-! ## The schedule -/

/-- What revm documents of its precompiles: their names and addresses. -/
structure LawfulPrecompiles (base : RevmPrecompiles) : Prop where
  ecrecover : base.ecrecover.id = .ecRec ∧ base.ecrecover.address = Addresses.ecrecover
  identityFun : base.identityFun.id = .identity ∧ base.identityFun.address = Addresses.identity
  bn254AddIstanbul :
    base.bn254AddIstanbul.id = .bn254Add ∧ base.bn254AddIstanbul.address = Addresses.bn254Add
  bn254MulIstanbul :
    base.bn254MulIstanbul.id = .bn254Mul ∧ base.bn254MulIstanbul.address = Addresses.bn254Mul
  bn254PairIstanbul : base.bn254PairIstanbul.id = .bn254Pairing ∧
    base.bn254PairIstanbul.address = Addresses.bn254Pairing
  p256verify : base.p256verify.id = .p256Verify ∧ base.p256verify.address = Addresses.p256verify
  p256verifyOsaka :
    base.p256verifyOsaka.id = .p256Verify ∧ base.p256verifyOsaka.address = Addresses.p256verify

section Schedule

variable (base : RevmPrecompiles) (spec : ScrollSpecId)

/-- The static precompile that a hardfork plans at an address. -/
def scheduledStatic (address : Address) : Option Precompile :=
  if address = Addresses.p256verify then
    if spec.isEnabledIn .galileo then some base.p256verifyOsaka
    else if spec.isEnabledIn .euclid then some base.p256verify
    else none
  else if address = Addresses.blake2f then some Blake2.shanghai
  else if address = Addresses.bn254Pairing then
    some (if spec.isEnabledIn .feynman then Bn254Pair.feynman base else Bn254Pair.bernoulli base)
  else if address = Addresses.bn254Mul then some base.bn254MulIstanbul
  else if address = Addresses.bn254Add then some base.bn254AddIstanbul
  else if address = Addresses.modexp then
    some (if spec.isEnabledIn .galileo then Modexp.galileo base else Modexp.bernoulli base)
  else if address = Addresses.identity then some base.identityFun
  else if address = Addresses.ripemd160 then
    some (if spec.isEnabledIn .tsuki then Ripemd160.tsuki base else Ripemd160.shanghai)
  else if address = Addresses.sha256 then
    some (if spec.isEnabledIn .bernoulli then Sha256.bernoulli base else Sha256.shanghai)
  else if address = Addresses.ecrecover then some base.ecrecover
  else none

/-- The precompile that a hardfork plans at an address. -/
def scheduled {J ε : Type} [JournalTr J ε] [Repr ε] (address : Address) :
    Option (DynPrecompile J) :=
  if address = Addresses.transfer ∧ spec.isEnabledIn .tsuki = true then
    some TransferPrecompile.precompile
  else (scheduledStatic base spec address).map Precompile.toDyn

end Schedule

/-! ## What is installed -/

namespace Precompiles

variable {S : Type} [PrecompilesTr S] [LawfulPrecompilesTr S] {base : RevmPrecompiles}
  (hbase : LawfulPrecompiles base) (address : Address)

/-- A layer whose precompiles are planned, and beside which nothing changes in the plan. -/
theorem get_layer {below : S} {plan : Address → Option Precompile}
    (plan' : Address → Option Precompile) {new : List Precompile}
    (hbelow : LayeredTable.get address below = plan address)
    (hnew : ∀ precompile ∈ new, plan' precompile.address = some precompile)
    (hsame : (∀ precompile ∈ new, address ≠ precompile.address) →
      plan address = plan' address) :
    LayeredTable.get address (extend new below) = plan' address := by
  refine get_extend_plan (fun entry hmem => ?_) fun hne => ?_
  · obtain ⟨precompile, hprecompile, rfl⟩ := List.mem_map.mp hmem
    exact hnew precompile hprecompile
  · rw [hbelow]
    exact hsame fun precompile hmem => hne _ (List.mem_map_of_mem hmem)

include hbase

theorem get_preBernoulli :
    LayeredTable.get address (preBernoulli base : S) = scheduledStatic base .shanghai address := by
  have hdefault : LayeredTable.get address (PrecompilesTr.default : S) =
      Function.const Address none address := LawfulPrecompilesTr.get_default address
  refine get_layer address (scheduledStatic base .shanghai) hdefault ?_ fun hne => ?_
  · simp only [List.forall_mem_cons, List.not_mem_nil, false_imp_iff, implies_true, and_true,
      hbase.ecrecover.2, hbase.identityFun.2, hbase.bn254AddIstanbul.2, hbase.bn254MulIstanbul.2]
    exact ⟨rfl, rfl, rfl, rfl, rfl, rfl, rfl, rfl, rfl⟩
  · simp only [List.forall_mem_cons, List.not_mem_nil, false_imp_iff, implies_true, and_true,
      hbase.ecrecover.2, hbase.identityFun.2, hbase.bn254AddIstanbul.2,
      hbase.bn254MulIstanbul.2] at hne
    obtain ⟨hecrecover, hsha256, hripemd160, hidentity, hmodexp, hadd, hmul, hpairing, hblake2f⟩ :
        address ≠ Addresses.ecrecover ∧ address ≠ Addresses.sha256 ∧
          address ≠ Addresses.ripemd160 ∧ address ≠ Addresses.identity ∧
          address ≠ Addresses.modexp ∧ address ≠ Addresses.bn254Add ∧
          address ≠ Addresses.bn254Mul ∧ address ≠ Addresses.bn254Pairing ∧
          address ≠ Addresses.blake2f := hne
    unfold scheduledStatic
    simp only [hecrecover, hsha256, hripemd160, hidentity, hmodexp, hadd, hmul, hpairing,
      hblake2f, if_false]
    exact (ite_self _).symm

theorem get_bernoulli :
    LayeredTable.get address (bernoulli base : S) = scheduledStatic base .bernoulli address := by
  refine get_layer address _ (get_preBernoulli hbase address) ?_ fun hne => ?_
  · exact List.forall_mem_singleton.mpr rfl
  · have hsha256 : address ≠ Addresses.sha256 := hne _ (List.mem_singleton_self _)
    unfold scheduledStatic
    rw [if_neg hsha256, if_neg hsha256]
    rfl

theorem get_euclid :
    LayeredTable.get address (euclid base : S) = scheduledStatic base .euclid address := by
  refine get_layer address _ (get_bernoulli hbase address) ?_ fun hne => ?_
  · refine List.forall_mem_singleton.mpr ?_
    rw [hbase.p256verify.2]
    rfl
  · have hp256 : address ≠ Addresses.p256verify := by
      rw [← hbase.p256verify.2]
      exact hne _ (List.mem_singleton_self _)
    unfold scheduledStatic
    rw [if_neg hp256, if_neg hp256]
    rfl

theorem get_feynman :
    LayeredTable.get address (feynman base : S) = scheduledStatic base .feynman address := by
  refine get_layer address _ (get_euclid hbase address) ?_ fun hne => ?_
  · refine List.forall_mem_singleton.mpr ?_
    rw [Bn254Pair.feynman, hbase.bn254PairIstanbul.2]
    rfl
  · have hpair : address ≠ Addresses.bn254Pairing := by
      rw [← hbase.bn254PairIstanbul.2]
      exact hne _ (List.mem_singleton_self _)
    unfold scheduledStatic
    rw [if_neg hpair, if_neg hpair]
    rfl

theorem get_galileo :
    LayeredTable.get address (galileo base : S) = scheduledStatic base .galileo address := by
  refine get_layer address _ (get_feynman hbase address) ?_ fun hne => ?_
  · refine List.forall_mem_cons.mpr ⟨rfl, List.forall_mem_singleton.mpr ?_⟩
    rw [hbase.p256verifyOsaka.2]
    rfl
  · obtain ⟨hmodexp, hrest⟩ := List.forall_mem_cons.mp hne
    change address ≠ Addresses.modexp at hmodexp
    have hp256 : address ≠ Addresses.p256verify := by
      rw [← hbase.p256verifyOsaka.2]
      exact hrest _ (List.mem_singleton_self _)
    unfold scheduledStatic
    rw [if_neg hp256, if_neg hp256, if_neg hmodexp, if_neg hmodexp]
    rfl

theorem get_tsukiStatic :
    LayeredTable.get address (tsukiStatic base : S) = scheduledStatic base .tsuki address := by
  refine get_layer address _ (get_galileo hbase address) ?_ fun hne => ?_
  · exact List.forall_mem_singleton.mpr rfl
  · have hripemd160 : address ≠ Addresses.ripemd160 :=
      hne _ (List.mem_singleton_self _)
    unfold scheduledStatic
    rw [if_neg hripemd160, if_neg hripemd160]
    rfl

/-- The static set of a hardfork is the planned one. -/
theorem get_ofSpec (spec : ScrollSpecId) :
    LayeredTable.get address (ofSpec base spec : S) = scheduledStatic base spec address := by
  cases spec with
  | shanghai => exact get_preBernoulli hbase address
  | bernoulli | curie | darwin => exact get_bernoulli hbase address
  | euclid => exact get_euclid hbase address
  | feynman => exact get_feynman hbase address
  | galileo => exact get_galileo hbase address
  | tsuki | tsukiV2 => exact get_tsukiStatic hbase address

end Precompiles

section Installed

variable {D S J ε : Type} [PrecompilesTr S] [PrecompilesMapTr D S J] [JournalTr J ε] [Repr ε]
  {base : RevmPrecompiles}

/-- The static set, and from Tsuki on the transfer precompile with it. -/
theorem ScrollPrecompileProvider.newWithSpec_inner (base : RevmPrecompiles)
    (spec : ScrollSpecId) :
    (newWithSpec (D := D) base spec).inner =
      if spec.isEnabledIn .tsuki then
        PrecompilesMap.withExtendedPrecompiles tsukiExtensions
          (PrecompilesMapTr.fromStatic (Precompiles.ofSpec base spec))
      else PrecompilesMapTr.fromStatic (Precompiles.ofSpec base spec) := by
  cases spec <;> rfl

variable [LawfulPrecompilesTr S] [LawfulPrecompilesMapTr D]

/-- What is installed at an address is what the hardfork plans there. -/
theorem ScrollPrecompileProvider.get_newWithSpec (hbase : LawfulPrecompiles base)
    (spec : ScrollSpecId) (address : Address) :
    get address (newWithSpec (D := D) base spec).inner = scheduled base spec address := by
  have hstatic : get address (PrecompilesMapTr.fromStatic (Precompiles.ofSpec base spec) : D) =
      (scheduledStatic base spec address).map Precompile.toDyn := by
    rw [LawfulPrecompilesMapTr.get_fromStatic, Precompiles.get_ofSpec hbase]
  rw [newWithSpec_inner]
  unfold scheduled
  cases htsuki : spec.isEnabledIn .tsuki with
  | false =>
    rw [if_neg (Bool.false_ne_true), if_neg fun h => Bool.false_ne_true h.2, hstatic]
  | true =>
    rw [if_pos rfl]
    by_cases h : address = Addresses.transfer
    · rw [if_pos ⟨h, rfl⟩, h, PrecompilesMap.withExtendedPrecompiles,
        LawfulLayeredTable.get_extend]
      rfl
    · have hother : lastEntry (tsukiExtensions (J := J)) address = none := by
        cases hlast : lastEntry (tsukiExtensions (J := J)) address with
        | none => rfl
        | some precompile =>
          have hmem := lastEntry_eq_some hlast
          exact absurd (congrArg Prod.fst (List.mem_singleton.mp hmem)) h
      rw [if_neg fun h' => h h'.1, PrecompilesMap.withExtendedPrecompiles,
        LawfulLayeredTable.get_extend, hother, Option.none_or, hstatic]

/-- The one address of a precompile with the given name. -/
def PrecompileId.installedAt : PrecompileId → Address
  | .ecRec => Addresses.ecrecover
  | .sha256 => Addresses.sha256
  | .ripemd160 => Addresses.ripemd160
  | .identity => Addresses.identity
  | .modExp => Addresses.modexp
  | .bn254Add => Addresses.bn254Add
  | .bn254Mul => Addresses.bn254Mul
  | .bn254Pairing => Addresses.bn254Pairing
  | .blake2F => Addresses.blake2f
  | .p256Verify => Addresses.p256verify
  | .custom _ => Addresses.transfer

theorem installedAt_of_scheduledStatic (hbase : LawfulPrecompiles base) {spec : ScrollSpecId}
    {address : Address} {precompile : Precompile}
    (h : scheduledStatic base spec address = some precompile) :
    precompile.id.installedAt = address := by
  unfold scheduledStatic at h
  by_cases hp256verify : address = Addresses.p256verify
  · rw [if_pos hp256verify] at h
    rw [hp256verify]
    split at h
    · cases h
      rw [hbase.p256verifyOsaka.1]
      rfl
    split at h
    · cases h
      rw [hbase.p256verify.1]
      rfl
    · cases h
  rw [if_neg hp256verify] at h
  by_cases hblake2f : address = Addresses.blake2f
  · rw [if_pos hblake2f] at h
    cases h
    exact hblake2f.symm
  rw [if_neg hblake2f] at h
  by_cases hpairing : address = Addresses.bn254Pairing
  · rw [if_pos hpairing] at h
    rw [hpairing]
    split at h
    · cases h
      rw [Bn254Pair.feynman, hbase.bn254PairIstanbul.1]
      rfl
    · cases h
      rfl
  rw [if_neg hpairing] at h
  by_cases hmul : address = Addresses.bn254Mul
  · rw [if_pos hmul] at h
    cases h
    rw [hmul, hbase.bn254MulIstanbul.1]
    rfl
  rw [if_neg hmul] at h
  by_cases hadd : address = Addresses.bn254Add
  · rw [if_pos hadd] at h
    cases h
    rw [hadd, hbase.bn254AddIstanbul.1]
    rfl
  rw [if_neg hadd] at h
  by_cases hmodexp : address = Addresses.modexp
  · rw [if_pos hmodexp] at h
    rw [hmodexp]
    split at h <;> cases h <;> rfl
  rw [if_neg hmodexp] at h
  by_cases hidentity : address = Addresses.identity
  · rw [if_pos hidentity] at h
    cases h
    rw [hidentity, hbase.identityFun.1]
    rfl
  rw [if_neg hidentity] at h
  by_cases hripemd160 : address = Addresses.ripemd160
  · rw [if_pos hripemd160] at h
    rw [hripemd160]
    split at h <;> cases h <;> rfl
  rw [if_neg hripemd160] at h
  by_cases hsha256 : address = Addresses.sha256
  · rw [if_pos hsha256] at h
    rw [hsha256]
    split at h <;> cases h <;> rfl
  rw [if_neg hsha256] at h
  by_cases hecrecover : address = Addresses.ecrecover
  · rw [if_pos hecrecover] at h
    cases h
    rw [hecrecover, hbase.ecrecover.1]
    rfl
  rw [if_neg hecrecover] at h
  cases h

theorem installedAt_of_scheduled (hbase : LawfulPrecompiles base) {spec : ScrollSpecId}
    {address : Address} {precompile : DynPrecompile J}
    (h : scheduled base spec address = some precompile) :
    precompile.id.installedAt = address := by
  unfold scheduled at h
  split at h
  · rename_i htransfer
    cases h
    exact htransfer.1.symm
  · obtain ⟨static, hstatic, rfl⟩ := Option.map_eq_some_iff.mp h
    exact installedAt_of_scheduledStatic hbase hstatic

/-- The addresses of the precompiles that every hardfork has. -/
def genesisAddresses : List Address :=
  [Addresses.blake2f, Addresses.bn254Pairing, Addresses.bn254Mul, Addresses.bn254Add,
    Addresses.modexp, Addresses.identity, Addresses.ripemd160, Addresses.sha256,
    Addresses.ecrecover]

theorem isSome_scheduledStatic (base : RevmPrecompiles) (spec : ScrollSpecId)
    (address : Address) :
    (scheduledStatic base spec address).isSome = true ↔
      address ∈ genesisAddresses ∨
        address = Addresses.p256verify ∧ spec.isEnabledIn .euclid = true := by
  unfold scheduledStatic
  by_cases haddress : address = Addresses.p256verify
  · subst haddress
    have hlater : Addresses.p256verify ∉ genesisAddresses := by decide
    rw [if_pos rfl]
    cases hgalileo : spec.isEnabledIn .galileo with
    | true =>
      have heuclid : spec.isEnabledIn .euclid = true :=
        ScrollSpecId.isEnabledIn_trans hgalileo (by decide)
      simp [heuclid]
    | false => cases heuclid : spec.isEnabledIn .euclid <;> simp [hlater]
  · rw [if_neg haddress]
    simp only [apply_ite Option.isSome, Option.isSome_some, Option.isSome_none, haddress,
      false_and, or_false, genesisAddresses, List.mem_cons, List.not_mem_nil]
    simp

/-- The addresses that are warm under a hardfork. -/
theorem ScrollPrecompileProvider.mem_warmAddresses (hbase : LawfulPrecompiles base)
    (spec : ScrollSpecId) (address : Address) :
    address ∈ (newWithSpec (D := D) base spec).warmAddresses ↔ address ∈ genesisAddresses ∨
      address = Addresses.p256verify ∧ spec.isEnabledIn .euclid = true ∨
      address = Addresses.transfer ∧ spec.isEnabledIn .tsuki = true := by
  rw [warmAddresses, LawfulLayeredTable.mem_keys, get_newWithSpec hbase]
  unfold scheduled
  split
  · rename_i htransfer
    simp [htransfer]
  · rename_i hstatic
    rw [Option.isSome_map, isSome_scheduledStatic]
    simp only [hstatic, or_false]

/-- **The precompiles of a hardfork.** A provider has at every address the precompile that its
hardfork plans there, at no two addresses one of the same name, and it warms those addresses:
1 to 9, from Euclid on 256, and from Tsuki on 253. -/
theorem provider_schedule (hbase : LawfulPrecompiles base) (spec : ScrollSpecId) :
    let provider : ScrollPrecompileProvider D := .newWithSpec base spec
    (∀ address, get address provider.inner = scheduled base spec address) ∧
      (∀ address address' precompile precompile',
        get address provider.inner = some precompile →
        get address' provider.inner = some precompile' →
        precompile.id = precompile'.id → address = address') ∧
      provider.warmAddresses.Nodup ∧
      (∀ address, address ∈ provider.warmAddresses ↔ address ∈ genesisAddresses ∨
        address = Addresses.p256verify ∧ spec.isEnabledIn .euclid = true ∨
        address = Addresses.transfer ∧ spec.isEnabledIn .tsuki = true) := by
  intro provider
  have hget := ScrollPrecompileProvider.get_newWithSpec (D := D) hbase spec
  refine ⟨hget, fun address address' precompile precompile' h h' hid => ?_,
    LawfulLayeredTable.keys_nodup _, ScrollPrecompileProvider.mem_warmAddresses hbase spec⟩
  rw [hget] at h h'
  rw [← installedAt_of_scheduled hbase h, ← installedAt_of_scheduled hbase h', hid]

end Installed

namespace ReferencePrecompiles

theorem lawful : LawfulPrecompiles base where
  ecrecover := ⟨rfl, rfl⟩
  identityFun := ⟨rfl, rfl⟩
  bn254AddIstanbul := ⟨rfl, rfl⟩
  bn254MulIstanbul := ⟨rfl, rfl⟩
  bn254PairIstanbul := ⟨rfl, rfl⟩
  p256verify := ⟨rfl, rfl⟩
  p256verifyOsaka := ⟨rfl, rfl⟩

/-- The map of a hardfork, which holds each static precompile as one that leaves the journal. -/
abbrev PrecompilesMap (J : Type) := AList fun _ : Address => DynPrecompile J

instance (J : Type) : PrecompilesMapTr (PrecompilesMap J) Precompiles J where
  fromStatic := mapValues Precompile.toDyn

instance (J : Type) : LawfulPrecompilesMapTr (PrecompilesMap J) where
  get_fromStatic precompiles address := lookup_mapValues Precompile.toDyn address precompiles

/-- The provider over reference precompiles. -/
def provider (spec : ScrollSpecId) : ScrollPrecompileProvider (PrecompilesMap (Journal Unit)) :=
  .newWithSpec base spec

end ReferencePrecompiles

/-- A transaction finds the transfer precompile warm under Tsuki, and not under Galileo. -/
theorem provider_schedule_transfer :
    Addresses.transfer ∈ (ReferencePrecompiles.provider .tsuki).warmAddresses ∧
      Addresses.transfer ∉ (ReferencePrecompiles.provider .galileo).warmAddresses := by
  obtain ⟨-, -, -, htsuki⟩ := provider_schedule
    (D := ReferencePrecompiles.PrecompilesMap (Journal Unit)) ReferencePrecompiles.lawful .tsuki
  obtain ⟨-, -, -, hgalileo⟩ := provider_schedule
    (D := ReferencePrecompiles.PrecompilesMap (Journal Unit)) ReferencePrecompiles.lawful .galileo
  rw [ReferencePrecompiles.provider, htsuki, ReferencePrecompiles.provider, hgalileo]
  decide

end ScrollRevm
