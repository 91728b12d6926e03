import ScrollRevm.Fee.Fetch

/-!
# The L1 fee is one capped floor

The exact fee of each hardfork is a rational expression in the oracle values and
the transaction, without saturation and without intermediate rounding. The
saturating word computation returns the floor of that number under the cap: a
word that saturates on the way is either multiplied by zero or already past every
cap, and the nested quotients of the source are one quotient.
-/

namespace ScrollRevm

open FixedWidth

/-- The oracle slots as natural numbers. -/
structure OracleValues where
  baseFee : Nat
  overhead : Nat
  scalar : Nat
  blobBaseFee : Nat
  commitScalar : Nat
  blobScalar : Nat
  penaltyThreshold : Nat
  penaltyFactor : Nat

/-- The values held by an oracle storage. -/
def oracleValues (storage : U256 → U256) : OracleValues where
  baseFee := (storage l1BaseFeeSlot).toNat
  overhead := (storage l1OverheadSlot).toNat
  scalar := (storage l1ScalarSlot).toNat
  blobBaseFee := (storage l1BlobBaseFeeSlot).toNat
  commitScalar := (storage l1CommitScalarSlot).toNat
  blobScalar := (storage l1BlobScalarSlot).toNat
  penaltyThreshold := (storage penaltyThresholdSlot).toNat
  penaltyFactor := (storage penaltyFactorSlot).toNat

namespace OracleValues

variable (o : OracleValues)

/-- The exact price of a byte from Feynman on, scaled by the fee precision. -/
def feePerByte : Nat := o.commitScalar * o.baseFee + o.blobScalar * o.blobBaseFee

/-- The exact L1 gas of the calldata before Curie: `z` bytes out of `n` are zero. -/
def calldataGas (z n : Nat) : Nat := 4 * z + 16 * (n - z) + o.overhead + 64

/-- The compression penalty from Feynman until Galileo, scaled by the precision. -/
def penalty (ratio : Nat) : Nat :=
  if o.penaltyThreshold ≤ ratio then 10 ^ 9 else o.penaltyFactor

def shanghaiFee (input : Bytes) : ℚ :=
  (o.calldataGas (input.count 0) input.length * o.baseFee * o.scalar : ℚ) / 10 ^ 9

def curieFee (input : Bytes) : ℚ :=
  (o.commitScalar * o.baseFee + input.length * o.blobBaseFee * o.blobScalar : ℚ) / 10 ^ 9

def feynmanFee (input : Bytes) (ratio : Nat) : ℚ :=
  (input.length * o.feePerByte * o.penalty ratio : ℚ) / 10 ^ 18

def galileoFee (size : Nat) : ℚ :=
  (o.feePerByte * size : ℚ) * (1 + size / max o.penaltyFactor 1) / 10 ^ 9

/-- The exact fee of a transaction under a hardfork. -/
def exactFee (spec : ScrollSpecId) (input : Bytes) (ratio size : Nat) : ℚ :=
  if !spec.isEnabledIn .curie then o.shanghaiFee input
  else if !spec.isEnabledIn .feynman then o.curieFee input
  else if !spec.isEnabledIn .galileo then o.feynmanFee input ratio
  else o.galileoFee size

end OracleValues

/-- The largest fee a hardfork charges. -/
def feeCap (spec : ScrollSpecId) : Nat :=
  if spec.isEnabledIn .tsuki then 2 ^ 96 - 1 else 2 ^ 64 - 1

/-- The input a hardfork's formula misses or rejects. -/
def feeInputError (spec : ScrollSpecId) (input : Bytes) (ratio : Option U256)
    (size : Option Usize) : Option L1FeeError :=
  if !spec.isEnabledIn .feynman then none
  else if !spec.isEnabledIn .galileo then
    match ratio with
    | none => some .missingCompressionRatio
    | some r => if r.toNat < 10 ^ 9 then some (.invalidCompressionRatio r) else none
  else
    match size with
    | none => some .missingCompressedSize
    | some c =>
      if input.length < c.toNat then
        some (.invalidCompressedSize c (BitVec.ofNat 64 input.length))
      else none

/-! ## Quotients -/

/-- The scaling quotient of the fee may be taken after the floor. -/
private theorem floor_div_pow (x : ℚ) (k : Nat) : ⌊x / 10 ^ k⌋₊ = ⌊x⌋₊ / 10 ^ k := by
  have h := Nat.floor_div_natCast x (10 ^ k)
  push_cast at h
  exact h

/-- A quotient of naturals is the floor of the exact quotient. -/
private theorem floor_natCast_div_pow (n k : Nat) : ⌊(n : ℚ) / 10 ^ k⌋₊ = n / 10 ^ k := by
  rw [floor_div_pow, Nat.floor_natCast]

theorem OracleValues.floor_shanghaiFee (o : OracleValues) (input : Bytes) :
    ⌊o.shanghaiFee input⌋₊ =
      o.calldataGas (input.count 0) input.length * o.baseFee * o.scalar / 10 ^ 9 := by
  have h := floor_natCast_div_pow
    (o.calldataGas (input.count 0) input.length * o.baseFee * o.scalar) 9
  push_cast at h
  exact h

theorem OracleValues.floor_curieFee (o : OracleValues) (input : Bytes) :
    ⌊o.curieFee input⌋₊ =
      (o.commitScalar * o.baseFee + input.length * o.blobBaseFee * o.blobScalar) / 10 ^ 9 := by
  have h := floor_natCast_div_pow
    (o.commitScalar * o.baseFee + input.length * o.blobBaseFee * o.blobScalar) 9
  push_cast at h
  exact h

theorem OracleValues.floor_feynmanFee (o : OracleValues) (input : Bytes) (ratio : Nat) :
    ⌊o.feynmanFee input ratio⌋₊ =
      input.length * o.feePerByte * o.penalty ratio / 10 ^ 9 / 10 ^ 9 := by
  have h := floor_natCast_div_pow (input.length * o.feePerByte * o.penalty ratio) 18
  push_cast at h
  rw [Nat.div_div_eq_div_mul]
  exact h

/-- The penalty quotient may be rounded before the sum: the other summand is a
natural number. -/
theorem OracleValues.floor_galileoFee (o : OracleValues) (size : Nat) :
    ⌊o.galileoFee size⌋₊ =
      (o.feePerByte * size + o.feePerByte * size * size / max o.penaltyFactor 1) / 10 ^ 9 := by
  have hsplit : (o.feePerByte * size : ℚ) * (1 + size / max o.penaltyFactor 1) =
      (o.feePerByte * size : Nat) +
        ((o.feePerByte * size * size : Nat) : ℚ) / (max o.penaltyFactor 1 : Nat) := by
    push_cast
    ring
  rw [OracleValues.galileoFee, floor_div_pow, hsplit, add_comm,
    Nat.floor_add_natCast (by positivity), Nat.floor_div_eq_div, add_comm]

/-! ## The words hold the exact values -/

/-- The price of a byte is the truncated exact price. -/
private theorem saturates_feePerByte (storage : U256 → U256) :
    Saturates (satAdd (satMul (storage l1CommitScalarSlot) (storage l1BaseFeeSlot))
      (satMul (storage l1BlobScalarSlot) (storage l1BlobBaseFeeSlot)))
      (oracleValues storage).feePerByte :=
  ((saturates_toNat _).mul (saturates_toNat _)).add ((saturates_toNat _).mul (saturates_toNat _))

private theorem toNat_calldataStep (byte : U8) :
    (if byte = 0 then zeroByteCost else nonZeroByteCost).toNat = if byte = 0 then 4 else 16 := by
  split <;> rfl

/-- The 64-bit running cost counts four for each zero byte and sixteen for each other byte
on top of where it starts, and wraps. -/
private theorem toNat_foldl_calldataCost (input : Bytes) (acc : U64) :
    (input.foldl (fun acc byte => acc + if byte = 0 then zeroByteCost else nonZeroByteCost)
      acc).toNat =
      (acc.toNat + (4 * input.count 0 + 16 * (input.length - input.count 0))) % 2 ^ 64 := by
  induction input generalizing acc with
  | nil => simpa using (Nat.mod_eq_of_lt acc.isLt).symm
  | cons byte rest ih =>
    have hc := List.count_le_length (a := (0 : U8)) (l := rest)
    have hstep := toNat_calldataStep byte
    rw [List.foldl_cons, ih, BitVec.toNat_add, hstep, List.length_cons, Nat.mod_add_mod]
    congr 1
    by_cases hz : byte = 0
    · subst hz
      rw [List.count_cons_self, if_pos rfl]
      omega
    · rw [List.count_cons_of_ne hz, if_neg hz]
      omega

/-- The calldata cost is exact modulo 2^64. -/
theorem toNat_calldataCost_mod (input : Bytes) :
    (L1BlockInfo.calldataCost input).toNat =
      (4 * input.count 0 + 16 * (input.length - input.count 0)) % 2 ^ 64 := by
  have h := toNat_foldl_calldataCost input 0
  have hzero : (0 : U64).toNat = 0 := rfl
  rwa [hzero, Nat.zero_add] at h

theorem toNat_calldataCost (input : Bytes) (hn : input.length < 2 ^ 60) :
    (L1BlockInfo.calldataCost input).toNat =
      4 * input.count 0 + 16 * (input.length - input.count 0) := by
  have hc := List.count_le_length (a := (0 : U8)) (l := input)
  rw [toNat_calldataCost_mod, Nat.mod_eq_of_lt (by omega)]

/-! ## The formulas -/

private theorem toNat_txL1FeePrecision : txL1FeePrecision.toNat = 10 ^ 9 := by decide

private theorem feeCap_le (spec : ScrollSpecId) : feeCap spec ≤ 2 ^ 96 - 1 := by
  unfold feeCap
  split <;> omega

/-- Every cap is far below the largest word, even after both scaling quotients. -/
private theorem feeCap_mul_le (spec : ScrollSpecId) {d : Nat} (hd : d ≤ 10 ^ 9 * 10 ^ 9) :
    feeCap spec * d ≤ maxNat 256 :=
  (Nat.mul_le_mul (feeCap_le spec) hd).trans (by norm_num [maxNat])

/-- Before Curie the capped word fee is the capped floor. -/
private theorem min_shanghai (storage : U256 → U256) {spec : ScrollSpecId} (input : Bytes)
    (hn : input.length < 2 ^ 60) (hc : spec.isEnabledIn .curie = false) :
    min (feeCap spec) ((oracleInfo storage spec).calculateTxL1CostShanghai input).toNat =
      min (feeCap spec) ⌊(oracleValues storage).shanghaiFee input⌋₊ := by
  have hcost : Saturates ((L1BlockInfo.calldataCost input).setWidth 256)
      (4 * input.count 0 + 16 * (input.length - input.count 0)) := by
    rw [← toNat_calldataCost input hn]
    exact saturates_setWidth _ (by decide)
  have hgas : Saturates ((oracleInfo storage spec).preCurieL1Gas input)
      ((oracleValues storage).calldataGas (input.count 0) input.length) := by
    rw [oracleInfo_shanghai storage hc]
    exact (hcost.add (saturates_toNat _)).add (saturates_toNat txL1CommitExtraCost)
  have hfee : Saturates (satMul (satMul ((oracleInfo storage spec).preCurieL1Gas input)
        (storage l1BaseFeeSlot)) (storage l1ScalarSlot))
      ((oracleValues storage).calldataGas (input.count 0) input.length *
        (oracleValues storage).baseFee * (oracleValues storage).scalar) :=
    (hgas.mul (saturates_toNat _)).mul (saturates_toNat _)
  have hword : ((oracleInfo storage spec).calculateTxL1CostShanghai input).toNat =
      (satMul (satMul ((oracleInfo storage spec).preCurieL1Gas input)
        (storage l1BaseFeeSlot)) (storage l1ScalarSlot)).toNat / 10 ^ 9 := by
    rw [L1BlockInfo.calculateTxL1CostShanghai, BitVec.toNat_udiv, toNat_txL1FeePrecision,
      oracleInfo_shanghai storage hc]
  rw [hword, OracleValues.floor_shanghaiFee,
    hfee.min_div (by decide) (feeCap_mul_le spec (by decide))]

/-- From Curie until Feynman no oracle value is missing, and the capped word fee
is the capped floor. -/
private theorem min_curie (storage : U256 → U256) {spec : ScrollSpecId} (input : Bytes)
    (hn : input.length < 2 ^ 60) (hc : spec.isEnabledIn .curie = true)
    (hf : spec.isEnabledIn .feynman = false) :
    ∃ fee, (oracleInfo storage spec).calculateTxL1CostCurie input = .ok fee ∧
      min (feeCap spec) fee.toNat = min (feeCap spec) ⌊(oracleValues storage).curieFee input⌋₊ := by
  let blobFee := satMul (satMul (BitVec.ofNat 256 input.length) (storage l1BlobBaseFeeSlot))
    (storage l1BlobScalarSlot)
  let calldataGas := satMul (storage l1CommitScalarSlot) (storage l1BaseFeeSlot)
  have hfee : Saturates (satAdd calldataGas blobFee)
      ((oracleValues storage).commitScalar * (oracleValues storage).baseFee +
        input.length * (oracleValues storage).blobBaseFee * (oracleValues storage).blobScalar) :=
    ((saturates_toNat _).mul (saturates_toNat _)).add
      (((saturates_ofNat _ (hn.trans (by decide))).mul (saturates_toNat _)).mul (saturates_toNat _))
  refine ⟨satAdd calldataGas blobFee / txL1FeePrecision, ?_, ?_⟩
  · rw [oracleInfo_curie storage hc hf]
    rfl
  · rw [BitVec.toNat_udiv, toNat_txL1FeePrecision, OracleValues.floor_curieFee,
      hfee.min_div (by decide) (feeCap_mul_le spec (by decide))]

private theorem saturates_penalty (storage : U256 → U256) (ratio : U256) :
    Saturates (if storage penaltyThresholdSlot ≤ ratio then txL1FeePrecision
      else storage penaltyFactorSlot) ((oracleValues storage).penalty ratio.toNat) := by
  by_cases h : storage penaltyThresholdSlot ≤ ratio
  · have hp : (oracleValues storage).penalty ratio.toNat = txL1FeePrecision.toNat :=
      if_pos (BitVec.le_def.mp h)
    rw [if_pos h, hp]
    exact saturates_toNat _
  · have hp : (oracleValues storage).penalty ratio.toNat = (storage penaltyFactorSlot).toNat :=
      if_neg (mt BitVec.le_def.mpr h)
    rw [if_neg h, hp]
    exact saturates_toNat _

/-- From Feynman until Galileo a ratio of at least one is charged, and the two
quotients of the source are one floor. -/
private theorem min_feynman (storage : U256 → U256) {spec : ScrollSpecId} (input : Bytes)
    (hn : input.length < 2 ^ 60) (hf : spec.isEnabledIn .feynman = true) (ratio : U256)
    (hr : ¬ ratio < txL1FeePrecision) :
    ∃ fee, (oracleInfo storage spec).calculateTxL1CostFeynman input ratio = .ok fee ∧
      min (feeCap spec) fee.toNat =
        min (feeCap spec) ⌊(oracleValues storage).feynmanFee input ratio.toNat⌋₊ := by
  let feePerByte := satAdd (satMul (storage l1CommitScalarSlot) (storage l1BaseFeeSlot))
    (satMul (storage l1BlobScalarSlot) (storage l1BlobBaseFeeSlot))
  let penalty := if storage penaltyThresholdSlot ≤ ratio then txL1FeePrecision
    else storage penaltyFactorSlot
  let product := satMul (satMul (BitVec.ofNat 256 input.length) feePerByte) penalty
  have hfee : Saturates product (input.length * (oracleValues storage).feePerByte *
      (oracleValues storage).penalty ratio.toNat) :=
    ((saturates_ofNat _ (hn.trans (by decide))).mul (saturates_feePerByte storage)).mul
      (saturates_penalty storage ratio)
  refine ⟨product / txL1FeePrecision / txL1FeePrecision, ?_, ?_⟩
  · rw [oracleInfo_feynman storage hf, L1BlockInfo.calculateTxL1CostFeynman, if_neg hr]
    rfl
  · rw [BitVec.toNat_udiv, BitVec.toNat_udiv, toNat_txL1FeePrecision,
      OracleValues.floor_feynmanFee, Nat.div_div_eq_div_mul, Nat.div_div_eq_div_mul,
      hfee.min_div (by decide) (feeCap_mul_le spec (by decide))]

/-- The zero penalty factor is read as one. -/
private theorem toNat_penaltyFactor (f : U256) :
    (if f = 0 then (1 : U256) else f).toNat = max f.toNat 1 := by
  by_cases h : f = 0
  · subst h
    rfl
  · have hne : f.toNat ≠ 0 := fun hz => h (BitVec.eq_of_toNat_eq hz)
    rw [if_neg h]
    omega

/-- From Galileo a compressed size up to the size of the transaction is charged. A
penalty term that saturates belongs to a base term that already passes the cap. -/
private theorem min_galileo (storage : U256 → U256) {spec : ScrollSpecId} (txSize size : Usize)
    (hf : spec.isEnabledIn .feynman = true) (hs : ¬ txSize < size) (hn : size.toNat < 2 ^ 60) :
    ∃ fee, (oracleInfo storage spec).calculateTxL1CostGalileo txSize size = .ok fee ∧
      min (feeCap spec) fee.toNat =
        min (feeCap spec) ⌊(oracleValues storage).galileoFee size.toNat⌋₊ := by
  let size' : U256 := size.setWidth 256
  let feePerByte := satAdd (satMul (storage l1CommitScalarSlot) (storage l1BaseFeeSlot))
    (satMul (storage l1BlobScalarSlot) (storage l1BlobBaseFeeSlot))
  let factor : U256 := if storage penaltyFactorSlot = 0 then 1 else storage penaltyFactorSlot
  let baseTerm := satMul feePerByte size'
  let penaltyTerm := satMul baseTerm size' / factor
  have hsize : Saturates size' size.toNat := saturates_setWidth size (by decide)
  have hbase : Saturates baseTerm ((oracleValues storage).feePerByte * size.toNat) :=
    (saturates_feePerByte storage).mul hsize
  have hpenalty : penaltyTerm.toNat =
      min (maxNat 256) ((oracleValues storage).feePerByte * size.toNat * size.toNat) /
        max (oracleValues storage).penaltyFactor 1 := by
    rw [BitVec.toNat_udiv, hbase.mul hsize, toNat_penaltyFactor]
    rfl
  refine ⟨satAdd baseTerm penaltyTerm / txL1FeePrecision, ?_, ?_⟩
  · rw [oracleInfo_feynman storage hf, L1BlockInfo.calculateTxL1CostGalileo, if_neg hs]
    rfl
  · rw [BitVec.toNat_udiv, toNat_txL1FeePrecision, toNat_satAdd, hbase, hpenalty,
      OracleValues.floor_galileoFee]
    refine min_div_add_quotient (by decide) (fun hz => by rw [hz, Nat.mul_zero])
      (feeCap_mul_le spec (by decide)) ?_
    calc feeCap spec * 10 ^ 9 * size.toNat ≤ (2 ^ 96 - 1) * 10 ^ 9 * 2 ^ 60 :=
          Nat.mul_le_mul (Nat.mul_le_mul_right _ (feeCap_le spec)) hn.le
      _ ≤ maxNat 256 := by norm_num [maxNat]

private theorem toNat_l1CostCap (spec : ScrollSpecId) :
    (L1BlockInfo.l1CostCap spec).toNat = feeCap spec := by
  cases spec <;> rfl

/-- The capped word fee is the word of the capped floor. -/
private theorem tryCalculateTxL1Cost_of_uncapped {info : L1BlockInfo} {spec : ScrollSpecId}
    {input : Bytes} {ratio : Option U256} {size : Option Usize} {fee : U256} {exact : ℚ}
    (hok : info.uncappedTxL1Cost input spec ratio size = .ok fee)
    (hmin : min (feeCap spec) fee.toNat = min (feeCap spec) ⌊exact⌋₊) :
    info.tryCalculateTxL1Cost input spec ratio size =
      .ok (BitVec.ofNat 256 (min (feeCap spec) ⌊exact⌋₊)) := by
  have hcap : min (feeCap spec) ⌊exact⌋₊ < 2 ^ 256 :=
    ((min_le_left _ _).trans (feeCap_le spec)).trans_lt (by norm_num)
  have hword : wordMin fee (L1BlockInfo.l1CostCap spec) =
      BitVec.ofNat 256 (min (feeCap spec) ⌊exact⌋₊) := by
    refine BitVec.eq_of_toNat_eq ?_
    rw [toNat_wordMin, toNat_l1CostCap, min_comm, hmin, BitVec.toNat_ofNat, Nat.mod_eq_of_lt hcap]
  rw [L1BlockInfo.tryCalculateTxL1Cost, hok, ← hword]
  rfl

private theorem tryCalculateTxL1Cost_of_error {info : L1BlockInfo} {spec : ScrollSpecId}
    {input : Bytes} {ratio : Option U256} {size : Option Usize} {error : L1FeeError}
    (h : info.uncappedTxL1Cost input spec ratio size = .error error) :
    info.tryCalculateTxL1Cost input spec ratio size = .error error := by
  rw [L1BlockInfo.tryCalculateTxL1Cost, h]
  rfl

/-- What the fee calculation returns: the input error, or the word of the capped
floor of the exact fee. -/
def exactCost (spec : ScrollSpecId) (o : OracleValues) (input : Bytes) (ratio : Option U256)
    (size : Option Usize) : Except L1FeeError U256 :=
  match feeInputError spec input ratio size with
  | some error => .error error
  | none => .ok (BitVec.ofNat 256 (min (feeCap spec)
      ⌊o.exactFee spec input (ratio.getD 0).toNat (size.getD 0).toNat⌋₊))

private theorem tryCalculateTxL1Cost_beforeFeynman (spec : ScrollSpecId) (storage : U256 → U256)
    (input : Bytes) (hn : input.length < 2 ^ 60) (ratio : Option U256) (size : Option Usize)
    (hf : spec.isEnabledIn .feynman = false) :
    (oracleInfo storage spec).tryCalculateTxL1Cost input spec ratio size =
      exactCost spec (oracleValues storage) input ratio size := by
  have herror : feeInputError spec input ratio size = none := by simp [feeInputError, hf]
  rw [exactCost, herror]
  cases hc : spec.isEnabledIn .curie with
  | false =>
    rw [OracleValues.exactFee, if_pos (by simp [hc])]
    exact tryCalculateTxL1Cost_of_uncapped
      (by simp only [L1BlockInfo.uncappedTxL1Cost, hc, Bool.not_false, if_true]; rfl)
      (min_shanghai storage input hn hc)
  | true =>
    obtain ⟨fee, hok, hmin⟩ := min_curie storage input hn hc hf
    rw [OracleValues.exactFee, if_neg (by simp [hc]), if_pos (by simp [hf])]
    exact tryCalculateTxL1Cost_of_uncapped
      (by simpa [L1BlockInfo.uncappedTxL1Cost, hc, hf] using hok) hmin

private theorem tryCalculateTxL1Cost_feynman (spec : ScrollSpecId) (storage : U256 → U256)
    (input : Bytes) (hn : input.length < 2 ^ 60) (ratio : Option U256) (size : Option Usize)
    (hf : spec.isEnabledIn .feynman = true) (hg : spec.isEnabledIn .galileo = false) :
    (oracleInfo storage spec).tryCalculateTxL1Cost input spec ratio size =
      exactCost spec (oracleValues storage) input ratio size := by
  have hc : spec.isEnabledIn .curie = true := ScrollSpecId.isEnabledIn_trans hf (by decide)
  have huncapped : (oracleInfo storage spec).uncappedTxL1Cost input spec ratio size =
      ratio.elim (.error .missingCompressionRatio) fun r =>
        (oracleInfo storage spec).calculateTxL1CostFeynman input r := by
    cases ratio <;> simp [L1BlockInfo.uncappedTxL1Cost, hc, hf, hg, throw, throwThe,
      MonadExceptOf.throw]
  cases ratio with
  | none =>
    rw [tryCalculateTxL1Cost_of_error huncapped]
    simp [exactCost, feeInputError, hf, hg]
  | some r =>
    by_cases hr : r.toNat < 10 ^ 9
    · have hlow : (oracleInfo storage spec).calculateTxL1CostFeynman input r =
          .error (.invalidCompressionRatio r) := by
        rw [L1BlockInfo.calculateTxL1CostFeynman, if_pos (BitVec.lt_def.mpr hr)]
        rfl
      have herror : feeInputError spec input (some r) size = some (.invalidCompressionRatio r) := by
        simp only [feeInputError, hf, hg, if_pos hr, Bool.not_true, Bool.not_false, if_true,
          if_false, Bool.false_eq_true]
      rw [tryCalculateTxL1Cost_of_error (huncapped.trans hlow), exactCost, herror]
    · obtain ⟨fee, hok, hmin⟩ := min_feynman storage input hn hf r (mt BitVec.lt_def.mp hr)
      rw [exactCost, OracleValues.exactFee, if_neg (by simp [hc]), if_neg (by simp [hf]),
        if_pos (by simp [hg])]
      simp only [feeInputError, hf, hg, hr, Bool.not_true, Bool.not_false, if_true, if_false,
        Bool.false_eq_true]
      exact tryCalculateTxL1Cost_of_uncapped (huncapped.trans hok) hmin

private theorem tryCalculateTxL1Cost_galileo (spec : ScrollSpecId) (storage : U256 → U256)
    (input : Bytes) (hn : input.length < 2 ^ 60) (ratio : Option U256) (size : Option Usize)
    (hg : spec.isEnabledIn .galileo = true) :
    (oracleInfo storage spec).tryCalculateTxL1Cost input spec ratio size =
      exactCost spec (oracleValues storage) input ratio size := by
  have hf : spec.isEnabledIn .feynman = true := ScrollSpecId.isEnabledIn_trans hg (by decide)
  have hc : spec.isEnabledIn .curie = true := ScrollSpecId.isEnabledIn_trans hf (by decide)
  have hlen : (BitVec.ofNat 64 input.length).toNat = input.length := by
    rw [BitVec.toNat_ofNat]
    exact Nat.mod_eq_of_lt (hn.trans (by decide))
  have huncapped : (oracleInfo storage spec).uncappedTxL1Cost input spec ratio size =
      size.elim (.error .missingCompressedSize) fun c =>
        (oracleInfo storage spec).calculateTxL1CostGalileo (BitVec.ofNat 64 input.length) c := by
    cases size <;> simp [L1BlockInfo.uncappedTxL1Cost, hc, hf, hg, throw, throwThe,
      MonadExceptOf.throw]
  cases size with
  | none =>
    rw [tryCalculateTxL1Cost_of_error huncapped]
    simp [exactCost, feeInputError, hf, hg]
  | some c =>
    by_cases hs : input.length < c.toNat
    · have hlarge : (oracleInfo storage spec).calculateTxL1CostGalileo
          (BitVec.ofNat 64 input.length) c =
          .error (.invalidCompressedSize c (BitVec.ofNat 64 input.length)) := by
        rw [L1BlockInfo.calculateTxL1CostGalileo,
          if_pos (BitVec.lt_def.mpr (by rw [hlen]; exact hs))]
        rfl
      rw [tryCalculateTxL1Cost_of_error (huncapped.trans hlarge)]
      simp [exactCost, feeInputError, hf, hg, hs]
    · obtain ⟨fee, hok, hmin⟩ := min_galileo storage (BitVec.ofNat 64 input.length) c hf
        (fun h => hs (hlen ▸ BitVec.lt_def.mp h)) ((not_lt.mp hs).trans_lt hn)
      rw [exactCost, OracleValues.exactFee, if_neg (by simp [hc]), if_neg (by simp [hf]),
        if_neg (by simp [hg])]
      simp only [feeInputError, hf, hg, hs, Bool.not_true, if_false, Bool.false_eq_true]
      exact tryCalculateTxL1Cost_of_uncapped (huncapped.trans hok) hmin

/-- The fee calculated from the values an oracle storage holds for a hardfork. -/
theorem oracleInfo_tryCalculateTxL1Cost (spec : ScrollSpecId) (storage : U256 → U256)
    (input : Bytes) (hn : input.length < 2 ^ 60) (ratio : Option U256) (size : Option Usize) :
    (oracleInfo storage spec).tryCalculateTxL1Cost input spec ratio size =
      exactCost spec (oracleValues storage) input ratio size := by
  cases hf : spec.isEnabledIn .feynman with
  | false => exact tryCalculateTxL1Cost_beforeFeynman spec storage input hn ratio size hf
  | true =>
    cases hg : spec.isEnabledIn .galileo with
    | false => exact tryCalculateTxL1Cost_feynman spec storage input hn ratio size hf hg
    | true => exact tryCalculateTxL1Cost_galileo spec storage input hn ratio size hg

/-- Fetching the oracle values of a hardfork and calculating the fee with them
returns the floor of the exact fee under the cap, unless the one input that the
formula needs is missing or invalid. -/
theorem tryFetchWith_tryCalculateTxL1Cost {E : Type} (spec : ScrollSpecId)
    (storage : U256 → U256) (input : Bytes) (hn : input.length < 2 ^ 60) (ratio : Option U256)
    (size : Option Usize) :
    (do
      let info ← L1BlockInfo.tryFetchWith
        (fun slot => (Except.ok (storage slot) : Except E U256)) spec
      return info.tryCalculateTxL1Cost input spec ratio size) =
    .ok (exactCost spec (oracleValues storage) input ratio size) := by
  have hfetch : L1BlockInfo.tryFetchWith
      (fun slot => (Except.ok (storage slot) : Except E U256)) spec =
        .ok (oracleInfo storage spec) := tryFetchWith_pure storage spec
  rw [hfetch]
  exact congrArg Except.ok (oracleInfo_tryCalculateTxL1Cost spec storage input hn ratio size)

/-- Three bytes under Galileo when every oracle value is the largest word: each
product saturates, and the fee is the cap. -/
theorem tryFetchWith_tryCalculateTxL1Cost_saturating :
    (do
      let info ← L1BlockInfo.tryFetchWith
        (fun _ => (Except.ok (BitVec.ofNat 256 (2 ^ 256 - 1)) : Except Unit U256)) .galileo
      return info.tryCalculateTxL1Cost [0, 1, 2] .galileo none (some 3)) = .ok (.ok u64Max) ∧
    .ok (.ok u64Max) = (.ok (exactCost .galileo
      (oracleValues fun _ => BitVec.ofNat 256 (2 ^ 256 - 1)) [0, 1, 2] none (some 3)) :
        Except Unit (Except L1FeeError U256)) := by
  have heval : (do
      let info ← L1BlockInfo.tryFetchWith
        (fun _ => (Except.ok (BitVec.ofNat 256 (2 ^ 256 - 1)) : Except Unit U256)) .galileo
      return info.tryCalculateTxL1Cost [0, 1, 2] .galileo none (some 3)) = .ok (.ok u64Max) := by
    rfl
  exact ⟨heval, heval.symm.trans
    (tryFetchWith_tryCalculateTxL1Cost .galileo _ [0, 1, 2] (by decide) none (some 3))⟩

end ScrollRevm
