import ScrollRevm.Fee.Exact

/-!
# Monotonicity of the L1 fee

The fee of a hardfork is built from saturating sums and products, quotients and a
minimum, and all of these respect the order of words. So a larger oracle value or more
data never lowers the fee, and from Galileo a larger penalty factor never raises it.
-/

namespace ScrollRevm

open FixedWidth L1BlockInfo

/-- The fee of a transaction from an oracle storage: the oracle values are fetched and the
fee is calculated with them. -/
def l1Fee (spec : ScrollSpecId) (storage : U256 → U256) (input : Bytes) (ratio : Option U256)
    (size : Option Usize) : Except L1FeeError U256 :=
  (oracleInfo storage spec).tryCalculateTxL1Cost input spec ratio size

/-- Two fees in order, or the same error. -/
inductive FeeLe : Except L1FeeError U256 → Except L1FeeError U256 → Prop
  | fee {fee fee' : U256} (h : fee ≤ fee') : FeeLe (.ok fee) (.ok fee')
  | error (e : L1FeeError) : FeeLe (.error e) (.error e)

/-- The cap keeps the order of fees. -/
theorem FeeLe.cap {info info' : L1BlockInfo} {input input' : Bytes} {spec : ScrollSpecId}
    {ratio : Option U256} {size size' : Option Usize}
    (h : FeeLe (info.uncappedTxL1Cost input spec ratio size)
      (info'.uncappedTxL1Cost input' spec ratio size')) :
    FeeLe (info.tryCalculateTxL1Cost input spec ratio size)
      (info'.tryCalculateTxL1Cost input' spec ratio size') := by
  unfold tryCalculateTxL1Cost
  revert h
  generalize info.uncappedTxL1Cost input spec ratio size = uncapped
  generalize info'.uncappedTxL1Cost input' spec ratio size' = uncapped'
  intro h
  cases h with
  | fee h => exact .fee (wordMin_le_wordMin h _)
  | error e => exact .error e

/-! ## The formula of each hardfork -/

section Formulas

variable {spec : ScrollSpecId} (storage : U256 → U256) (input : Bytes) (ratio : Option U256)
variable (size : Option Usize)

/-- The fee before Curie over given data gas. -/
def shanghaiCost (storage : U256 → U256) (cost : U64) : U256 :=
  satMul (satMul (satAdd (satAdd (cost.setWidth 256) (storage l1OverheadSlot))
    txL1CommitExtraCost) (storage l1BaseFeeSlot)) (storage l1ScalarSlot) / txL1FeePrecision

/-- The fee from Curie until Feynman over a given size. -/
def curieCost (storage : U256 → U256) (txSize : U256) : U256 :=
  satAdd (satMul (storage l1CommitScalarSlot) (storage l1BaseFeeSlot))
    (satMul (satMul txSize (storage l1BlobBaseFeeSlot)) (storage l1BlobScalarSlot)) /
      txL1FeePrecision

/-- The price of a byte from Feynman on. -/
def bytePrice (storage : U256 → U256) : U256 :=
  satAdd (satMul (storage l1CommitScalarSlot) (storage l1BaseFeeSlot))
    (satMul (storage l1BlobScalarSlot) (storage l1BlobBaseFeeSlot))

/-- The fee from Feynman until Galileo over a given size, byte price and penalty. -/
def feynmanCost (txSize price penalty : U256) : U256 :=
  satMul (satMul txSize price) penalty / txL1FeePrecision / txL1FeePrecision

/-- The fee from Galileo over a given compressed size, byte price and penalty factor. -/
def galileoCost (compressedSize price factor : U256) : U256 :=
  let baseTerm := satMul price compressedSize
  satAdd baseTerm (satMul baseTerm compressedSize / if factor = 0 then 1 else factor) /
    txL1FeePrecision

theorem uncapped_shanghai (hc : spec.isEnabledIn .curie = false) :
    (oracleInfo storage spec).uncappedTxL1Cost input spec ratio size =
      .ok (shanghaiCost storage (calldataCost input)) := by
  unfold uncappedTxL1Cost
  rw [hc, Bool.not_false, if_pos rfl, oracleInfo_shanghai storage hc]
  rfl

theorem uncapped_curie (hc : spec.isEnabledIn .curie = true)
    (hf : spec.isEnabledIn .feynman = false) :
    (oracleInfo storage spec).uncappedTxL1Cost input spec ratio size =
      .ok (curieCost storage (BitVec.ofNat 256 input.length)) := by
  unfold uncappedTxL1Cost
  rw [hc, Bool.not_true, if_neg Bool.false_ne_true, hf, Bool.not_false,
    if_pos rfl, oracleInfo_curie storage hc hf]
  rfl

theorem uncapped_feynman (hf : spec.isEnabledIn .feynman = true)
    (hg : spec.isEnabledIn .galileo = false) :
    (oracleInfo storage spec).uncappedTxL1Cost input spec ratio size =
      match ratio with
      | none => .error .missingCompressionRatio
      | some ratio =>
        if ratio < txL1FeePrecision then .error (.invalidCompressionRatio ratio)
        else .ok (feynmanCost (BitVec.ofNat 256 input.length) (bytePrice storage)
          (if storage penaltyThresholdSlot ≤ ratio then txL1FeePrecision
            else storage penaltyFactorSlot)) := by
  have hc : spec.isEnabledIn .curie = true := ScrollSpecId.isEnabledIn_trans hf (by decide)
  unfold uncappedTxL1Cost
  rw [hc, Bool.not_true, if_neg Bool.false_ne_true, hf, Bool.not_true,
    if_neg Bool.false_ne_true, hg, Bool.not_false, if_pos rfl, oracleInfo_feynman storage hf]
  cases ratio with
  | none => rfl
  | some ratio =>
    dsimp only
    rw [calculateTxL1CostFeynman]
    split <;> rfl

theorem uncapped_galileo (hg : spec.isEnabledIn .galileo = true) :
    (oracleInfo storage spec).uncappedTxL1Cost input spec ratio size =
      match size with
      | none => .error .missingCompressedSize
      | some size =>
        if BitVec.ofNat 64 input.length < size then
          .error (.invalidCompressedSize size (BitVec.ofNat 64 input.length))
        else .ok (galileoCost (size.setWidth 256) (bytePrice storage)
          (storage penaltyFactorSlot)) := by
  have hf : spec.isEnabledIn .feynman = true := ScrollSpecId.isEnabledIn_trans hg (by decide)
  have hc : spec.isEnabledIn .curie = true := ScrollSpecId.isEnabledIn_trans hf (by decide)
  unfold uncappedTxL1Cost
  rw [hc, Bool.not_true, if_neg Bool.false_ne_true, hf, Bool.not_true,
    if_neg Bool.false_ne_true, hg, Bool.not_true, if_neg Bool.false_ne_true,
    oracleInfo_feynman storage hf]
  cases size with
  | none => rfl
  | some size =>
    dsimp only
    rw [calculateTxL1CostGalileo]
    split <;> rfl

end Formulas

/-! ## Order of the formulas -/

/-- Pointwise smaller fee values under the same penalty. -/
structure OracleLe (storage storage' : U256 → U256) : Prop where
  baseFee : storage l1BaseFeeSlot ≤ storage' l1BaseFeeSlot
  overhead : storage l1OverheadSlot ≤ storage' l1OverheadSlot
  scalar : storage l1ScalarSlot ≤ storage' l1ScalarSlot
  blobBaseFee : storage l1BlobBaseFeeSlot ≤ storage' l1BlobBaseFeeSlot
  commitScalar : storage l1CommitScalarSlot ≤ storage' l1CommitScalarSlot
  blobScalar : storage l1BlobScalarSlot ≤ storage' l1BlobScalarSlot
  penaltyThreshold : storage penaltyThresholdSlot = storage' penaltyThresholdSlot
  penaltyFactor : storage penaltyFactorSlot = storage' penaltyFactorSlot

section Order

variable {storage storage' : U256 → U256}

theorem shanghaiCost_le (h : OracleLe storage storage') (cost : U64) :
    shanghaiCost storage cost ≤ shanghaiCost storage' cost :=
  udiv_le_udiv_left (satMul_le_satMul (satMul_le_satMul (satAdd_le_satAdd
    (satAdd_le_satAdd (BitVec.le_refl _) h.overhead) (BitVec.le_refl _)) h.baseFee) h.scalar) _

theorem shanghaiCost_le_of_cost {cost cost' : U64} (h : cost ≤ cost')
    (storage : U256 → U256) : shanghaiCost storage cost ≤ shanghaiCost storage cost' :=
  udiv_le_udiv_left (satMul_le_satMul (satMul_le_satMul (satAdd_le_satAdd
    (satAdd_le_satAdd (setWidth_le_setWidth h (by decide)) (BitVec.le_refl _))
    (BitVec.le_refl _)) (BitVec.le_refl _)) (BitVec.le_refl _)) _

theorem curieCost_le (h : OracleLe storage storage') (txSize : U256) :
    curieCost storage txSize ≤ curieCost storage' txSize :=
  udiv_le_udiv_left (satAdd_le_satAdd (satMul_le_satMul h.commitScalar h.baseFee)
    (satMul_le_satMul (satMul_le_satMul (BitVec.le_refl _) h.blobBaseFee) h.blobScalar)) _

theorem curieCost_le_of_size {txSize txSize' : U256} (h : txSize ≤ txSize')
    (storage : U256 → U256) : curieCost storage txSize ≤ curieCost storage txSize' :=
  udiv_le_udiv_left (satAdd_le_satAdd (BitVec.le_refl _)
    (satMul_le_satMul (satMul_le_satMul h (BitVec.le_refl _)) (BitVec.le_refl _))) _

theorem bytePrice_le (h : OracleLe storage storage') : bytePrice storage ≤ bytePrice storage' :=
  satAdd_le_satAdd (satMul_le_satMul h.commitScalar h.baseFee)
    (satMul_le_satMul h.blobScalar h.blobBaseFee)

theorem feynmanCost_le {txSize txSize' price price' penalty penalty' : U256}
    (hsize : txSize ≤ txSize') (hprice : price ≤ price') (hpenalty : penalty ≤ penalty') :
    feynmanCost txSize price penalty ≤ feynmanCost txSize' price' penalty' :=
  udiv_le_udiv_left (udiv_le_udiv_left
    (satMul_le_satMul (satMul_le_satMul hsize hprice) hpenalty) _) _

/-- The fee from Galileo grows with the size and the price. -/
theorem galileoCost_le {size size' price price' : U256} (hsize : size ≤ size')
    (hprice : price ≤ price') (factor : U256) :
    galileoCost size price factor ≤ galileoCost size' price' factor := by
  have hbase := satMul_le_satMul hprice hsize
  exact udiv_le_udiv_left
    (satAdd_le_satAdd hbase (udiv_le_udiv_left (satMul_le_satMul hbase hsize) _)) _

/-- The fee from Galileo shrinks with the penalty factor, of which zero is read as one. -/
theorem galileoCost_le_of_factor {factor factor' : U256} (h : factor ≤ factor')
    (size price : U256) : galileoCost size price factor' ≤ galileoCost size price factor := by
  have hone : (1 : U256).toNat = 1 := rfl
  have hpos : 0 < (if factor = 0 then (1 : U256) else factor).toNat := by
    split
    · decide
    · rename_i hne
      exact Nat.pos_of_ne_zero fun hzero => hne (BitVec.eq_of_toNat_eq hzero)
  have hsanitized : (if factor = 0 then (1 : U256) else factor) ≤
      if factor' = 0 then 1 else factor' := by
    by_cases hzero : factor = 0
    · by_cases hzero' : factor' = 0
      · rw [if_pos hzero, if_pos hzero']
        exact BitVec.le_refl _
      · rw [if_pos hzero, if_neg hzero', BitVec.le_def, hone]
        exact Nat.pos_of_ne_zero fun hne => hzero' (BitVec.eq_of_toNat_eq hne)
    · have hne' : ¬factor' = 0 := by
        rintro rfl
        have hle : factor.toNat ≤ 0 := h
        exact hzero (BitVec.eq_of_toNat_eq (Nat.le_zero.mp hle))
      rwa [if_neg hzero, if_neg hne']
  exact udiv_le_udiv_left (satAdd_le_satAdd (BitVec.le_refl _)
    (udiv_le_udiv_right _ hpos hsanitized)) _

end Order

/-! ## Order of the fees -/

section Fees

variable {spec : ScrollSpecId} {storage storage' : U256 → U256} {input input' : Bytes}

/-- The exact calldata cost of the bytes. -/
def exactCalldataCost (input : Bytes) : Nat :=
  4 * input.count 0 + 16 * (input.length - input.count 0)

theorem calldataCost_le (hlt : exactCalldataCost input' < 2 ^ 64)
    (hle : exactCalldataCost input ≤ exactCalldataCost input') :
    calldataCost input ≤ calldataCost input' := by
  have hcost : (calldataCost input).toNat = exactCalldataCost input := by
    rw [toNat_calldataCost_mod]
    exact Nat.mod_eq_of_lt (hle.trans_lt hlt)
  have hcost' : (calldataCost input').toNat = exactCalldataCost input' := by
    rw [toNat_calldataCost_mod]
    exact Nat.mod_eq_of_lt hlt
  rwa [BitVec.le_def, hcost, hcost']

/-- The cost of data of fewer than 2^60 bytes does not wrap. -/
theorem exactCalldataCost_lt (h : input.length < 2 ^ 60) : exactCalldataCost input < 2 ^ 64 := by
  have hcount := List.count_le_length (a := (0 : U8)) (l := input)
  unfold exactCalldataCost
  omega

theorem exactCalldataCost_append (input suffix : Bytes) :
    exactCalldataCost (input ++ suffix) =
      exactCalldataCost input + exactCalldataCost suffix := by
  have hinput := List.count_le_length (a := (0 : U8)) (l := input)
  have hsuffix := List.count_le_length (a := (0 : U8)) (l := suffix)
  unfold exactCalldataCost
  rw [List.count_append, List.length_append]
  omega

theorem exactCalldataCost_cons_le (byte : U8) (rest : Bytes) :
    exactCalldataCost (0 :: rest) ≤ exactCalldataCost (byte :: rest) := by
  have hrest := List.count_le_length (a := (0 : U8)) (l := rest)
  unfold exactCalldataCost
  rw [List.count_cons_self, List.length_cons, List.length_cons]
  by_cases hzero : byte = 0
  · rw [hzero, List.count_cons_self]
  · rw [List.count_cons_of_ne hzero]
    omega

/-- A larger oracle value never lowers the fee. -/
theorem l1Fee_le_of_oracleLe (h : OracleLe storage storage') (spec : ScrollSpecId)
    (input : Bytes) (ratio : Option U256) (size : Option Usize) :
    FeeLe (l1Fee spec storage input ratio size) (l1Fee spec storage' input ratio size) := by
  apply FeeLe.cap
  cases hc : spec.isEnabledIn .curie with
  | false =>
    rw [uncapped_shanghai _ _ _ _ hc, uncapped_shanghai _ _ _ _ hc]
    exact .fee (shanghaiCost_le h _)
  | true =>
    cases hf : spec.isEnabledIn .feynman with
    | false =>
      rw [uncapped_curie _ _ _ _ hc hf, uncapped_curie _ _ _ _ hc hf]
      exact .fee (curieCost_le h _)
    | true =>
      cases hg : spec.isEnabledIn .galileo with
      | false =>
        rw [uncapped_feynman _ _ _ _ hf hg, uncapped_feynman _ _ _ _ hf hg]
        cases ratio with
        | none => exact .error _
        | some ratio =>
          dsimp only
          rw [h.penaltyThreshold, h.penaltyFactor]
          split
          · exact .error _
          · exact .fee (feynmanCost_le (BitVec.le_refl _) (bytePrice_le h) (BitVec.le_refl _))
      | true =>
        rw [uncapped_galileo _ _ _ _ hg, uncapped_galileo _ _ _ _ hg]
        cases size with
        | none => exact .error _
        | some size =>
          dsimp only
          rw [h.penaltyFactor]
          split
          · exact .error _
          · exact .fee (galileoCost_le (BitVec.le_refl _) (bytePrice_le h) _)

/-- Before Galileo more data never lowers the fee, as long as its cost before Curie does
not wrap. -/
theorem l1Fee_le_of_data (hg : spec.isEnabledIn .galileo = false)
    (hlength : input.length ≤ input'.length) (hlt : input'.length < 2 ^ 64)
    (hcost : spec.isEnabledIn .curie = false → calldataCost input ≤ calldataCost input')
    (storage : U256 → U256) (ratio : Option U256) (size : Option Usize) :
    FeeLe (l1Fee spec storage input ratio size) (l1Fee spec storage input' ratio size) := by
  have hsize : BitVec.ofNat 256 input.length ≤ BitVec.ofNat 256 input'.length :=
    ofNat_le_ofNat hlength (hlt.trans (by decide))
  apply FeeLe.cap
  cases hc : spec.isEnabledIn .curie with
  | false =>
    rw [uncapped_shanghai _ _ _ _ hc, uncapped_shanghai _ _ _ _ hc]
    exact .fee (shanghaiCost_le_of_cost (hcost hc) _)
  | true =>
    cases hf : spec.isEnabledIn .feynman with
    | false =>
      rw [uncapped_curie _ _ _ _ hc hf, uncapped_curie _ _ _ _ hc hf]
      exact .fee (curieCost_le_of_size hsize _)
    | true =>
      rw [uncapped_feynman _ _ _ _ hf hg, uncapped_feynman _ _ _ _ hf hg]
      cases ratio with
      | none => exact .error _
      | some ratio =>
        dsimp only
        split
        · exact .error _
        · exact .fee (feynmanCost_le hsize (BitVec.le_refl _) (BitVec.le_refl _))

/-- The oracle storage with another penalty factor. -/
def withPenaltyFactor (storage : U256 → U256) (factor : U256) : U256 → U256 :=
  Function.update storage penaltyFactorSlot factor

theorem bytePrice_withPenaltyFactor (storage : U256 → U256) (factor : U256) :
    bytePrice (withPenaltyFactor storage factor) = bytePrice storage := rfl

@[simp] theorem withPenaltyFactor_factor (storage : U256 → U256) (factor : U256) :
    withPenaltyFactor storage factor penaltyFactorSlot = factor := Function.update_self ..

/-- From Feynman until Galileo a larger penalty factor never lowers the fee. -/
theorem l1Fee_le_of_factor (hf : spec.isEnabledIn .feynman = true)
    (hg : spec.isEnabledIn .galileo = false) {factor factor' : U256} (h : factor ≤ factor')
    (storage : U256 → U256) (input : Bytes) (ratio : Option U256) (size : Option Usize) :
    FeeLe (l1Fee spec (withPenaltyFactor storage factor) input ratio size)
      (l1Fee spec (withPenaltyFactor storage factor') input ratio size) := by
  have hthreshold (factor : U256) : withPenaltyFactor storage factor penaltyThresholdSlot =
      storage penaltyThresholdSlot := Function.update_of_ne (by decide) ..
  apply FeeLe.cap
  rw [uncapped_feynman _ _ _ _ hf hg, uncapped_feynman _ _ _ _ hf hg]
  cases ratio with
  | none => exact .error _
  | some ratio =>
    dsimp only
    rw [hthreshold, hthreshold, bytePrice_withPenaltyFactor, bytePrice_withPenaltyFactor,
      withPenaltyFactor_factor, withPenaltyFactor_factor]
    split
    · exact .error _
    · refine .fee (feynmanCost_le (BitVec.le_refl _) (BitVec.le_refl _) ?_)
      split
      · exact BitVec.le_refl _
      · exact h

/-- From Galileo a larger penalty factor never raises the fee. -/
theorem l1Fee_ge_of_factor (hg : spec.isEnabledIn .galileo = true) {factor factor' : U256}
    (h : factor ≤ factor') (storage : U256 → U256) (input : Bytes) (ratio : Option U256)
    (size : Option Usize) :
    FeeLe (l1Fee spec (withPenaltyFactor storage factor') input ratio size)
      (l1Fee spec (withPenaltyFactor storage factor) input ratio size) := by
  apply FeeLe.cap
  rw [uncapped_galileo _ _ _ _ hg, uncapped_galileo _ _ _ _ hg]
  cases size with
  | none => exact .error _
  | some size =>
    dsimp only
    rw [bytePrice_withPenaltyFactor, bytePrice_withPenaltyFactor, withPenaltyFactor_factor,
      withPenaltyFactor_factor]
    split
    · exact .error _
    · exact .fee (galileoCost_le_of_factor h _ _)

theorem not_length_lt {size : Usize} (hlt : input.length < 2 ^ 64)
    (hle : size.toNat ≤ input.length) : ¬BitVec.ofNat 64 input.length < size := by
  rw [BitVec.lt_def, BitVec.toNat_ofNat, Nat.mod_eq_of_lt hlt]
  exact not_lt.mpr hle

/-- From Galileo a larger compressed size never lowers the fee, and of the data only that
it is at least as long matters. -/
theorem l1Fee_le_of_compressedSize (hg : spec.isEnabledIn .galileo = true) {size size' : Usize}
    (h : size ≤ size') (hlt : input.length < 2 ^ 64) (hlt' : input'.length < 2 ^ 64)
    (hle : size.toNat ≤ input.length) (hle' : size'.toNat ≤ input'.length)
    (storage : U256 → U256) (ratio : Option U256) :
    FeeLe (l1Fee spec storage input ratio (some size))
      (l1Fee spec storage input' ratio (some size')) := by
  apply FeeLe.cap
  rw [uncapped_galileo _ _ _ _ hg, uncapped_galileo _ _ _ _ hg]
  dsimp only
  rw [if_neg (not_length_lt hlt hle), if_neg (not_length_lt hlt' hle')]
  exact .fee (galileoCost_le (setWidth_le_setWidth h (by decide)) (BitVec.le_refl _) _)

theorem FeeLe.antisymm {x y : Except L1FeeError U256} (h : FeeLe x y) (h' : FeeLe y x) :
    x = y := by
  cases h with
  | fee h =>
    cases h' with
    | fee h' => exact congrArg Except.ok (BitVec.le_antisymm h h')
  | error e => rfl

/-- The fee respects the order of its inputs across saturation, rounding and caps: of the
oracle values under every hardfork; of the data before Galileo, where its cost before Curie
does not wrap, as it does for no data below 2^60 bytes (`exactCalldataCost_lt`); of the
penalty factor; and of the compressed size from Galileo on, when the data only has to be as
long and a larger penalty factor lowers the fee. -/
theorem l1Fee_monotone (spec : ScrollSpecId) (storage : U256 → U256) (input : Bytes)
    (ratio : Option U256) (size : Option Usize) :
    (∀ storage', OracleLe storage storage' →
      FeeLe (l1Fee spec storage input ratio size) (l1Fee spec storage' input ratio size)) ∧
    (spec.isEnabledIn .galileo = false → ∀ suffix : Bytes, (input ++ suffix).length < 2 ^ 64 →
      (spec.isEnabledIn .curie = false → exactCalldataCost (input ++ suffix) < 2 ^ 64) →
      FeeLe (l1Fee spec storage input ratio size)
        (l1Fee spec storage (input ++ suffix) ratio size)) ∧
    (spec.isEnabledIn .curie = false → ∀ (before after : Bytes) (byte : U8),
      (before ++ byte :: after).length < 2 ^ 64 →
      exactCalldataCost (before ++ byte :: after) < 2 ^ 64 →
      FeeLe (l1Fee spec storage (before ++ 0 :: after) ratio size)
        (l1Fee spec storage (before ++ byte :: after) ratio size)) ∧
    (spec.isEnabledIn .feynman = true → spec.isEnabledIn .galileo = false →
      ∀ factor factor', factor ≤ factor' →
        FeeLe (l1Fee spec (withPenaltyFactor storage factor) input ratio size)
          (l1Fee spec (withPenaltyFactor storage factor') input ratio size)) ∧
    (spec.isEnabledIn .galileo = true →
      (∀ size size' : Usize, size ≤ size' → size'.toNat ≤ input.length → input.length < 2 ^ 64 →
        FeeLe (l1Fee spec storage input ratio (some size))
          (l1Fee spec storage input ratio (some size'))) ∧
      (∀ (input' : Bytes) (size : Usize), size.toNat ≤ input.length → input.length < 2 ^ 64 →
        size.toNat ≤ input'.length → input'.length < 2 ^ 64 →
        l1Fee spec storage input ratio (some size) = l1Fee spec storage input' ratio (some size)) ∧
      ∀ factor factor', factor ≤ factor' →
        FeeLe (l1Fee spec (withPenaltyFactor storage factor') input ratio size)
          (l1Fee spec (withPenaltyFactor storage factor) input ratio size)) := by
  refine ⟨fun storage' h => l1Fee_le_of_oracleLe h spec input ratio size, ?_, ?_,
    fun hf hg factor factor' h => l1Fee_le_of_factor hf hg h storage input ratio size,
    fun hg => ⟨?_, ?_, fun factor factor' h => l1Fee_ge_of_factor hg h storage input ratio size⟩⟩
  · intro hg suffix hlt hcost
    have hlength : input.length ≤ (input ++ suffix).length := by
      rw [List.length_append]
      omega
    refine l1Fee_le_of_data hg hlength hlt (fun hc => calldataCost_le (hcost hc) ?_) _ _ _
    rw [exactCalldataCost_append]
    omega
  · intro hc before after byte hlt hcost
    have hg : spec.isEnabledIn .galileo = false := by
      cases hg : spec.isEnabledIn .galileo with
      | false => rfl
      | true => rw [ScrollSpecId.isEnabledIn_trans hg (by decide)] at hc; exact hc
    have hlength : (before ++ 0 :: after).length ≤ (before ++ byte :: after).length := by
      simp
    refine l1Fee_le_of_data hg hlength hlt (fun _ => calldataCost_le hcost ?_) _ _ _
    have hcons := exactCalldataCost_cons_le byte after
    rw [exactCalldataCost_append, exactCalldataCost_append]
    omega
  · intro size size' h hle hlt
    exact l1Fee_le_of_compressedSize hg h hlt hlt ((BitVec.le_def.mp h).trans hle) hle _ _
  · intro input' size hle hlt hle' hlt'
    exact (l1Fee_le_of_compressedSize hg (BitVec.le_refl _) hlt hlt' hle hle' _ _).antisymm
      (l1Fee_le_of_compressedSize hg (BitVec.le_refl _) hlt' hlt hle' hle _ _)

end Fees

/-- Oracle values with the given base fee. -/
def sampleOracle (baseFee : U256) : U256 → U256 := fun slot =>
  if slot = l1BaseFeeSlot then baseFee
  else if slot = penaltyThresholdSlot then 2000000000
  else 1000000000

/-- A larger base fee, an appended byte, a byte that is no longer zero and, until Galileo, a
larger penalty factor raise the fee; from Galileo on the penalty factor zero costs more than
10^9. -/
theorem l1Fee_monotone_sample :
    let oracle := sampleOracle 1000000000
    (FeeLe (l1Fee .curie oracle [0] none none)
          (l1Fee .curie (sampleOracle 2000000000) [0] none none) ∧
        FeeLe (l1Fee .curie oracle [0] none none) (l1Fee .curie oracle [0, 7] none none) ∧
        FeeLe (l1Fee .shanghai oracle [0] none none) (l1Fee .shanghai oracle [9] none none) ∧
        FeeLe (l1Fee .feynman (withPenaltyFactor oracle 1000000000) [5] (some 1000000000) none)
          (l1Fee .feynman (withPenaltyFactor oracle 4000000000) [5] (some 1000000000) none) ∧
        FeeLe (l1Fee .galileo (withPenaltyFactor oracle 1000000000) [5] none (some 1))
          (l1Fee .galileo (withPenaltyFactor oracle 0) [5] none (some 1))) ∧
      l1Fee .curie oracle [0] none none = .ok 2000000000 ∧
      l1Fee .curie (sampleOracle 2000000000) [0] none none = .ok 3000000000 ∧
      l1Fee .curie oracle [0, 7] none none = .ok 3000000000 ∧
      l1Fee .shanghai oracle [0] none none = .ok 1000000068000000000 ∧
      l1Fee .shanghai oracle [9] none none = .ok 1000000080000000000 ∧
      l1Fee .feynman (withPenaltyFactor oracle 1000000000) [5] (some 1000000000) none =
        .ok 2000000000 ∧
      l1Fee .feynman (withPenaltyFactor oracle 4000000000) [5] (some 1000000000) none =
        .ok 8000000000 ∧
      l1Fee .galileo (withPenaltyFactor oracle 1000000000) [5] none (some 1) =
        .ok 2000000002 ∧
      l1Fee .galileo (withPenaltyFactor oracle 0) [5] none (some 1) = .ok 4000000000 := by
  intro oracle
  have horacle : OracleLe oracle (sampleOracle 2000000000) := by
    constructor <;> decide
  have hupper : (1000000000 : U256) ≤ 4000000000 := by decide
  have hzero : (0 : U256) ≤ 1000000000 := by decide
  refine ⟨⟨?_, ?_, ?_, ?_, ?_⟩, by decide +kernel⟩
  · exact (l1Fee_monotone .curie oracle [0] none none).1 _ horacle
  · exact (l1Fee_monotone .curie oracle [0] none none).2.1 rfl [7] (by decide)
      fun hc => nomatch hc
  · exact (l1Fee_monotone .shanghai oracle [0] none none).2.2.1 rfl [] [] 9 (by decide)
      (exactCalldataCost_lt (by decide))
  · exact (l1Fee_monotone .feynman oracle [5] (some 1000000000) none).2.2.2.1 rfl rfl _ _ hupper
  · exact ((l1Fee_monotone .galileo oracle [5] none (some 1)).2.2.2.2 rfl).2.2 _ _ hzero

end ScrollRevm
