import ScrollRevm.L1Block
import ScrollRevm.Lib.StateResult

/-!
# Fetching the oracle values

Which oracle slots a hardfork reads, and what fetching them does in a monad that may
fail and change its state: it returns the info of the values read, and it changes no
more than reading a slot does.
-/

namespace ScrollRevm

open FixedWidth StateResult

/-- The L1 block info of an oracle storage that can always be read. -/
def oracleInfo (storage : U256 → U256) (spec : ScrollSpecId) : L1BlockInfo :=
  Id.run (L1BlockInfo.tryFetchWith (fun slot => pure (storage slot)) spec)

/-- Reads that succeed fetch the info of the values they return. -/
theorem tryFetchWith_pure {m : Type → Type} [Monad m] [LawfulMonad m] (storage : U256 → U256)
    (spec : ScrollSpecId) :
    L1BlockInfo.tryFetchWith (fun slot => (pure (storage slot) : m U256)) spec =
      pure (oracleInfo storage spec) := by
  cases hc : spec.isEnabledIn .curie <;> cases hf : spec.isEnabledIn .feynman <;>
    simp [oracleInfo, L1BlockInfo.tryFetchWith, hc, hf]

/-- Before Curie only the first three slots are read. -/
theorem oracleInfo_shanghai (storage : U256 → U256) {spec : ScrollSpecId}
    (hc : spec.isEnabledIn .curie = false) :
    oracleInfo storage spec =
      { l1BaseFee := storage l1BaseFeeSlot, l1FeeOverhead := storage l1OverheadSlot
        l1BaseFeeScalar := storage l1ScalarSlot } := by
  simp [oracleInfo, L1BlockInfo.tryFetchWith, hc]

/-- From Curie until Feynman the penalty slots are not read. -/
theorem oracleInfo_curie (storage : U256 → U256) {spec : ScrollSpecId}
    (hc : spec.isEnabledIn .curie = true) (hf : spec.isEnabledIn .feynman = false) :
    oracleInfo storage spec =
      { l1BaseFee := storage l1BaseFeeSlot, l1FeeOverhead := storage l1OverheadSlot
        l1BaseFeeScalar := storage l1ScalarSlot
        l1BlobBaseFee := some (storage l1BlobBaseFeeSlot)
        l1CommitScalar := some (storage l1CommitScalarSlot)
        l1BlobScalar := some (storage l1BlobScalarSlot)
        calldataGas := some (satMul (storage l1CommitScalarSlot) (storage l1BaseFeeSlot)) } := by
  simp [oracleInfo, L1BlockInfo.tryFetchWith, hc, hf]

/-- From Feynman on every slot is read. -/
theorem oracleInfo_feynman (storage : U256 → U256) {spec : ScrollSpecId}
    (hf : spec.isEnabledIn .feynman = true) :
    oracleInfo storage spec =
      { l1BaseFee := storage l1BaseFeeSlot, l1FeeOverhead := storage l1OverheadSlot
        l1BaseFeeScalar := storage l1ScalarSlot
        l1BlobBaseFee := some (storage l1BlobBaseFeeSlot)
        l1CommitScalar := some (storage l1CommitScalarSlot)
        l1BlobScalar := some (storage l1BlobScalarSlot)
        calldataGas := some (satMul (storage l1CommitScalarSlot) (storage l1BaseFeeSlot))
        penaltyThreshold := some (storage penaltyThresholdSlot)
        penaltyFactor := some (storage penaltyFactorSlot) } := by
  have hc : spec.isEnabledIn .curie = true :=
    ScrollSpecId.isEnabledIn_trans hf (by decide)
  simp [oracleInfo, L1BlockInfo.tryFetchWith, hc, hf]

/-! ## Fetching with a state -/

section Stateful

variable {ε σ : Type} {storage : U256 → EStateM ε σ U256}

/-- Fetching the oracle values relates states as reading one slot does. -/
theorem tryFetchWith_exits {r : σ → σ → Prop} (hrefl : ∀ s, r s s)
    (htrans : ∀ a b c, r a b → r b c → r a c)
    (h : ∀ slot, Exits r (storage slot)) (spec : ScrollSpecId) :
    Exits r (L1BlockInfo.tryFetchWith storage spec) := by
  unfold L1BlockInfo.tryFetchWith
  refine .bind htrans (h _) fun _ => .bind htrans (h _) fun _ => .bind htrans (h _) fun _ => ?_
  split
  · exact .pure hrefl _
  refine .bind htrans (h _) fun _ => .bind htrans (h _) fun _ => .bind htrans (h _) fun _ => ?_
  split
  · exact .pure hrefl _
  · exact .bind htrans (h _) fun _ => .bind htrans (h _) fun _ => .pure hrefl _

/-- Reads that yield the given values under an invariant yield the info of these values. -/
theorem tryFetchWith_yields {inv : σ → Prop} {values : U256 → U256}
    (h : ∀ slot, Yields inv (storage slot) (values slot)) (spec : ScrollSpecId) :
    Yields inv (L1BlockInfo.tryFetchWith storage spec) (oracleInfo values spec) := by
  unfold L1BlockInfo.tryFetchWith
  refine .bind (h _) (.bind (h _) (.bind (h _) ?_))
  cases hc : spec.isEnabledIn .curie with
  | false =>
    rw [oracleInfo_shanghai values hc]
    exact .pure inv _
  | true =>
    refine .bind (h _) (.bind (h _) (.bind (h _) ?_))
    cases hf : spec.isEnabledIn .feynman with
    | false =>
      rw [oracleInfo_curie values hc hf]
      exact .pure inv _
    | true =>
      rw [oracleInfo_feynman values hf]
      exact .bind (h _) (.bind (h _) (.pure inv _))

/-- Reads that return the given values in every state of an invariant fetch the info of
these values. -/
theorem tryFetchWith_ok (inv : σ → Prop) {values : U256 → U256}
    (h : ∀ slot s value s', inv s → (storage slot).run s = .ok value s' →
      value = values slot ∧ inv s')
    {spec : ScrollSpecId} {s s' : σ} {info : L1BlockInfo} (hinv : inv s)
    (hrun : (L1BlockInfo.tryFetchWith storage spec).run s = .ok info s') :
    info = oracleInfo values spec ∧ inv s' := by
  obtain ⟨v₁, s₁, hread₁, h₁⟩ := run_bind_eq_ok.mp hrun
  obtain ⟨rfl, hinv₁⟩ := h _ _ _ _ hinv hread₁
  obtain ⟨v₂, s₂, hread₂, h₂⟩ := run_bind_eq_ok.mp h₁
  obtain ⟨rfl, hinv₂⟩ := h _ _ _ _ hinv₁ hread₂
  obtain ⟨v₃, s₃, hread₃, h₃⟩ := run_bind_eq_ok.mp h₂
  obtain ⟨rfl, hinv₃⟩ := h _ _ _ _ hinv₂ hread₃
  cases hc : spec.isEnabledIn .curie with
  | false =>
    rw [hc, Bool.not_false, if_pos rfl] at h₃
    cases h₃
    exact ⟨(oracleInfo_shanghai values hc).symm, hinv₃⟩
  | true =>
    rw [hc, Bool.not_true, if_neg Bool.false_ne_true] at h₃
    obtain ⟨v₅, s₅, hread₅, h₅⟩ := run_bind_eq_ok.mp h₃
    obtain ⟨rfl, hinv₅⟩ := h _ _ _ _ hinv₃ hread₅
    obtain ⟨v₆, s₆, hread₆, h₆⟩ := run_bind_eq_ok.mp h₅
    obtain ⟨rfl, hinv₆⟩ := h _ _ _ _ hinv₅ hread₆
    obtain ⟨v₇, s₇, hread₇, h₇⟩ := run_bind_eq_ok.mp h₆
    obtain ⟨rfl, hinv₇⟩ := h _ _ _ _ hinv₆ hread₇
    cases hf : spec.isEnabledIn .feynman with
    | false =>
      rw [hf, Bool.not_false, if_pos rfl] at h₇
      cases h₇
      exact ⟨(oracleInfo_curie values hc hf).symm, hinv₇⟩
    | true =>
      rw [hf, Bool.not_true, if_neg Bool.false_ne_true] at h₇
      obtain ⟨v₉, s₉, hread₉, h₉⟩ := run_bind_eq_ok.mp h₇
      obtain ⟨rfl, hinv₉⟩ := h _ _ _ _ hinv₇ hread₉
      obtain ⟨v₁₀, s₁₀, hread₁₀, h₁₀⟩ := run_bind_eq_ok.mp h₉
      obtain ⟨rfl, hinv₁₀⟩ := h _ _ _ _ hinv₉ hread₁₀
      cases h₁₀
      exact ⟨(oracleInfo_feynman values hf).symm, hinv₁₀⟩

end Stateful

end ScrollRevm
