import Mathlib

/-!
# Saturating and checked arithmetic at a fixed width

Unsigned words are bit vectors read through `toNat`. A saturating expression is
compared with the same expression over the naturals by `Saturates`: the word is
the natural number truncated at the largest word. Truncation is compatible with
sums and products of naturals, so whole polynomial expressions collapse to one
truncation, and a later quotient below a small cap cannot tell the two apart.
-/

namespace FixedWidth

variable {w : Nat}

/-- The largest natural number a word of the given width holds. -/
def maxNat (w : Nat) : Nat := 2 ^ w - 1

theorem toNat_le_maxNat (a : BitVec w) : a.toNat ≤ maxNat w := by
  have h := a.isLt
  unfold maxNat
  omega

theorem le_maxNat_iff {n : Nat} : n ≤ maxNat w ↔ n < 2 ^ w := by
  have h := Nat.two_pow_pos w
  unfold maxNat
  omega

/-- The word of a natural number, clamped at the largest word. -/
def clamp (w n : Nat) : BitVec w := BitVec.ofNat w (min (maxNat w) n)

@[simp] theorem toNat_clamp (n : Nat) : (clamp w n).toNat = min (maxNat w) n := by
  rw [clamp, BitVec.toNat_ofNat]
  exact Nat.mod_eq_of_lt (le_maxNat_iff.mp (min_le_left _ _))

/-- Saturating addition. -/
def satAdd (a b : BitVec w) : BitVec w := clamp w (a.toNat + b.toNat)

/-- Saturating multiplication. -/
def satMul (a b : BitVec w) : BitVec w := clamp w (a.toNat * b.toNat)

/-- Saturating subtraction. -/
def satSub (a b : BitVec w) : BitVec w := BitVec.ofNat w (a.toNat - b.toNat)

@[simp] theorem toNat_satAdd (a b : BitVec w) :
    (satAdd a b).toNat = min (maxNat w) (a.toNat + b.toNat) := toNat_clamp _

@[simp] theorem toNat_satMul (a b : BitVec w) :
    (satMul a b).toNat = min (maxNat w) (a.toNat * b.toNat) := toNat_clamp _

@[simp] theorem toNat_satSub (a b : BitVec w) : (satSub a b).toNat = a.toNat - b.toNat := by
  rw [satSub, BitVec.toNat_ofNat]
  exact Nat.mod_eq_of_lt ((Nat.sub_le _ _).trans_lt a.isLt)

/-- The sum, when it fits in the width. -/
def checkedAdd (a b : BitVec w) : Option (BitVec w) :=
  if a.toNat + b.toNat < 2 ^ w then some (a + b) else none

/-- The product, when it fits in the width. -/
def checkedMul (a b : BitVec w) : Option (BitVec w) :=
  if a.toNat * b.toNat < 2 ^ w then some (a * b) else none

/-- The difference, when it is not negative. -/
def checkedSub (a b : BitVec w) : Option (BitVec w) :=
  if b.toNat ≤ a.toNat then some (a - b) else none

/-- The smaller of two words. -/
def wordMin (a b : BitVec w) : BitVec w := if a ≤ b then a else b

@[simp] theorem toNat_wordMin (a b : BitVec w) : (wordMin a b).toNat = min a.toNat b.toNat := by
  unfold wordMin
  split
  · next h => exact (min_eq_left (BitVec.le_def.mp h)).symm
  · next h => exact (min_eq_right (not_le.mp (mt BitVec.le_def.mpr h)).le).symm

theorem checkedAdd_eq_some {a b c : BitVec w} :
    checkedAdd a b = some c ↔ c.toNat = a.toNat + b.toNat := by
  unfold checkedAdd
  split
  · next h =>
    rw [Option.some.injEq, ← BitVec.toNat_inj, BitVec.toNat_add, Nat.mod_eq_of_lt h]
    exact eq_comm
  · next h =>
    have hc := c.isLt
    simp only [reduceCtorEq, false_iff]
    omega

theorem checkedAdd_eq_none {a b : BitVec w} :
    checkedAdd a b = none ↔ 2 ^ w ≤ a.toNat + b.toNat := by
  simp only [checkedAdd, ite_eq_right_iff, reduceCtorEq, imp_false, not_lt]

theorem checkedMul_eq_some {a b c : BitVec w} :
    checkedMul a b = some c ↔ c.toNat = a.toNat * b.toNat := by
  unfold checkedMul
  split
  · next h =>
    rw [Option.some.injEq, ← BitVec.toNat_inj, BitVec.toNat_mul, Nat.mod_eq_of_lt h]
    exact eq_comm
  · next h =>
    have hc := c.isLt
    simp only [reduceCtorEq, false_iff]
    omega

theorem checkedMul_eq_none {a b : BitVec w} :
    checkedMul a b = none ↔ 2 ^ w ≤ a.toNat * b.toNat := by
  simp only [checkedMul, ite_eq_right_iff, reduceCtorEq, imp_false, not_lt]

theorem checkedSub_eq_some {a b c : BitVec w} :
    checkedSub a b = some c ↔ b.toNat ≤ a.toNat ∧ c.toNat = a.toNat - b.toNat := by
  unfold checkedSub
  split
  · next h =>
    rw [Option.some.injEq, ← BitVec.toNat_inj, BitVec.toNat_sub_of_le (BitVec.le_def.mpr h)]
    simp only [h, true_and]
    exact eq_comm
  · next h => simp only [reduceCtorEq, h, false_and]

/-- A covered difference, taken over the naturals. -/
theorem sub_eq_ofNat {a b : BitVec w} (h : b ≤ a) : a - b = BitVec.ofNat w (a.toNat - b.toNat) := by
  apply BitVec.eq_of_toNat_eq
  rw [BitVec.toNat_sub_of_le h, BitVec.toNat_ofNat]
  exact (Nat.mod_eq_of_lt ((Nat.sub_le _ _).trans_lt a.isLt)).symm

theorem checkedSub_eq_none {a b : BitVec w} :
    checkedSub a b = none ↔ a.toNat < b.toNat := by
  simp only [checkedSub, ite_eq_right_iff, reduceCtorEq, imp_false, not_le]

/-! ## Order -/

theorem satAdd_le_satAdd {a a' b b' : BitVec w} (ha : a ≤ a') (hb : b ≤ b') :
    satAdd a b ≤ satAdd a' b' := by
  rw [BitVec.le_def, toNat_satAdd, toNat_satAdd]
  exact min_le_min_left _ (Nat.add_le_add ha hb)

theorem satMul_le_satMul {a a' b b' : BitVec w} (ha : a ≤ a') (hb : b ≤ b') :
    satMul a b ≤ satMul a' b' := by
  rw [BitVec.le_def, toNat_satMul, toNat_satMul]
  exact min_le_min_left _ (Nat.mul_le_mul ha hb)

theorem udiv_le_udiv_left {a a' : BitVec w} (ha : a ≤ a') (d : BitVec w) : a / d ≤ a' / d := by
  rw [BitVec.le_def, BitVec.toNat_udiv, BitVec.toNat_udiv]
  exact Nat.div_le_div_right ha

/-- A quotient shrinks with its divisor growing, from one on. -/
theorem udiv_le_udiv_right (a : BitVec w) {d d' : BitVec w} (hpos : 0 < d.toNat) (hd : d ≤ d') :
    a / d' ≤ a / d := by
  rw [BitVec.le_def, BitVec.toNat_udiv, BitVec.toNat_udiv]
  exact Nat.div_le_div_left hd hpos

theorem wordMin_le_wordMin {a a' : BitVec w} (ha : a ≤ a') (b : BitVec w) :
    wordMin a b ≤ wordMin a' b := by
  rw [BitVec.le_def, toNat_wordMin, toNat_wordMin]
  exact min_le_min_right _ ha

/-- Words of exact numbers keep their order. -/
theorem ofNat_le_ofNat {m n : Nat} (hmn : m ≤ n) (hn : n < 2 ^ w) :
    BitVec.ofNat w m ≤ BitVec.ofNat w n := by
  rw [BitVec.le_def, BitVec.toNat_ofNat, BitVec.toNat_ofNat, Nat.mod_eq_of_lt hn,
    Nat.mod_eq_of_lt (hmn.trans_lt hn)]
  exact hmn

theorem setWidth_le_setWidth {v : Nat} {a b : BitVec v} (h : a ≤ b) (hv : v ≤ w) :
    a.setWidth w ≤ b.setWidth w := by
  rw [BitVec.le_def, BitVec.toNat_setWidth_of_le hv, BitVec.toNat_setWidth_of_le hv]
  exact h

/-! ## Truncation of exact expressions -/

/-- Truncating the summands does not change the truncated sum. -/
theorem min_add_min (m a b : Nat) : min m (min m a + min m b) = min m (a + b) := by
  omega

/-- Truncating the factors does not change the truncated product: a factor that
is cut off is either multiplied by zero or already past the bound. -/
theorem min_mul_min (m a b : Nat) : min m (min m a * min m b) = min m (a * b) := by
  rcases Nat.eq_zero_or_pos a with rfl | ha
  · simp
  rcases Nat.eq_zero_or_pos b with rfl | hb
  · simp
  rcases le_total a m with ham | hma
  · rcases le_total b m with hbm | hmb
    · rw [min_eq_right ham, min_eq_right hbm]
    · rw [min_eq_right ham, min_eq_left hmb,
        min_eq_left (Nat.le_mul_of_pos_left m ha),
        min_eq_left (hmb.trans (Nat.le_mul_of_pos_left b ha))]
  · have hl : m ≤ m * min m b := by
      rcases Nat.eq_zero_or_pos m with rfl | hm
      · simp
      · exact Nat.le_mul_of_pos_right m (lt_min hm hb)
    rw [min_eq_left hma, min_eq_left hl, min_eq_left (hma.trans (Nat.le_mul_of_pos_right a hb))]

/-- A word holds an exact natural number truncated at the largest word. -/
def Saturates (a : BitVec w) (n : Nat) : Prop := a.toNat = min (maxNat w) n

theorem saturates_toNat (a : BitVec w) : Saturates a a.toNat :=
  (min_eq_right (toNat_le_maxNat a)).symm

theorem saturates_ofNat (n : Nat) (h : n < 2 ^ w) : Saturates (BitVec.ofNat w n) n := by
  rw [Saturates, BitVec.toNat_ofNat, Nat.mod_eq_of_lt h, min_eq_right (le_maxNat_iff.mpr h)]

/-- Widening a word keeps its value. -/
theorem saturates_setWidth {v : Nat} (a : BitVec v) (h : v ≤ w) :
    Saturates (a.setWidth w) a.toNat := by
  rw [← BitVec.ofNat_toNat]
  exact saturates_ofNat _ (a.isLt.trans_le (Nat.pow_le_pow_right (by decide) h))

theorem Saturates.add {a b : BitVec w} {m n : Nat} (ha : Saturates a m) (hb : Saturates b n) :
    Saturates (satAdd a b) (m + n) := by
  rw [Saturates, toNat_satAdd, ha, hb, min_add_min]

theorem Saturates.mul {a b : BitVec w} {m n : Nat} (ha : Saturates a m) (hb : Saturates b n) :
    Saturates (satMul a b) (m * n) := by
  rw [Saturates, toNat_satMul, ha, hb, min_mul_min]

/-- A truncated value reaches every bound in range that the exact value reaches. -/
theorem Saturates.le_toNat {a : BitVec w} {n m : Nat} (h : Saturates a n) (hm : m ≤ maxNat w)
    (hmn : m ≤ n) : m ≤ a.toNat := h ▸ le_min hm hmn

/-- Two dividends past the same multiple of the divisor have the same capped quotient. -/
theorem min_div_eq_of_le {cap d m n : Nat} (hd : 0 < d) (hm : cap * d ≤ m) (hn : cap * d ≤ n) :
    min cap (m / d) = min cap (n / d) := by
  rw [min_eq_left ((Nat.le_div_iff_mul_le hd).mpr hm),
    min_eq_left ((Nat.le_div_iff_mul_le hd).mpr hn)]

/-- A capped quotient of a truncated value is the capped quotient of the exact
one, whenever the largest word still exceeds the cap after the division. -/
theorem Saturates.min_div {a : BitVec w} {n cap d : Nat} (h : Saturates a n) (hd : 0 < d)
    (hcap : cap * d ≤ maxNat w) : min cap (a.toNat / d) = min cap (n / d) := by
  rcases le_total n (maxNat w) with hn | hn
  · rw [h, min_eq_right hn]
  · exact min_div_eq_of_le hd (h.le_toNat hcap (hcap.trans hn)) (hcap.trans hn)

/-- Truncating `a` and `a * c` before adding the quotient of the latter does not
show in a capped quotient: if `a * c` is cut off then `a` alone reaches the cap. -/
theorem min_div_add_quotient {cap d m a c q : Nat} (hd : 0 < d) (hzero : c = 0 → a = 0)
    (hm : cap * d ≤ m) (hmc : cap * d * c ≤ m) :
    min cap (min m (min m a + min m (a * c) / q) / d) = min cap ((a + a * c / q) / d) := by
  by_cases h : a * c ≤ m
  · have ham : a ≤ m := by
      rcases Nat.eq_zero_or_pos c with hc | hc
      · rw [hzero hc]
        exact Nat.zero_le m
      · exact (Nat.le_mul_of_pos_right a hc).trans h
    rw [min_eq_right h, min_eq_right ham]
    rcases le_total (a + a * c / q) m with hs | hs
    · rw [min_eq_right hs]
    · exact min_div_eq_of_le hd (le_min hm (hm.trans hs)) (hm.trans hs)
  · have ha : cap * d ≤ a := by
      by_contra hlt
      exact h ((Nat.mul_le_mul_right c (not_le.mp hlt).le).trans hmc)
    refine min_div_eq_of_le hd (le_min hm ?_) (ha.trans (Nat.le_add_right a _))
    exact (le_min hm ha).trans (Nat.le_add_right _ _)

end FixedWidth
