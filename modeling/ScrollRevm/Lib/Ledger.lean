import Mathlib

/-!
# Sums of bounded balances

Finitely many accounts hold machine words. The total is taken exactly, so a debit
that is covered and a credit that does not overflow change it by the amount they move;
a total that fits in a word leaves room for every credit that keeps it so.
-/

namespace Ledger

variable {ι : Type*} [Fintype ι] {w : Nat}

/-- The exact sum of all balances. -/
def total (balance : ι → BitVec w) : Nat := ∑ i, (balance i).toNat

theorem toNat_le_total (balance : ι → BitVec w) (i : ι) : (balance i).toNat ≤ total balance :=
  Finset.single_le_sum (f := fun i => (balance i).toNat) (fun _ _ => Nat.zero_le _)
    (Finset.mem_univ i)

/-- A credit that keeps the total in a word does not overflow. -/
theorem credit_lt {balance : ι → BitVec w} {amount : Nat}
    (h : total balance + amount < 2 ^ w) (i : ι) : (balance i).toNat + amount < 2 ^ w :=
  (Nat.add_le_add_right (toNat_le_total balance i) amount).trans_lt h

variable [DecidableEq ι]

/-- Two balances are part of the total. -/
theorem toNat_add_le_total (balance : ι → BitVec w) {i j : ι} (h : i ≠ j) :
    (balance i).toNat + (balance j).toNat ≤ total balance := by
  rw [← Finset.sum_pair (f := fun k => (balance k).toNat) h]
  exact Finset.sum_le_sum_of_subset (Finset.subset_univ _)

/-- Setting a balance exchanges the old one for the new one in the total. -/
theorem total_update (balance : ι → BitVec w) (i : ι) (value : BitVec w) :
    total (Function.update balance i value) + (balance i).toNat =
      total balance + value.toNat := by
  have hnew := Finset.add_sum_erase Finset.univ
    (fun j => (Function.update balance i value j).toNat) (Finset.mem_univ i)
  have hold := Finset.add_sum_erase Finset.univ (fun j => (balance j).toNat) (Finset.mem_univ i)
  have hrest : ∑ j ∈ Finset.univ.erase i, (Function.update balance i value j).toNat =
      ∑ j ∈ Finset.univ.erase i, (balance j).toNat := by
    refine Finset.sum_congr rfl fun j hj => ?_
    rw [Function.update_of_ne (Finset.ne_of_mem_erase hj)]
  simp only [Function.update_self] at hnew
  unfold total
  omega

/-- A covered debit lowers the total by its amount. -/
theorem total_debit {balance : ι → BitVec w} {i : ι} {value : BitVec w} {amount : Nat}
    (h : value.toNat + amount = (balance i).toNat) :
    total (Function.update balance i value) + amount = total balance := by
  have hupdate := total_update balance i value
  omega

/-- A credit that does not overflow raises the total by its amount. -/
theorem total_credit {balance : ι → BitVec w} {i : ι} {value : BitVec w} {amount : Nat}
    (h : value.toNat = (balance i).toNat + amount) :
    total (Function.update balance i value) = total balance + amount := by
  have hupdate := total_update balance i value
  omega

/-- Moving an amount between two accounts keeps the total. -/
theorem total_move {balance : ι → BitVec w} {i j : ι} {debited credited : BitVec w}
    {amount : Nat} (hij : i ≠ j) (hd : debited.toNat + amount = (balance i).toNat)
    (hc : credited.toNat = (balance j).toNat + amount) :
    total (Function.update (Function.update balance i debited) j credited) = total balance := by
  have hdebit := total_debit hd
  have hcredited : credited.toNat = (Function.update balance i debited j).toNat + amount := by
    rw [Function.update_of_ne hij.symm, hc]
  have hcredit := total_credit hcredited
  omega

/-- The balances after a move of an amount, which stay where the amount is not covered or the
credit overflows. -/
def move (balance : ι → BitVec w) (i j : ι) (amount : BitVec w) : ι → BitVec w :=
  if amount ≤ balance i ∧ (i = j ∨ (balance j).toNat + amount.toNat < 2 ^ w) then
    if i = j then balance
    else Function.update (Function.update balance i (balance i - amount)) j (balance j + amount)
  else balance

/-- A move keeps the total. -/
theorem total_move_eq (balance : ι → BitVec w) (i j : ι) (amount : BitVec w) :
    total (move balance i j amount) = total balance := by
  unfold move
  split
  · rename_i hcovered
    split
    · rfl
    · rename_i hij
      refine total_move hij ?_ (BitVec.toNat_add_of_lt (hcovered.2.resolve_left hij))
      rw [BitVec.toNat_sub_of_le hcovered.1]
      exact Nat.sub_add_cancel hcovered.1
  · rfl

end Ledger
