import Mathlib.Data.List.Range

/-!
# Moving ranges of a memory

A memory holds a value at every offset. A move writes the values of one range to another one,
as they were before it, so the ranges may overlap.
-/

namespace ByteMemory

variable {α : Type} {m m' : Nat → α} {dst src len offset n : Nat}

/-- The values at an offset and after it. -/
def slice (m : Nat → α) (offset len : Nat) : List α :=
  (List.range len).map fun i => m (offset + i)

/-- Writes the values of the range at `src` to the one at `dst`. -/
def move (dst src len : Nat) (m : Nat → α) : Nat → α := fun i =>
  if dst ≤ i ∧ i < dst + len then m (src + (i - dst)) else m i

theorem slice_congr (h : ∀ i < len, m (offset + i) = m' (offset + i)) :
    slice m offset len = slice m' offset len := by
  apply List.map_congr_left
  intro i hi
  exact h i (List.mem_range.mp hi)

/-- The range that a move writes holds what the other one held. -/
theorem slice_move (dst src len : Nat) (m : Nat → α) :
    slice (move dst src len m) dst len = slice m src len := by
  apply List.map_congr_left
  intro i hi
  have hlt := List.mem_range.mp hi
  rw [move, if_pos ⟨by omega, by omega⟩, Nat.add_sub_cancel_left]

/-- A move leaves every range beside the one it writes. -/
theorem slice_move_of_disjoint (h : offset + n ≤ dst ∨ dst + len ≤ offset) :
    slice (move dst src len m) offset n = slice m offset n := by
  apply slice_congr
  intro i hi
  exact if_neg (by omega)

end ByteMemory
