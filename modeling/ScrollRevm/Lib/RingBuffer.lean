import Mathlib

/-!
# Ring buffers

Items that are numbered from some start on are written one after the other into cells,
where the cells of nearby items differ. A cell keeps its item until the ring comes round
to it again.
-/

namespace RingBuffer

variable {κ α : Type} {slot : Nat → κ} {size : Nat}

/-- The cells of fewer than `size + 1` successive items differ. -/
def Separates (slot : Nat → κ) (size : Nat) : Prop := ∀ i j, i < j → j < i + size → slot i ≠ slot j

theorem Separates.inj (h : Separates slot size) {i j : Nat} (hij : i < j + size)
    (hji : j < i + size) (heq : slot i = slot j) : i = j := by
  rcases Nat.lt_trichotomy i j with hlt | heq' | hlt
  · exact absurd heq (h i j hlt hji)
  · exact heq'
  · exact absurd heq.symm (h j i hlt hij)

/-- Cells numbered by remainders differ below the divisor. -/
theorem separates_of_mod (hmod : ∀ i j, slot i = slot j → i % size = j % size) :
    Separates slot size := by
  intro i j hlt hj heq
  have hmod' := hmod i j heq
  have hdvd : size ∣ j - i := (Nat.modEq_iff_dvd' hlt.le).mp hmod'
  have hle := Nat.le_of_dvd (by omega) hdvd
  omega

variable [DecidableEq κ]

/-- The cells once the items `start, …, n - 1` are written. -/
def written (slot : Nat → κ) (item : Nat → α) (start : Nat) (initial : κ → α) : Nat → κ → α
  | 0 => initial
  | n + 1 =>
    if start ≤ n then Function.update (written slot item start initial n) (slot n) (item n)
    else written slot item start initial n

variable {item : Nat → α} {start : Nat} {initial : κ → α}

/-- Nothing is written before the start. -/
theorem written_of_le {n : Nat} (h : n ≤ start) :
    written slot item start initial n = initial := by
  induction n with
  | zero => rfl
  | succ n ih =>
    have hlt : ¬start ≤ n := by omega
    rw [written, if_neg hlt, ih (by omega)]

theorem written_succ {n : Nat} (h : start ≤ n) :
    written slot item start initial (n + 1) =
      Function.update (written slot item start initial n) (slot n) (item n) := by
  rw [written, if_pos h]

/-- A cell keeps its item while fewer than `size` later ones are written. -/
theorem written_slot (hslot : Separates slot size) {i n : Nat} (hstart : start ≤ i) (hi : i < n)
    (hn : n ≤ i + size) : written slot item start initial n (slot i) = item i := by
  induction n with
  | zero => omega
  | succ n ih =>
    rw [written_succ (by omega)]
    rcases Nat.lt_succ_iff_lt_or_eq.mp hi with hlt | rfl
    · have hne : slot i ≠ slot n := hslot i n hlt (by omega)
      rw [Function.update_of_ne hne, ih hlt (by omega)]
    · rw [Function.update_self]

end RingBuffer
