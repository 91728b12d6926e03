import Mathlib

/-!
# Machine words and hardfork identifiers

Rust's unsigned integers are bit vectors of their width, `usize` is 64 bits wide,
and an `i64` is its two's complement word. The Scroll hardforks are ordered by
their discriminants, and every one of them maps to Ethereum's Shanghai.
-/

namespace ScrollRevm

abbrev U8 := BitVec 8
abbrev U64 := BitVec 64
abbrev Usize := BitVec 64
abbrev I64 := BitVec 64
abbrev U128 := BitVec 128
abbrev U256 := BitVec 256
abbrev Address := BitVec 160
abbrev Bytes := List U8

/-- The Ethereum hardforks the crate compares with, in activation order. -/
inductive SpecId where
  | berlin | london | merge | shanghai | cancun
  deriving DecidableEq, Repr

/-- The position of a hardfork in the activation order. -/
def SpecId.toNat : SpecId → Nat
  | .berlin => 0
  | .london => 1
  | .merge => 2
  | .shanghai => 3
  | .cancun => 4

/-- `other` is active under `our`. -/
def SpecId.isEnabledIn (our other : SpecId) : Bool := decide (other.toNat ≤ our.toNat)

/-- The Scroll hardforks. -/
inductive ScrollSpecId where
  | shanghai | bernoulli | curie | darwin | euclid | feynman | galileo | tsuki | tsukiV2
  deriving DecidableEq, Repr

namespace ScrollSpecId

/-- The discriminant of a hardfork. -/
def toU8 : ScrollSpecId → Nat
  | shanghai => 1
  | bernoulli => 2
  | curie => 3
  | darwin => 4
  | euclid => 5
  | feynman => 6
  | galileo => 7
  | tsuki => 8
  | tsukiV2 => 9

/-- The hardfork with the given discriminant. -/
def tryFromU8 : Nat → Option ScrollSpecId
  | 1 => some shanghai
  | 2 => some bernoulli
  | 3 => some curie
  | 4 => some darwin
  | 5 => some euclid
  | 6 => some feynman
  | 7 => some galileo
  | 8 => some tsuki
  | 9 => some tsukiV2
  | _ => none

/-- `other` is active under `our`. -/
def isEnabledIn (our other : ScrollSpecId) : Bool := decide (other.toU8 ≤ our.toU8)

/-- The Ethereum hardfork a Scroll hardfork is based on. -/
def intoEthSpecId : ScrollSpecId → SpecId
  | shanghai | bernoulli | curie | darwin | euclid | feynman | galileo | tsuki | tsukiV2 =>
    .shanghai

theorem isEnabledIn_iff {our other : ScrollSpecId} :
    our.isEnabledIn other = true ↔ other.toU8 ≤ our.toU8 := decide_eq_true_iff

/-- A hardfork stays active under every later one. -/
theorem isEnabledIn_trans {our mid other : ScrollSpecId} (h : our.isEnabledIn mid = true)
    (hm : mid.isEnabledIn other = true) : our.isEnabledIn other = true :=
  isEnabledIn_iff.mpr ((isEnabledIn_iff.mp hm).trans (isEnabledIn_iff.mp h))

@[simp] theorem tryFromU8_toU8 (spec : ScrollSpecId) : tryFromU8 spec.toU8 = some spec := by
  cases spec <;> rfl

@[simp] theorem intoEthSpecId_eq (spec : ScrollSpecId) : spec.intoEthSpecId = .shanghai := by
  cases spec <;> rfl

end ScrollSpecId

end ScrollRevm
