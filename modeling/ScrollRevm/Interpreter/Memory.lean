import ScrollRevm.Interpreter.Reference
import ScrollRevm.Lib.ByteMemory

/-!
# What MCOPY does to the memory

`MCOPY` grows the memory to the end of both ranges before it copies, so the copy stays within
it, and bytes that were beyond the memory are read as zeros.
-/

namespace ScrollRevm

open FixedWidth StateResult Interpreter

section Memory

variable {M J A : Type} [MemoryTr M]

/-- The bytes of the memory at an offset and after it, zero beyond its words. -/
def Interpreter.memorySlice (self : Interpreter M J) (offset len : Nat) : List U8 :=
  ByteMemory.slice (MemoryTr.byte self.frame.memory) offset len

/-- The words of a memory that holds both ranges of a copy. -/
def copiedWords (words dst src len : Nat) : Nat :=
  if len = 0 then words else max words ((max dst src + len + 31) / 32)

/-- The memory after a copy that was paid for. -/
structure Mcopied (fenv : FrameEnv) (dst src len : U256) (i i' : Interpreter M J) : Prop where
  memorySlice_dst : i'.memorySlice dst.toNat len.toNat = i.memorySlice src.toNat len.toNat
  memorySlice_of_disjoint (offset n : Nat)
    (h : offset + n ≤ dst.toNat ∨ dst.toNat + len.toNat ≤ offset) :
    i'.memorySlice offset n = i.memorySlice offset n
  words_eq : MemoryTr.words i'.frame.memory =
    copiedWords (MemoryTr.words i.frame.memory) dst.toNat src.toNat len.toNat
  gas_eq : i.machine.gas.toNat = i'.machine.gas.toNat + (fenv.mcopyCost (len.setWidth 64)).toNat +
    (fenv.memoryCost (MemoryTr.words i'.frame.memory) -
      fenv.memoryCost (MemoryTr.words i.frame.memory)).toNat

/-! ## The macros -/

variable {i i' : Interpreter M J}

omit [MemoryTr M] in
theorem Interpreter.gas_ok {cost : U64}
    (h : (gas cost : InterpreterStep M J A Unit).run i = .ok () i') :
    i.machine.gas.toNat = i'.machine.gas.toNat + cost.toNat ∧
      i'.machine.stack = i.machine.stack ∧ i'.machine.host = i.machine.host ∧
      i'.frame = i.frame := by
  unfold gas onMachine at h
  rw [run_focus] at h
  cases hrun : (recordCost cost).run i.machine with
  | error e m =>
    rw [hrun] at h
    cases h
  | ok _ m =>
    rw [hrun] at h
    cases h
    change recordCost cost i.machine = _ at hrun
    unfold recordCost at hrun
    split at hrun
    · rename_i rest hrest
      cases hrun
      have ⟨hle, hsub⟩ := checkedSub_eq_some.mp hrest
      refine ⟨?_, rfl, rfl, rfl⟩
      change _ = rest.toNat + cost.toNat
      omega
    · cases hrun

omit [MemoryTr M] in
theorem Interpreter.popn3_ok {popped : U256 × U256 × U256}
    (h : (popn3 : InterpreterStep M J A _).run i = .ok popped i') :
    i.machine.stack = popped.1 :: popped.2.1 :: popped.2.2 :: i'.machine.stack ∧
      i'.machine.gas = i.machine.gas ∧ i'.machine.host = i.machine.host ∧
      i'.frame = i.frame := by
  change popn3 i = _ at h
  unfold popn3 at h
  split at h
  · rename_i hstack
    cases h
    exact ⟨hstack, rfl, rfl, rfl⟩
  · cases h

omit [MemoryTr M] in
theorem Interpreter.asUsizeOrFail_ok {value : U256} {word : Usize}
    (h : (asUsizeOrFail value : InterpreterStep M J A Usize).run i = .ok word i') :
    word = value.setWidth 64 ∧ word.toNat = value.toNat ∧ i' = i := by
  change asUsizeOrFail value i = _ at h
  unfold asUsizeOrFail at h
  split at h
  · rename_i hlt
    cases h
    refine ⟨rfl, ?_, rfl⟩
    rw [BitVec.toNat_setWidth, Nat.mod_eq_of_lt hlt]
  · cases h

/-- Growing the memory pays for the new words and changes no byte. -/
theorem Interpreter.resizeMemory_ok [LawfulMemory M] {memoryCost : Nat → U64} {offset len : Usize}
    (hwords : MemoryTr.words i.frame.memory < 2 ^ 59)
    (hcost : i.machine.gas < memoryCost (2 ^ 59) - memoryCost (MemoryTr.words i.frame.memory))
    (h : (resizeMemory memoryCost offset len : InterpreterStep M J A Unit).run i = .ok () i') :
    offset.toNat + len.toNat < 2 ^ 64 ∧
      MemoryTr.words i'.frame.memory =
        max (MemoryTr.words i.frame.memory) ((offset.toNat + len.toNat + 31) / 32) ∧
      MemoryTr.byte i'.frame.memory = MemoryTr.byte i.frame.memory ∧
      i.machine.gas.toNat = i'.machine.gas.toNat +
        (memoryCost (MemoryTr.words i'.frame.memory) -
          memoryCost (MemoryTr.words i.frame.memory)).toNat ∧
      i'.machine.stack = i.machine.stack ∧ i'.machine.host = i.machine.host := by
  change resizeMemory memoryCost offset len i = _ at h
  have hsum : (satAdd offset len).toNat = min (2 ^ 64 - 1) (offset.toNat + len.toNat) :=
    toNat_satAdd offset len
  unfold resizeMemory at h
  dsimp only at h
  split at h
  · rename_i hgrows
    split at h
    · rename_i rest hrest
      obtain ⟨hle, hsub⟩ := checkedSub_eq_some.mp hrest
      have hlt : offset.toNat + len.toNat < 2 ^ 64 := by
        by_contra hge
        -- the sum is cut off at the last byte, and no gas pays for so many words
        have hlast : numWords (satAdd offset len) = 2 ^ 59 := by
          unfold numWords
          omega
        rw [hlast] at hle
        rw [BitVec.lt_def] at hcost
        omega
      have hnew : numWords (satAdd offset len) = (offset.toNat + len.toNat + 31) / 32 := by
        unfold numWords
        omega
      cases h
      have hresized : MemoryTr.words (MemoryTr.resize (numWords (satAdd offset len))
          i.frame.memory) = numWords (satAdd offset len) :=
        LawfulMemory.words_resize _ hgrows.le
      refine ⟨hlt, ?_, funext fun k => LawfulMemory.byte_resize _ hgrows.le k, ?_, rfl, rfl⟩
      · dsimp only
        omega
      · dsimp only
        rw [hresized]
        omega
    · cases h
  · rename_i hholds
    cases h
    have hlt : offset.toNat + len.toNat < 2 ^ 64 := by
      unfold numWords at hholds
      omega
    have hnew : numWords (satAdd offset len) = (offset.toNat + len.toNat + 31) / 32 := by
      unfold numWords
      omega
    refine ⟨hlt, by omega, rfl, ?_, rfl, rfl⟩
    rw [BitVec.sub_self]
    rfl

/-- A copy that succeeds, of whatever length. -/
theorem mcopied_of_mcopy_ok [LawfulMemory M] {fenv : FrameEnv}
    (hwords : MemoryTr.words i.frame.memory < 2 ^ 59)
    (hcost : i.machine.gas <
      fenv.memoryCost (2 ^ 59) - fenv.memoryCost (MemoryTr.words i.frame.memory))
    (h : (mcopy fenv : InterpreterStep M J A Unit).run i = .ok () i') :
    ∃ dst src len, i.machine.stack = dst :: src :: len :: i'.machine.stack ∧
      i'.machine.host = i.machine.host ∧ Mcopied fenv dst src len i i' := by
  obtain ⟨_, i₁, henabled, h₁⟩ := run_bind_eq_ok.mp h
  obtain ⟨⟨dst, src, len⟩, i₂, hpop, h₂⟩ := run_bind_eq_ok.mp h₁
  obtain ⟨len', i₃, hlen, h₃⟩ := run_bind_eq_ok.mp h₂
  obtain ⟨_, i₄, hgas, h₄⟩ := run_bind_eq_ok.mp h₃
  have hsame : i₁ = i := by
    change requireEnabled fenv .curie i = _ at henabled
    unfold requireEnabled at henabled
    split at henabled
    · cases henabled
    · cases henabled
      rfl
  subst hsame
  obtain ⟨hstack, hpopGas, hpopHost, hpopFrame⟩ := popn3_ok hpop
  obtain ⟨hlenEq, hlenNat, rfl⟩ := asUsizeOrFail_ok hlen
  obtain ⟨hcharged, hgasStack, hgasHost, hgasFrame⟩ := gas_ok hgas
  have hframe : i₄.frame = i₁.frame := hgasFrame.trans hpopFrame
  rw [hlenEq] at hcharged
  refine ⟨dst, src, len, ?_⟩
  by_cases hzero : len' = 0
  · rw [if_pos hzero] at h₄
    cases h₄
    have hnothing : len.toNat = 0 := by
      rw [← hlenNat, hzero]
      rfl
    refine ⟨by rw [hstack, hgasStack], hgasHost.trans hpopHost, ?_, fun offset n _ => ?_, ?_, ?_⟩
    · rw [hnothing]
      rfl
    · rw [memorySlice, memorySlice, hframe]
    · rw [copiedWords, if_pos hnothing, hframe]
    · rw [hframe, BitVec.sub_self, ← hpopGas, hcharged]
      rfl
  · rw [if_neg hzero] at h₄
    obtain ⟨dst', i₅, hdst, h₅⟩ := run_bind_eq_ok.mp h₄
    obtain ⟨src', i₆, hsrc, h₆⟩ := run_bind_eq_ok.mp h₅
    obtain ⟨_, i₇, hresize, h₇⟩ := run_bind_eq_ok.mp h₆
    obtain ⟨-, hdstNat, rfl⟩ := asUsizeOrFail_ok hdst
    obtain ⟨-, hsrcNat, rfl⟩ := asUsizeOrFail_ok hsrc
    cases h₇
    have hsome : len.toNat ≠ 0 := by
      rw [← hlenNat]
      exact fun hnothing => hzero (BitVec.eq_of_toNat_eq hnothing)
    have hwords' : MemoryTr.words i₆.frame.memory < 2 ^ 59 := by rwa [hframe]
    have hcost' : i₆.machine.gas <
        fenv.memoryCost (2 ^ 59) - fenv.memoryCost (MemoryTr.words i₆.frame.memory) := by
      rw [hframe]
      rw [← hpopGas] at hcost
      rw [BitVec.lt_def] at hcost ⊢
      omega
    obtain ⟨hroom, hgrown, hbytes, hpaid, hresizeStack, hresizeHost⟩ :=
      resizeMemory_ok hwords' hcost' hresize
    -- the larger offset is the one whose range ends last
    have hlast : (if dst' < src' then src' else dst').toNat = max dst.toNat src.toNat := by
      rw [← hdstNat, ← hsrcNat]
      split
      · rename_i hlt
        rw [BitVec.lt_def] at hlt
        omega
      · rename_i hge
        rw [BitVec.lt_def] at hge
        omega
    rw [hlast, hlenNat] at hroom hgrown
    have hcopied : MemoryTr.byte (MemoryTr.copy dst'.toNat src'.toNat len'.toNat
        i₇.frame.memory) =
          ByteMemory.move dst.toNat src.toNat len.toNat (MemoryTr.byte i₁.frame.memory) := by
      funext k
      have hdstEnd : dst'.toNat + len'.toNat ≤ 32 * MemoryTr.words i₇.frame.memory := by omega
      have hsrcEnd : src'.toNat + len'.toNat ≤ 32 * MemoryTr.words i₇.frame.memory := by omega
      rw [LawfulMemory.byte_copy i₇.frame.memory hdstEnd hsrcEnd k, hbytes, hframe, hdstNat,
        hsrcNat, hlenNat]
      rfl
    have hwordsEnd : MemoryTr.words (MemoryTr.copy dst'.toNat src'.toNat len'.toNat
        i₇.frame.memory) =
          copiedWords (MemoryTr.words i₁.frame.memory) dst.toNat src.toNat len.toNat := by
      rw [LawfulMemory.words_copy, copiedWords, if_neg hsome, hgrown, hframe]
    refine ⟨?_, (hresizeHost.trans hgasHost).trans hpopHost, ?_, fun offset n hdisjoint => ?_,
      hwordsEnd, ?_⟩
    · rw [hstack, ← hgasStack, ← hresizeStack]
    · rw [memorySlice, hcopied]
      exact ByteMemory.slice_move _ _ _ _
    · rw [memorySlice, hcopied]
      exact ByteMemory.slice_move_of_disjoint hdisjoint
    · dsimp only
      rw [LawfulMemory.words_copy, ← hpopGas, hcharged, hpaid, hframe]
      omega

/-- Copying nothing is paying for it, whatever the offsets are. -/
theorem mcopy_zero {fenv : FrameEnv} (hcurie : fenv.spec.isEnabledIn .curie = true)
    (i : Interpreter M J) (dst src : U256) (rest : List U256) :
    (mcopy fenv : InterpreterStep M J A Unit).run
        (i.withMachine { i.machine with stack := dst :: src :: 0 :: rest }) =
      (gas (fenv.mcopyCost 0)).run (i.withMachine { i.machine with stack := rest }) := by
  have henabled (i : Interpreter M J) :
      (requireEnabled fenv .curie : InterpreterStep M J A Unit).run i = .ok () i := by
    change requireEnabled fenv .curie i = _
    unfold requireEnabled
    rw [hcurie]
    rfl
  unfold mcopy
  rw [run_bind_of_ok (henabled _)]
  -- the three values are popped, and zero is a length
  change (gas (fenv.mcopyCost 0) >>= fun _ => pure ()).run
    (i.withMachine { i.machine with stack := rest }) = _
  rw [bind_pure_unit]

/-- **MCOPY.** A copy that succeeds leaves in the destination what the source held before it,
however the two overlap, and leaves every other byte. It pays for the copy and for the memory
up to the end of both ranges. Copying nothing is the same whatever the two offsets are. -/
theorem mcopy_ok [LawfulMemory M] (fenv : FrameEnv) (i : Interpreter M J) :
    (∀ i', MemoryTr.words i.frame.memory < 2 ^ 59 →
      i.machine.gas <
        fenv.memoryCost (2 ^ 59) - fenv.memoryCost (MemoryTr.words i.frame.memory) →
      (mcopy fenv : InterpreterStep M J A Unit).run i = .ok () i' →
      ∃ dst src len, i.machine.stack = dst :: src :: len :: i'.machine.stack ∧
        i'.machine.host = i.machine.host ∧ Mcopied fenv dst src len i i') ∧
      (fenv.spec.isEnabledIn .curie = true → ∀ (dst src dst' src' : U256) (rest : List U256),
        (mcopy fenv : InterpreterStep M J A Unit).run
            (i.withMachine { i.machine with stack := dst :: src :: 0 :: rest }) =
          (mcopy fenv).run
            (i.withMachine { i.machine with stack := dst' :: src' :: 0 :: rest })) := by
  constructor
  · intro i' hwords hcost h
    exact mcopied_of_mcopy_ok hwords hcost h
  · intro hcurie dst src dst' src' rest
    rw [mcopy_zero hcurie i dst src rest, mcopy_zero hcurie i dst' src' rest]

end Memory

section Sample

open ReferenceFrames

/-- A frame about to copy five of its bytes two bytes up; every byte is its own offset. -/
def overlapping : Interpreter ReferenceMemory Host :=
  let i := interpreter []
  { machine := { i.machine with stack := [2, 0, 5] }
    frame := { i.frame with
      memory :=
        { words := 1
          byte := fun k => if k < 32 then BitVec.ofNat 8 k else 0
          byte_of_le := fun _ h => if_neg (Nat.not_lt.mpr h) } } }

/-- The bytes 0 to 4 are read before the overlap is written, and copying nothing between
offsets beyond any memory succeeds as between zeros. -/
theorem mcopy_ok_overlapping : ∃ i',
    (mcopy (frameEnv .curie) : ReferenceFrames.Step).run overlapping = .ok () i' ∧
      i'.memorySlice 2 5 = [0, 1, 2, 3, 4] ∧ i'.memorySlice 0 2 = [0, 1] ∧
      (mcopy (frameEnv .curie) : ReferenceFrames.Step).run (overlapping.withMachine
          { overlapping.machine with stack := [.allOnes 256, .allOnes 256, 0] }) =
        (mcopy (frameEnv .curie)).run (overlapping.withMachine
          { overlapping.machine with stack := [0, 0, 0] }) := by
  obtain ⟨i', hrun⟩ : ∃ i',
      (mcopy (frameEnv .curie) : ReferenceFrames.Step).run overlapping = .ok () i' := ⟨_, rfl⟩
  obtain ⟨hcopy, hnothing⟩ := mcopy_ok (A := Unit) (frameEnv .curie) overlapping
  obtain ⟨dst, src, len, hstack, -, hcopied⟩ := hcopy i' (by decide) (by decide) hrun
  obtain ⟨rfl, hrest⟩ := List.cons_eq_cons.mp hstack
  obtain ⟨rfl, hrest'⟩ := List.cons_eq_cons.mp hrest
  obtain ⟨rfl, -⟩ := List.cons_eq_cons.mp hrest'
  exact ⟨i', hrun, hcopied.memorySlice_dst.trans (by decide),
    (hcopied.memorySlice_of_disjoint 0 2 (Or.inl (by decide))).trans (by decide),
    hnothing rfl _ _ 0 0 []⟩

end Sample

end ScrollRevm
