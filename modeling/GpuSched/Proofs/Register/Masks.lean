import GpuSched.Scheduler.State
import Mathlib.Data.Nat.Bitwise

/-!
# Masks of units

A mask of units is known by the numbers of its set bits. The mask that is made of a list of numbers
has just these bits, and a test of a mask finds just its bits.
-/
namespace GpuSched

namespace Simulation

/-- The word of one bit is a power of two. -/
theorem toNat_bit {bit : Nat} (inWord : bit < 32) :
    ((1 : UInt32) <<< UInt32.ofNat bit).toNat = 2 ^ bit := by
  have power : 2 ^ bit < 2 ^ 32 := Nat.pow_lt_pow_right (by decide) inWord
  have small : bit % 2 ^ 32 = bit := Nat.mod_eq_of_lt (by omega)
  rw [UInt32.toNat_shiftLeft, UInt32.toNat_ofNat', small, Nat.mod_eq_of_lt inWord]
  rw [show (1 : UInt32).toNat = 1 from rfl, Nat.one_shiftLeft, Nat.mod_eq_of_lt power]

/-- A bit of a word is a bit of its value. -/
theorem and_bit_ne_zero (word : UInt32) {bit : Nat} (inWord : bit < 32) :
    (word &&& ((1 : UInt32) <<< UInt32.ofNat bit) != 0) = word.toNat.testBit bit := by
  have masked : (word &&& ((1 : UInt32) <<< UInt32.ofNat bit)).toNat =
      (word.toNat.testBit bit).toNat * 2 ^ bit := by
    rw [UInt32.toNat_and, toNat_bit inWord, Nat.and_two_pow]
  rw [Bool.eq_iff_iff, bne_iff_ne, ne_eq, ← UInt32.toNat_inj, masked]
  cases word.toNat.testBit bit with
  | false => simp
  | true => simp

/-- The listed bits of a word are those of its value. -/
theorem mem_setBits {word : UInt32} {bit : Nat} :
    bit ∈ setBits word ↔ bit < 32 ∧ word.toNat.testBit bit = true := by
  rw [setBits, List.mem_filter, List.mem_range]
  constructor
  · rintro ⟨inWord, set⟩
    exact ⟨inWord, by rwa [and_bit_ne_zero word inWord] at set⟩
  · rintro ⟨inWord, set⟩
    exact ⟨inWord, by rwa [and_bit_ne_zero word inWord]⟩

/-- A word without bits has none listed. -/
theorem setBits_zero : setBits 0 = [] := by
  rw [List.eq_nil_iff_forall_not_mem]
  intro bit mem
  have set := (mem_setBits.mp mem).2
  simp at set

/-- A word has no bit past its end. -/
theorem lt_of_testBit {word : UInt32} {bit : Nat} (set : word.toNat.testBit bit = true) :
    bit < 32 := by
  by_contra past
  have small : word.toNat < 2 ^ bit :=
    word.toNat_lt.trans_le (Nat.pow_le_pow_right (by decide) (by omega))
  rw [Nat.testBit_lt_two_pow small] at set
  cases set

/-- All bits of a word are listed. -/
theorem mem_setBits_iff_testBit {word : UInt32} {bit : Nat} :
    bit ∈ setBits word ↔ word.toNat.testBit bit = true :=
  mem_setBits.trans ⟨And.right, fun set => ⟨lt_of_testBit set, set⟩⟩

/-- A word that is not zero has a bit listed. -/
theorem exists_mem_setBits {word : UInt32} (nonzero : word ≠ 0) : ∃ bit, bit ∈ setBits word := by
  have positive : word.toNat ≠ 0 := by
    rwa [ne_eq, ← UInt32.toNat_inj] at nonzero
  obtain ⟨bit, set⟩ := Nat.exists_testBit_of_ne_zero positive
  exact ⟨bit, mem_setBits_iff_testBit.mpr set⟩

/-- A word can be told from its bits. -/
theorem eq_of_setBits {one two : UInt32} (same : ∀ bit, bit ∈ setBits one ↔ bit ∈ setBits two) :
    one = two := by
  refine UInt32.toNat_inj.mp (Nat.eq_of_testBit_eq fun bit => Bool.eq_iff_iff.mpr ?_)
  rw [← mem_setBits_iff_testBit, ← mem_setBits_iff_testBit]
  exact same bit

/-- The bits of two words together. -/
theorem mem_setBits_or {one two : UInt32} {bit : Nat} :
    bit ∈ setBits (one ||| two) ↔ bit ∈ setBits one ∨ bit ∈ setBits two := by
  simp only [mem_setBits, UInt32.toNat_or, Nat.testBit_or, Bool.or_eq_true]
  tauto

/-- The bits of a word that another one does not have. -/
theorem mem_setBits_and_not {one two : UInt32} {bit : Nat} :
    bit ∈ setBits (one &&& ~~~two) ↔ bit ∈ setBits one ∧ bit ∉ setBits two := by
  simp only [mem_setBits, ← UInt32.toNat_toBitVec, BitVec.testBit_toNat, UInt32.toBitVec_and,
    UInt32.toBitVec_not, BitVec.getLsbD_and, BitVec.getLsbD_not, Bool.and_eq_true,
    decide_eq_true_iff, Bool.not_eq_true']
  grind

end Simulation

namespace Scheduler

open Simulation

/-- A mask is tested for a bit that it can have. -/
theorem hasBit_eq (mask : UInt32) {index : Nat} (inWord : index < 32) :
    hasBit mask index = .ok (decide (index ∈ setBits mask)) := by
  have bit : (mask &&& ((1 : UInt32) <<< UInt32.ofNat index) != 0) =
      decide (index ∈ setBits mask) := by
    rw [and_bit_ne_zero mask inWord, Bool.eq_iff_iff, decide_eq_true_iff, mem_setBits]
    simp [inWord]
  unfold hasBit
  rw [Checked.bit32_of_lt inWord, ← bit]
  rfl

/-- Bits that fit are added to a mask. -/
theorem foldlM_bits {indices : List Nat} (fits : ∀ index ∈ indices, index < 32) (first : UInt32) :
    ∃ mask, indices.foldlM (fun mask index => do
        return mask ||| (← Checked.bit32 index)) first = (.ok mask : Except Failure UInt32) ∧
      ∀ bit, bit ∈ setBits mask ↔ bit ∈ setBits first ∨ bit ∈ indices := by
  induction indices generalizing first with
  | nil => exact ⟨first, rfl, by simp⟩
  | cons index rest ih =>
    have inWord := fits index List.mem_cons_self
    obtain ⟨mask, folds, bits⟩ := ih (fun other mem => fits other (List.mem_cons_of_mem _ mem))
      (first ||| ((1 : UInt32) <<< UInt32.ofNat index))
    refine ⟨mask, ?_, fun bit => ?_⟩
    · rw [List.foldlM_cons, Checked.bit32_of_lt inWord]
      exact folds
    · rw [bits, mem_setBits, mem_setBits, UInt32.toNat_or, Nat.testBit_or, toNat_bit inWord,
        Nat.testBit_two_pow, List.mem_cons]
      constructor
      · rintro (⟨small, set⟩ | later)
        · rw [Bool.or_eq_true, decide_eq_true_iff] at set
          rcases set with old | new
          · exact .inl ⟨small, old⟩
          · exact .inr (.inl new.symm)
        · exact .inr (.inr later)
      · rintro (⟨small, set⟩ | rfl | later)
        · exact .inl ⟨small, by rw [set]; rfl⟩
        · exact .inl ⟨inWord, by simp⟩
        · exact .inr later

/-- The mask of numbers that fit has just their bits. -/
theorem maskOf_eq {indices : List Nat} (fits : ∀ index ∈ indices, index < 32) :
    ∃ mask, maskOf indices = .ok mask ∧ ∀ bit, bit ∈ setBits mask ↔ bit ∈ indices := by
  obtain ⟨mask, folds, bits⟩ := foldlM_bits fits 0
  refine ⟨mask, folds, fun bit => ?_⟩
  rw [bits, setBits_zero]
  simp

end Scheduler

end GpuSched
