import GpuSched.Alignment
import Mathlib.Algebra.Order.Floor.Div

/-!
# Rounding to powers of two

Rounding by masks in words is rounding of numbers: up it gives the least multiple that is not below
the value, and only the sum that it starts with can leave the word; down it cannot fail, and neither
can the test for a multiple.
-/
namespace GpuSched.Alignment

/-- The least multiple of a positive number that is not below a value. -/
def roundUp (value align : Nat) : Nat := align * (value ⌈/⌉ align)

section Multiples

variable {value align other shift : Nat}

/-- What is rounded up is a multiple. -/
theorem dvd_roundUp (value align : Nat) : align ∣ roundUp value align := Nat.dvd_mul_right ..

/-- Rounding up is below just the multiples that the value is below. -/
theorem roundUp_le_iff (positive : 0 < align) (multiple : align ∣ other) :
    roundUp value align ≤ other ↔ value ≤ other := by
  obtain ⟨factor, rfl⟩ := multiple
  unfold roundUp
  rw [Nat.mul_le_mul_left_iff positive, ceilDiv_le_iff_le_mul positive]

/-- Rounding up does not go below the value. -/
theorem le_roundUp (positive : 0 < align) (value : Nat) : value ≤ roundUp value align :=
  (roundUp_le_iff positive (dvd_roundUp value align)).mp (Nat.le_refl _)

/-- A multiple is rounded to itself. -/
theorem roundUp_eq (positive : 0 < align) (multiple : align ∣ value) :
    roundUp value align = value :=
  Nat.le_antisymm ((roundUp_le_iff positive multiple).mpr (Nat.le_refl _))
    (le_roundUp positive value)

/-- A multiple that is added is added to what is rounded up. -/
theorem roundUp_add (positive : 0 < align) (multiple : align ∣ shift) :
    roundUp (shift + value) align = shift + roundUp value align := by
  apply Nat.le_antisymm
  · apply (roundUp_le_iff positive (Nat.dvd_add multiple (dvd_roundUp value align))).mpr
    exact Nat.add_le_add_left (le_roundUp positive value) shift
  · have above := le_roundUp positive (shift + value)
    have rest : align ∣ roundUp (shift + value) align - shift :=
      Nat.dvd_sub (dvd_roundUp _ _) multiple
    have bound := (roundUp_le_iff positive rest).mpr (show value ≤ _ by omega)
    omega

end Multiples

section Words

variable {align : Nat}

/-- A power of two is positive. -/
theorem pos_of_isPowerOfTwo (power : isPowerOfTwo align = true) : 0 < align := by
  obtain ⟨exponent, rfl⟩ := isPowerOfTwo_iff.mp power
  exact twoPow_pos exponent

/-- The smaller of two powers of two divides the larger one. -/
theorem dvd_of_isPowerOfTwo {other : Nat} (power : isPowerOfTwo align = true)
    (also_power : isPowerOfTwo other = true) (le : align ≤ other) : align ∣ other := by
  obtain ⟨exponent, rfl⟩ := isPowerOfTwo_iff.mp power
  obtain ⟨exponent', rfl⟩ := isPowerOfTwo_iff.mp also_power
  exact twoPow_dvd_twoPow (le_of_twoPow_le le)

/-- Rounding up in words fails just when the sum with the alignment leaves the word. -/
theorem alignUp_eq (power : isPowerOfTwo align = true) (value : Nat) :
    alignUp value align =
      if value + align < Checked.limit64 then .ok (roundUp value align) else Checked.overflow := by
  have positive := pos_of_isPowerOfTwo power
  unfold alignUp Checked.add64 Checked.fit
  split
  · obtain ⟨exponent, rfl⟩ := isPowerOfTwo_iff.mp power
    show (do
      let raised ← Checked.sub (value + twoPow exponent) 1
      return clear raised (← Checked.sub (twoPow exponent) 1)) = _
    rw [Checked.sub_of_le (by omega), Checked.sub_of_le positive]
    show Except.ok (clear (value + twoPow exponent - 1) (twoPow exponent - 1)) = _
    rw [clear_twoPow, Nat.mul_comm]
    rfl
  · rfl

/-- What rounding up in words answers. -/
theorem eq_of_alignUp {value result : Nat} (power : isPowerOfTwo align = true)
    (run : alignUp value align = .ok result) : result = roundUp value align := by
  rw [alignUp_eq power] at run
  split at run
  · exact (Except.ok.inj run).symm
  · cases run

/-- Rounding down in words gives the greatest multiple that is not above the value. -/
theorem alignDown_eq (power : isPowerOfTwo align = true) (value : Nat) :
    alignDown value align = .ok (value / align * align) := by
  have positive := pos_of_isPowerOfTwo power
  obtain ⟨exponent, rfl⟩ := isPowerOfTwo_iff.mp power
  unfold alignDown
  rw [Checked.sub_of_le positive, ← clear_twoPow]
  rfl

/-- The test for a multiple answers. -/
theorem isAligned_eq (power : isPowerOfTwo align = true) (value : Nat) :
    isAligned value align = .ok (decide (align ∣ value)) := by
  have positive := pos_of_isPowerOfTwo power
  obtain ⟨exponent, rfl⟩ := isPowerOfTwo_iff.mp power
  unfold isAligned
  rw [Checked.sub_of_le positive]
  show Except.ok (value &&& (twoPow exponent - 1) == 0) = _
  have rest : value &&& (twoPow exponent - 1) = value % twoPow exponent := by
    simp only [twoPow, Nat.pow_eq]
    exact Nat.and_two_pow_sub_one_eq_mod value exponent
  rw [rest]
  apply congrArg Except.ok
  rw [Bool.eq_iff_iff, beq_iff_eq, decide_eq_true_eq, Nat.dvd_iff_mod_eq_zero]

end Words

end GpuSched.Alignment
