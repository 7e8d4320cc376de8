/-!
# Powers of two

Lengths of blocks, alignments and word sizes are powers of two. The power is a function of its
own here, with the few laws that the definitions built on it need: how it grows, that it is
positive, and how it bounds the binary logarithm.
-/
namespace GpuSched

/-- Two to the power of an exponent. -/
def twoPow (exponent : Nat) : Nat := Nat.pow 2 exponent

@[simp] theorem twoPow_zero : twoPow 0 = 1 := rfl

theorem twoPow_succ (exponent : Nat) : twoPow (exponent + 1) = 2 * twoPow exponent := by
  simp only [twoPow, Nat.pow_eq, Nat.pow_succ]
  omega

theorem twoPow_pos (exponent : Nat) : 0 < twoPow exponent := by
  induction exponent with
  | zero => decide
  | succ exponent ih =>
    rw [twoPow_succ]
    omega

theorem twoPow_add (left right : Nat) : twoPow (left + right) = twoPow left * twoPow right := by
  simp only [twoPow, Nat.pow_eq, Nat.pow_add]

theorem twoPow_le_twoPow {lower upper : Nat} (le : lower ≤ upper) :
    twoPow lower ≤ twoPow upper := by
  obtain ⟨more, rfl⟩ := Nat.exists_eq_add_of_le le
  rw [twoPow_add]
  exact Nat.le_mul_of_pos_right _ (twoPow_pos more)

theorem le_of_twoPow_le {lower upper : Nat} (le : twoPow lower ≤ twoPow upper) :
    lower ≤ upper := by
  refine Nat.le_of_not_lt fun greater => ?_
  have half : twoPow (upper + 1) = 2 * twoPow upper := twoPow_succ upper
  have more : twoPow (upper + 1) ≤ twoPow lower := twoPow_le_twoPow greater
  have positive := twoPow_pos upper
  omega

theorem log2_lt_iff {value exponent : Nat} (nonzero : value ≠ 0) :
    value.log2 < exponent ↔ value < twoPow exponent := by
  simp only [twoPow, Nat.pow_eq]
  exact Nat.log2_lt nonzero

theorem twoPow_log2_le {value : Nat} (nonzero : value ≠ 0) : twoPow value.log2 ≤ value := by
  simp only [twoPow, Nat.pow_eq]
  exact Nat.log2_self_le nonzero

theorem le_log2_iff {value exponent : Nat} (nonzero : value ≠ 0) :
    exponent ≤ value.log2 ↔ twoPow exponent ≤ value := by
  rw [← Nat.not_lt, log2_lt_iff nonzero, Nat.not_lt]

theorem twoPow_dvd_twoPow {lower upper : Nat} (le : lower ≤ upper) :
    twoPow lower ∣ twoPow upper := by
  obtain ⟨more, rfl⟩ := Nat.exists_eq_add_of_le le
  rw [twoPow_add]
  exact Nat.dvd_mul_right _ _

@[simp] theorem log2_twoPow (exponent : Nat) : (twoPow exponent).log2 = exponent := by
  simp only [twoPow, Nat.pow_eq]
  exact Nat.log2_two_pow

end GpuSched
