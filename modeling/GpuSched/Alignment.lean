import GpuSched.Checked
import GpuSched.PowerOfTwo

/-!
# Alignment and powers of two

Rounding to a multiple of a power of two, by masks, and the exponents of the powers of two at,
below and above a number. `orderFor_le_iff` characterizes the order that covers a length.
-/
namespace GpuSched.Alignment

open Checked (add64 sub)

/-- The bits of `value` outside `mask`. -/
def clear (value mask : Nat) : Nat := value ^^^ (value &&& mask)

/-- The least multiple of `align` not below `value`, when `align` is a power of two. -/
def alignUp (value align : Nat) : Except Failure Nat := do
  let raised ← sub (← add64 value align) 1
  return clear raised (← sub align 1)

/-- The greatest multiple of `align` not above `value`, when `align` is a power of two. -/
def alignDown (value align : Nat) : Except Failure Nat := do
  return clear value (← sub align 1)

/-- Whether `value` is a multiple of `align`, when `align` is a power of two. -/
def isAligned (value align : Nat) : Except Failure Bool := do
  return value &&& (← sub align 1) == 0

/-- Whether a number is a power of two. -/
def isPowerOfTwo (value : Nat) : Bool := twoPow value.log2 == value

/-- The greatest order whose power of two is at most `value`; zero has none. -/
def floorOrder (value : Nat) : Except Failure Nat :=
  if value = 0 then Checked.overflow else .ok value.log2

/-- The least order whose power of two is at least `value`. -/
def orderFor (value : Nat) : Nat :=
  if value ≤ 1 then 0 else (value - 1).log2 + 1

/-- The greatest order up to `cap` whose power of two divides `position`. -/
def alignedOrder (cap position : Nat) : Nat :=
  match cap with
  | 0 => 0
  | lower + 1 =>
      if position % twoPow (lower + 1) = 0 then lower + 1 else alignedOrder lower position

theorem clear_twoPow (value exponent : Nat) :
    clear value (twoPow exponent - 1) = value / twoPow exponent * twoPow exponent := by
  simp only [twoPow, Nat.pow_eq]
  apply Nat.eq_of_testBit_eq
  intro bit
  rw [clear, Nat.testBit_xor, Nat.testBit_and, Nat.testBit_two_pow_sub_one, Nat.mul_comm,
    Nat.testBit_two_pow_mul, Nat.testBit_div_two_pow]
  by_cases below : bit < exponent
  · have short : ¬ exponent ≤ bit := Nat.not_le.mpr below
    simp [below, short]
  · simp [below, Nat.not_lt.mp below, Nat.sub_add_cancel]

theorem isPowerOfTwo_iff {value : Nat} : isPowerOfTwo value = true ↔ ∃ k, value = twoPow k := by
  constructor
  · intro is_power
    exact ⟨value.log2, (beq_iff_eq.mp is_power).symm⟩
  · rintro ⟨k, rfl⟩
    simp [isPowerOfTwo]

theorem orderFor_le_iff {value order : Nat} : orderFor value ≤ order ↔ value ≤ twoPow order := by
  unfold orderFor
  split
  · have := twoPow_pos order
    omega
  · rw [Nat.add_one_le_iff, log2_lt_iff (by omega)]
    omega

theorem alignedOrder_le (cap position : Nat) : alignedOrder cap position ≤ cap := by
  induction cap with
  | zero => simp [alignedOrder]
  | succ lower ih =>
    unfold alignedOrder
    split <;> omega

theorem le_alignedOrder {order cap position : Nat} (capped : order ≤ cap)
    (aligned : position % twoPow order = 0) : order ≤ alignedOrder cap position := by
  induction cap with
  | zero => omega
  | succ lower ih =>
    unfold alignedOrder
    split
    · exact capped
    · rename_i unaligned
      have apart : order ≠ lower + 1 := fun same => unaligned (same ▸ aligned)
      exact ih (by omega)

theorem mod_twoPow_alignedOrder (cap position : Nat) :
    position % twoPow (alignedOrder cap position) = 0 := by
  induction cap with
  | zero => simp [alignedOrder, Nat.mod_one]
  | succ lower ih =>
    unfold alignedOrder
    split
    · assumption
    · exact ih

end GpuSched.Alignment
