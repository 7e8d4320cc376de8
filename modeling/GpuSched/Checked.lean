import GpuSched.Failure

/-!
# Checked arithmetic

Addresses and byte counts are natural numbers below `limit64`, register offsets natural numbers
below `limit32`. The operations here answer as on the natural numbers and abort when the result
does not fit. A shift checks only its amount: bits that leave the word are dropped.
-/
namespace GpuSched.Checked

/-- The number of values of a 32-bit word. -/
abbrev limit32 : Nat := 0x100000000

/-- The number of values of a 64-bit word. -/
abbrev limit64 : Nat := 0x10000000000000000

/-- The abort of every operation in this file. -/
abbrev overflow {α : Type} : Except Failure α := .error (.aborted .overflow)

/-- The value, if it lies below a limit. -/
def fit (limit value : Nat) : Except Failure Nat :=
  if value < limit then .ok value else overflow

/-- Sum of two 64-bit words. -/
def add64 (left right : Nat) : Except Failure Nat := fit limit64 (left + right)

/-- Product of two 64-bit words. -/
def mul64 (left right : Nat) : Except Failure Nat := fit limit64 (left * right)

/-- Difference of two words of one width. -/
def sub (left right : Nat) : Except Failure Nat :=
  if right ≤ left then .ok (left - right) else overflow

/-- The 32-bit word in which only bit `index` is set. -/
def bit32 (index : Nat) : Except Failure UInt32 :=
  if index < 32 then .ok ((1 : UInt32) <<< UInt32.ofNat index) else overflow

theorem fit_eq_ok_iff {limit value result : Nat} :
    fit limit value = .ok result ↔ value < limit ∧ value = result := by
  unfold fit
  split
  · simp_all
  · constructor
    · intro impossible
      cases impossible
    · rintro ⟨fits, _⟩
      contradiction

theorem fit_of_lt {limit value : Nat} (fits : value < limit) : fit limit value = .ok value := by
  simp [fit, fits]

theorem sub_of_le {left right : Nat} (le : right ≤ left) : sub left right = .ok (left - right) := by
  simp [sub, le]

theorem sub_eq_ok_iff {left right result : Nat} :
    sub left right = .ok result ↔ right ≤ left ∧ left - right = result := by
  unfold sub
  split
  · simp_all
  · constructor
    · intro impossible
      cases impossible
    · rintro ⟨le, _⟩
      contradiction

theorem bit32_of_lt {index : Nat} (lt : index < 32) :
    bit32 index = .ok ((1 : UInt32) <<< UInt32.ofNat index) := by
  simp [bit32, lt]

end GpuSched.Checked
