import GpuSched.Proofs.Buddy.Teardown

/-!
# Sizes of a space that are out of bounds

An allocator is made from a request, or the request is refused as a configuration, whatever its
numbers are, with one exception: where the base is so close to the end of the addresses that
rounding it up to blocks leaves the word, the making is stopped. There is no block in such a
range.
-/
namespace GpuSched

/-- How something is made from a request, or not: it is refused as a configuration, and stopped just
when a sum leaves its word. -/
inductive Makes {α : Type} (stops : Prop) : Except Failure α → Prop
  | made {value : α} (goes_on : ¬ stops) : Makes stops (.ok value)
  | refused {message : String} (goes_on : ¬ stops) :
      Makes stops (.error (.refused (.invalidConfig message)))
  | stopped (stop : stops) : Makes stops (.error (.aborted .overflow))

namespace Buddy

open Operation

/-- The numbers of a request pass the checks that come before rounding, and its base cannot be
rounded up to blocks. -/
structure SpaceRequest.Overshoots (request : SpaceRequest) : Prop where
  power : Alignment.isPowerOfTwo request.blockSize = true
  nonempty : request.length ≠ 0
  fits : request.base + request.length < Checked.limit64
  capped : ∀ order, request.maxOrder = some order →
    order ≤ Space.orderLimit - request.blockSize.log2
  overshoots : Checked.limit64 ≤ request.base + request.blockSize

section Making

variable {request : SpaceRequest}

/-- A range whose base cannot be rounded up to blocks has no block in it. -/
theorem SpaceRequest.Overshoots.no_block (overshoots : request.Overshoots) (index : Nat)
    (after : request.base ≤ index * request.blockSize) :
    request.base + request.length < (index + 1) * request.blockSize := by
  have fits := overshoots.fits
  have sum := overshoots.overshoots
  rw [Nat.succ_mul]
  omega

/-- A space is described by a request, or the request is refused, unless its base cannot be rounded
up. -/
theorem Space.makes_create (request : SpaceRequest) :
    Makes request.Overshoots (Space.create request) := by
  unfold Space.create Space.refusing
  simp only [bind, Except.bind]
  split
  · rename_i odd
    refine .refused fun overshoots => ?_
    simp [overshoots.power] at odd
  rename_i power
  have power : Alignment.isPowerOfTwo request.blockSize = true := by simpa using power
  split
  · rename_i empty
    exact .refused fun overshoots => overshoots.nonempty empty
  rename_i nonempty
  split
  · rename_i wraps
    exact .refused fun overshoots => Nat.not_lt.mpr wraps overshoots.fits
  rename_i fits
  rw [Alignment.alignUp_eq power, Alignment.alignDown_eq power]
  have sum := Nat.lt_of_not_le fits
  split
  on_goal 1 =>
    rename_i order known
    split
    · rename_i large
      exact .refused fun overshoots => Nat.not_lt.mpr (overshoots.capped order known) large
    rename_i small
    have capped : ∀ other, request.maxOrder = some other →
        other ≤ Space.orderLimit - request.blockSize.log2 := by
      rintro other same
      obtain rfl := Option.some.inj (known.symm.trans same)
      exact Nat.le_of_not_lt small
  on_goal 2 =>
    rename_i known
    have capped : ∀ other, request.maxOrder = some other →
        other ≤ Space.orderLimit - request.blockSize.log2 := fun other same =>
      (known other same).elim
  all_goals
    by_cases room : request.base + request.blockSize < Checked.limit64
    · have goes_on : ¬ request.Overshoots := fun overshoots =>
        Nat.not_lt.mpr overshoots.overshoots room
      rw [if_pos room]
      dsimp only
      split
      · exact .refused goes_on
      split
      · exact .refused goes_on
      · exact .made goes_on
    · rw [if_neg room]
      exact .stopped ⟨power, nonempty, sum, capped, Nat.le_of_not_lt room⟩

/-- A space has fewer blocks than some number if its length is less than that of so many. -/
theorem Space.units_lt {space : Space} {bound : Nat} (created : Space.create request = .ok space)
    (short : request.length < bound * request.blockSize) : space.units < bound := by
  obtain ⟨-, -, -, -, -, length, -⟩ := Space.of_create_eq_ok created
  have bytes := Space.units_mul_blockSize created
  have inside := Space.limit_sub_start_le created
  rw [Space.blockSize_eq created] at bytes
  rw [← bytes, length] at inside
  exact Nat.lt_of_mul_lt_mul_right (Nat.lt_of_le_of_lt inside short)

/-- An allocator is made from a request, or the request is refused, unless its base cannot be
rounded up, in a space that has fewer units than half the handles. -/
theorem Allocator.makes_create
    (few : ∀ space, Space.create request = .ok space → space.units < 2 ^ 31) :
    Makes request.Overshoots (Allocator.create request) := by
  have described := Space.makes_create request
  cases outcome : Space.create request with
  | error failure =>
    rw [outcome] at described
    have fails : Allocator.create request = .error failure := by
      unfold Allocator.create
      rw [outcome]
      rfl
    rw [fails]
    cases described with
    | refused goes_on => exact .refused goes_on
    | stopped stop => exact .stopped stop
  | ok space =>
    rw [outcome] at described
    obtain ⟨goes_on⟩ := described
    have handles : Arena.capacity = 2 * 2 ^ 31 - 1 := by decide
    have room := few space outcome
    obtain ⟨start, created⟩ := Allocator.exists_create outcome (by omega)
    rw [created]
    exact .made goes_on

end Making

end Buddy

end GpuSched
