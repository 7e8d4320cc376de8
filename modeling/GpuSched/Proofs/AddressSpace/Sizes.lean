import GpuSched.Proofs.AddressSpace.Pages
import GpuSched.Proofs.Buddy.Sizes
import GpuSched.Proofs.Buddy.Totals

/-!
# Sizes that are out of bounds

Whatever numbers an address space is asked for with, it is made or refused, and whatever is asked of
it, a reservation is granted or refused, with few exceptions in which a sum or a product leaves its
word before a check could refuse it: the length of a directory entry, the base rounded up to small
pages, a reservation rounded up to its pages, and a total of bytes. The kernel's part never is one.
-/
namespace GpuSched

open Buddy (Allocator Space SpaceRequest)
open Operation

/-- The numbers of a request make up a layout, but a directory entry is too long for a word, or the
base is too near the end of the addresses to be rounded up to small pages. -/
structure AddressSpaceRequest.Overshoots (request : AddressSpaceRequest) : Prop
    extends request.Regular where
  overshoots : Checked.limit64 ≤ request.bigPage * AddressSpace.pagesPerDirectory ∨
    request.kernelBase < Checked.limit64 ∧ Checked.limit64 ≤ request.base + request.smallPage

namespace AddressSpace

section Making

variable {request : AddressSpaceRequest}

/-- The base of the part for users cannot be rounded up just when the part does not wrap and the
base is too near the end of the addresses. -/
theorem user_overshoots_iff (regular : request.Regular) :
    (regionRequest request .user).Overshoots ↔
      request.kernelBase < Checked.limit64 ∧
        Checked.limit64 ≤ request.base + request.smallPage := by
  constructor
  · exact fun overshoots => ⟨overshoots.fits, overshoots.overshoots⟩
  · rintro ⟨fits, overshoots⟩
    have shorter := regular.shorter
    exact ⟨regular.small, Nat.sub_ne_zero_of_lt shorter, fits, nofun, overshoots⟩

/-- The part for the kernel has room for a big page, so its base can be rounded up to small ones. -/
theorem not_kernel_overshoots (regular : request.Regular) :
    ¬ (regionRequest request .kernel).Overshoots := by
  intro overshoots
  have sum : Checked.limit64 ≤ request.kernelBase + request.smallPage := overshoots.overshoots
  have fits : request.kernelBase + request.kernelLength < Checked.limit64 := overshoots.fits
  have page := Nat.le_of_dvd (Nat.pos_of_ne_zero regular.kernel) regular.pages
  have sizes := regular.sizes
  omega

/-- An address space is made from a request, or the request is refused, unless a directory entry or
the base leaves its word, where both regions have fewer units than half the handles. -/
theorem makes_create (few : ∀ region space,
      Space.create (regionRequest request region) = .ok space → space.units < 2 ^ 31) :
    Makes request.Overshoots (create request) := by
  rcases create_cases request with ⟨irregular, fault, refused⟩ | ⟨regular, same⟩
  · rw [refused]
    exact .refused fun overshoots => irregular overshoots.toRegular
  rw [same]
  unfold layOut Checked.mul64 Checked.add64
  by_cases product : request.bigPage * pagesPerDirectory < Checked.limit64
  on_goal 2 =>
    unfold Checked.fit
    rw [if_neg product]
    exact .stopped ⟨regular, .inl (Nat.le_of_not_lt product)⟩
  rw [Checked.fit_of_lt product]
  have user_made := Allocator.makes_create (few .user)
  have kernel_made := Allocator.makes_create (few .kernel)
  have goes_on (user : ¬ (regionRequest request .user).Overshoots) : ¬ request.Overshoots := by
    rintro ⟨-, large | near⟩
    · exact Nat.not_lt.mpr large product
    · exact user ((user_overshoots_iff regular).mpr near)
  simp only [bind, Except.bind]
  cases user : Allocator.create (regionRequest request .user) with
  | error failure =>
    rw [user] at user_made
    cases user_made with
    | refused user_goes_on => exact .refused (goes_on user_goes_on)
    | stopped stop => exact .stopped ⟨regular, .inr ((user_overshoots_iff regular).mp stop)⟩
  | ok user_allocator =>
    rw [user] at user_made
    obtain ⟨user_goes_on⟩ := user_made
    have fits : request.base + (request.length - request.kernelLength) < Checked.limit64 :=
      (Space.of_create_eq_ok (Buddy.Allocator.tiled_create user).2.2.2).2.1
    rw [Checked.fit_of_lt fits]
    dsimp only
    cases kernel : Allocator.create (regionRequest request .kernel) with
    | error failure =>
      rw [kernel] at kernel_made
      cases kernel_made with
      | refused => exact .refused (goes_on user_goes_on)
      | stopped stop => exact absurd stop (not_kernel_overshoots regular)
    | ok kernel_allocator => exact .made (goes_on user_goes_on)

end Making

section Runs

variable {request : AddressSpaceRequest} {start space : AddressSpace} {live : List Lease}
  {calls : List Call}

/-- The bytes of a reservation make a total of its region too large for a word. -/
def Overspends (space : AddressSpace) (asked : ReservationRequest) : Prop :=
  (space.allocator asked.region).Overflows (asked.call (space.paged asked)).asked
    ((asked.call (space.paged asked)).given (space.allocator asked.region).space)

/-- After every run a reservation is granted or refused, unless rounding it up to its pages or a
total of bytes leaves the word. -/
theorem reserve_of_carryOut (few : ∀ region space,
      Space.create (regionRequest request region) = .ok space → space.units < 2 ^ 31)
    (created : create request = .ok start)
    (run : start.carryOut [] calls = some (space, live)) (asked : ReservationRequest) :
    (reserve asked).Yields space
      (fun _ _ => max asked.len 1 + space.pageSize asked < Checked.limit64 ∧
        ¬ space.Overspends asked)
      (fun failure _ =>
        max asked.len 1 + space.pageSize asked < Checked.limit64 ∧
          (∃ error, failure = .refused error) ∨
        failure = .aborted .overflow ∧
          (Checked.limit64 ≤ max asked.len 1 + space.pageSize asked ∨ space.Overspends asked)) := by
  have leased := (leased_create created).carryOut run
  obtain ⟨power, -⟩ := pageSize_of_regular (regular_of_create created).1 asked
  have pages := pageSize_of_carryOut created run asked
  obtain ⟨grants, allotted, -⟩ := leased.backs asked.region
  refine yields_reserve_of (pages ▸ power) (fun long => .inr ⟨rfl, .inl long⟩)
    (fun short _ _ _ => .inl ⟨short, _, rfl⟩) fun short _ => ?_
  refine (allotted.ready.sums _).mono (fun _ _ fits => ⟨short, fits⟩) ?_
  rintro failure _ (refused | ⟨-, crowded⟩ | ⟨stopped, large⟩)
  · exact .inl ⟨short, refused⟩
  · have handles : Buddy.Arena.capacity = 2 * 2 ^ 31 - 1 := by decide
    have units := few _ _ allotted.ready.kept.space
    omega
  · exact .inr ⟨stopped, .inr large⟩

/-- Allocators and address spaces are made from a request, or the request is refused as a
configuration, unless one of a few sums leaves its word; there is no block in a range where rounding
up does. In every run a reservation is granted or refused, unless rounding it up or a total of bytes
leaves the word. All this in spaces that have fewer units than half the handles. -/
theorem made_or_refused (flat : SpaceRequest) (request : AddressSpaceRequest) :
    ((∀ space, Space.create flat = .ok space → space.units < 2 ^ 31) →
      Makes flat.Overshoots (Allocator.create flat) ∧
      (flat.Overshoots → ∀ index, flat.base ≤ index * flat.blockSize →
        flat.base + flat.length < (index + 1) * flat.blockSize)) ∧
    ((∀ region space,
        Space.create (regionRequest request region) = .ok space → space.units < 2 ^ 31) →
      Makes request.Overshoots (create request) ∧
      ∀ start calls space live asked, create request = .ok start →
        start.carryOut [] calls = some (space, live) →
        (reserve asked).Yields space
          (fun _ _ => max asked.len 1 + space.pageSize asked < Checked.limit64 ∧
            ¬ space.Overspends asked)
          (fun failure _ =>
            max asked.len 1 + space.pageSize asked < Checked.limit64 ∧
              (∃ error, failure = .refused error) ∨
            failure = .aborted .overflow ∧
              (Checked.limit64 ≤ max asked.len 1 + space.pageSize asked ∨
                space.Overspends asked))) := by
  refine ⟨fun few => ⟨Allocator.makes_create few, fun overshoots => overshoots.no_block⟩,
    fun few => ⟨makes_create few, ?_⟩⟩
  exact fun start calls space live asked created run => reserve_of_carryOut few created run asked

/-- In a layout of four big pages there is no sum to leave its word when it is made, and half of all
addresses can be asked for: the request is refused. -/
theorem made_or_refused_of_half : ∃ start space live after,
    Allocator.create { name := "heap", base := 0x1000, length := 0x8000, blockSize := 0x1000 } ≠
      .error (.aborted .overflow) ∧
    create { id := 1, base := 0x10000, length := 0x40000, kernelLength := 0x10000,
             smallPage := 0x1000, bigPage := 0x10000 } = .ok start ∧
    start.carryOut [] [.reserve { len := 5000 }] = some (space, live) ∧
    reserve { len := 0x8000000000000000 } space =
      (.error (.refused (.tooLarge 0x8000000000000000 51 5)), after) ∧
    0x8000000000000000 + space.smallPage < Checked.limit64 := by
  let flat : SpaceRequest :=
    { name := "heap", base := 0x1000, length := 0x8000, blockSize := 0x1000 }
  let request : AddressSpaceRequest :=
    { id := 1, base := 0x10000, length := 0x40000, kernelLength := 0x10000, smallPage := 0x1000,
      bigPage := 0x10000 }
  have few_flat : ∀ space, Space.create flat = .ok space → space.units < 2 ^ 31 :=
    fun space described => Space.units_lt described (by decide)
  have few : ∀ region space,
      Space.create (regionRequest request region) = .ok space → space.units < 2 ^ 31 :=
    fun region space described => Space.units_lt described (by cases region <;> decide)
  have outcome : ((create request).toOption.bind fun start =>
      (start.carryOut [] [.reserve { len := 5000 }]).map fun reached =>
        (reserve { len := 0x8000000000000000 } reached.1).1) =
      some (.error (.refused (.tooLarge 0x8000000000000000 51 5))) := by decide +kernel
  obtain ⟨start, created, ran⟩ := Option.bind_eq_some_iff.mp outcome
  obtain ⟨⟨space, live⟩, run, answer⟩ := Option.map_eq_some_iff.mp ran
  have created := eq_ok_of_toOption created
  have refused : reserve { len := 0x8000000000000000 } space = (.error _, _) := Prod.ext answer rfl
  obtain ⟨making_flat, making⟩ := made_or_refused flat request
  obtain ⟨flat_made, -⟩ := making_flat few_flat
  have ends := (making few).2 start _ space live { len := 0x8000000000000000 } created run
  refine ⟨start, space, live, _, fun stopped => ?_, created, run, refused, ?_⟩
  · change Allocator.create flat = _ at stopped
    rw [stopped] at flat_made
    cases flat_made with
    | stopped stop => exact absurd stop.overshoots (by decide)
  · rcases ends.of_error refused with ⟨short, -⟩ | ⟨stopped, -⟩
    · exact short
    · cases stopped

/-- Numbers that should be refused can stop the making of an allocator, where the base is rounded up
to blocks, and of an address space, where a directory entry is too long; a reservation of all
addresses is stopped where it is rounded up to pages. -/
theorem stopped_by_rounding :
    Allocator.create { name := "heap", base := 0xfffffffffffffff0, length := 0x8,
                       blockSize := 0x1000 } = .error (.aborted .overflow) ∧
    create { id := 1, base := 0, length := 0x80000000000000, kernelLength := 0x40000000000000,
             smallPage := 0x4000000000000, bigPage := 0x40000000000000 } =
      .error (.aborted .overflow) ∧
    ∃ start, create { id := 1, base := 0x10000, length := 0x40000, kernelLength := 0x10000,
                      smallPage := 0x1000, bigPage := 0x10000 } = .ok start ∧
      (reserve { len := 0xffffffffffffffff } start).1 = .error (.aborted .overflow) := by
  refine ⟨rfl, rfl, ?_⟩
  have outcome : ((create
      { id := 1, base := 0x10000, length := 0x40000, kernelLength := 0x10000, smallPage := 0x1000,
        bigPage := 0x10000 }).toOption.map fun start =>
        (reserve { len := 0xffffffffffffffff } start).1) =
      some (.error (.aborted .overflow)) := by decide +kernel
  obtain ⟨start, created, stopped⟩ := Option.map_eq_some_iff.mp outcome
  exact ⟨start, eq_ok_of_toOption created, stopped⟩

end Runs

end AddressSpace

end GpuSched
