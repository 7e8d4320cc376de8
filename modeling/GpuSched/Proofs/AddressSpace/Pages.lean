import GpuSched.Proofs.AddressSpace.Directories

/-!
# Whole pages

A reservation has whole pages of the size that was asked for and lies in the part of the address
space that it was asked of. A fixed one starts at a page because that is checked. Any other starts
at a page just when its region does: the blocks of a region are aligned from its start, and the part
for the kernel starts at a big page only where the whole length rounds up to one.
-/
namespace GpuSched

open Buddy (Allocator Holding Space)
open Operation

/-- What a reservation of some bytes asks of the allocator of its region. -/
def ReservationRequest.call (asked : ReservationRequest) (len : Nat) : Allocator.Request :=
  match asked.fixedAt with
  | some address => .allocateFixed address len asked.pageClass
  | none => .allocate len asked.pageClass

/-- The bytes of the pages that a reservation is asked for. -/
def AddressSpaceRequest.pageSize (request : AddressSpaceRequest) (asked : ReservationRequest) :
    Nat :=
  if asked.bigPages then request.bigPage else request.smallPage

/-- Where the part for the kernel starts. -/
def AddressSpaceRequest.kernelBase (request : AddressSpaceRequest) : Nat :=
  request.base + (request.length - request.kernelLength)

namespace AddressSpace

/-- The bytes of the pages that a reservation is asked for. -/
def pageSize (space : AddressSpace) (asked : ReservationRequest) : Nat :=
  if asked.bigPages then space.bigPage else space.smallPage

/-- The bytes of the whole pages that hold what a reservation is asked for. -/
def paged (space : AddressSpace) (asked : ReservationRequest) : Nat :=
  Alignment.roundUp (max asked.len 1) (space.pageSize asked)

section Reserving

variable {request : AddressSpaceRequest} {space start : AddressSpace} {asked : ReservationRequest}
  {live : List Lease} {calls : List Call}

/-- A reservation is stopped where rounding up leaves the word, refused where it is asked for at an
address in a page, and otherwise ends as the allocator of its region ends. -/
theorem yields_reserve_of {good : Reservation → AddressSpace → Prop}
    {bad : Failure → AddressSpace → Prop}
    (power : Alignment.isPowerOfTwo (space.pageSize asked) = true)
    (long : Checked.limit64 ≤ max asked.len 1 + space.pageSize asked →
      bad (.aborted .overflow) space)
    (crooked : max asked.len 1 + space.pageSize asked < Checked.limit64 →
      ∀ address, asked.fixedAt = some address → ¬ space.pageSize asked ∣ address →
        bad (.refused (.invalidRange address (space.paged asked))) space)
    (goes_on : max asked.len 1 + space.pageSize asked < Checked.limit64 →
      (∀ address, asked.fixedAt = some address → space.pageSize asked ∣ address) →
      (Allocator.perform (asked.call (space.paged asked))).Yields (space.allocator asked.region)
        (fun address next => good
          { address, len := space.paged asked, pageSize := space.pageSize asked,
            region := asked.region } (space.withAllocator asked.region next))
        (fun failure next => bad failure (space.withAllocator asked.region next))) :
    (reserve asked).Yields space good bad := by
  unfold reserve
  simp only [yields_bind, yields_get]
  rw [show (if asked.bigPages = true then space.bigPage else space.smallPage) =
    space.pageSize asked from rfl, Alignment.alignUp_eq power]
  split
  · rename_i fits
    rw [yields_lift_ok]
    have outcome := goes_on fits
    unfold ReservationRequest.call at outcome
    cases fixed : asked.fixedAt with
    | none =>
      rw [fixed] at outcome
      rw [yields_bind]
      unfold onRegion
      rw [yields_focus]
      exact outcome fun _ same => by cases same
    | some address =>
      rw [fixed] at outcome
      rw [yields_bind, Alignment.isAligned_eq power, yields_lift_ok]
      split
      · rename_i inside
        exact crooked fits address fixed (by simpa using inside)
      · rename_i at_page
        rw [yields_bind]
        unfold onRegion
        rw [yields_focus]
        refine outcome fun other same => ?_
        obtain rfl := Option.some.inj same
        simpa using at_page
  · rename_i h
    exact yields_lift_of (fun _ impossible => by cases impossible) fun failure same => by
      obtain rfl := Except.error.inj same
      exact long (Nat.le_of_not_lt h)

/-- Another allocator of one region leaves the small pages. -/
@[simp] theorem smallPage_withAllocator (space : AddressSpace) (region : Region)
    (allocator : Allocator) :
    (space.withAllocator region allocator).smallPage = space.smallPage := by
  cases region <;> rfl

/-- An operation on a region leaves the small pages. -/
theorem smallPage_onRegion {α : Type} (region : Region) (operation : Operation Allocator α) :
    (onRegion region operation).Yields space
      (fun _ after => after.smallPage = space.smallPage)
      (fun _ after => after.smallPage = space.smallPage) := by
  unfold onRegion
  rw [yields_focus]
  exact yields_of_forall (fun _ _ => smallPage_withAllocator ..) fun _ _ =>
    smallPage_withAllocator ..

/-- A reservation leaves the small pages. -/
theorem smallPage_reserve (asked : ReservationRequest) :
    (reserve asked).Yields space
      (fun _ after => after.smallPage = space.smallPage)
      (fun _ after => after.smallPage = space.smallPage) := by
  unfold reserve
  simp only [yields_bind, yields_get]
  refine yields_lift_of (fun len _ => ?_) fun _ _ => rfl
  split
  · rw [yields_bind]
    refine yields_lift_of (fun aligned _ => ?_) fun _ _ => rfl
    split
    · rfl
    · rw [yields_bind]
      exact smallPage_onRegion ..
  · rw [yields_bind]
    exact smallPage_onRegion ..

/-- A run leaves the small pages. -/
theorem smallPage_carryOut {held : List Lease}
    (run : start.carryOut live calls = some (space, held)) :
    space.smallPage = start.smallPage := by
  induction calls generalizing start live with
  | nil =>
    cases run
    rfl
  | cons call calls ih =>
    cases call with
    | reserve asked =>
      unfold carryOut at run
      split at run
      · rename_i answered
        exact (ih run).trans ((smallPage_reserve asked).of_ok answered)
      · rename_i refused
        exact (ih run).trans ((smallPage_reserve asked).of_error refused)
      · cases run
    | release released =>
      unfold carryOut at run
      split at run
      · rename_i answered
        exact (ih run).trans ((smallPage_onRegion ..).of_ok answered)
      · cases run

/-- In every run the pages are those that were asked for. -/
theorem pageSize_of_carryOut (created : create request = .ok start)
    (run : start.carryOut [] calls = some (space, live)) (asked : ReservationRequest) :
    space.pageSize asked = request.pageSize asked := by
  have big := ((leased_create created).carryOut run).bigPage
  obtain ⟨-, laid⟩ := regular_of_create created
  simp only [layOut, bind_eq_ok_iff, pure_eq_ok_iff] at laid
  obtain ⟨-, -, user, -, -, -, kernel, -, rfl⟩ := laid
  unfold pageSize AddressSpaceRequest.pageSize
  rw [big, smallPage_carryOut run]

/-- The pages of a regular request are powers of two, which divide the big ones. -/
theorem pageSize_of_regular (regular : request.Regular) (asked : ReservationRequest) :
    Alignment.isPowerOfTwo (request.pageSize asked) = true ∧
      request.pageSize asked ∣ request.bigPage := by
  unfold AddressSpaceRequest.pageSize
  split
  · exact ⟨regular.big, Nat.dvd_refl _⟩
  · exact ⟨regular.small, Alignment.dvd_of_isPowerOfTwo regular.small regular.big regular.sizes⟩

end Reserving

section Regions

variable {request : AddressSpaceRequest} {space : AddressSpace}

/-- A reservation lies in the part of the address space that it is of. -/
theorem Leased.part {start : AddressSpace} {live : List Lease} {lease : Lease}
    (leased : space.Leased request live) (created : create request = .ok start)
    (mem : lease ∈ live) :
    (lease.reservation.region = .user ∧ request.base ≤ lease.reservation.address ∧
      lease.reservation.address + lease.reservation.len ≤ request.kernelBase) ∨
    lease.reservation.region = .kernel ∧ request.kernelBase ≤ lease.reservation.address ∧
      lease.reservation.address + lease.reservation.len ≤ request.base + request.length := by
  obtain ⟨low, high⟩ := leased.within mem
  obtain ⟨power, -, start, limit, -⟩ :=
    Space.of_create_eq_ok (region_of_create created lease.reservation.region)
  have from_base := Nat.le_trans (Buddy.of_alignUp power start).2
    (leased.space_eq created _ ▸ low)
  have to_end := Nat.le_trans (leased.space_eq created _ ▸ high) (Buddy.of_alignDown power limit).2
  have shorter := (regular_of_create created).1.shorter
  unfold AddressSpaceRequest.kernelBase
  cases region : lease.reservation.region <;> rw [region] at from_base to_end <;>
    unfold regionRequest at from_base to_end <;> dsimp only at from_base to_end
  · exact .inl ⟨rfl, from_base, to_end⟩
  · exact .inr ⟨rfl, from_base, by omega⟩

/-- A region starts at the first small page of its part. -/
theorem start_of_create (created : create request = .ok space) (region : Region) :
    (space.allocator region).space.start =
      Alignment.roundUp (regionRequest request region).base request.smallPage := by
  obtain ⟨power, -, start, -⟩ := Space.of_create_eq_ok (region_of_create created region)
  have pages : (regionRequest request region).blockSize = request.smallPage := by
    cases region <;> rfl
  rw [pages] at power start
  exact Alignment.eq_of_alignUp power start

/-- The region for the kernel starts as far from a big page as the whole length, rounded up to small
pages, ends from one. -/
theorem start_kernel_add (created : create request = .ok space) :
    space.kernel.space.start + request.kernelLength =
      request.base + Alignment.roundUp request.length request.smallPage := by
  obtain ⟨regular, -⟩ := regular_of_create created
  have positive := Alignment.pos_of_isPowerOfTwo regular.small
  have small := Alignment.dvd_of_isPowerOfTwo regular.small regular.big regular.sizes
  have start := start_of_create created .kernel
  have shorter := regular.shorter
  have sum : request.kernelLength + (regionRequest request .kernel).base =
      request.base + request.length := by
    unfold regionRequest
    dsimp only
    omega
  calc space.kernel.space.start + request.kernelLength
      = request.kernelLength +
          Alignment.roundUp (regionRequest request .kernel).base request.smallPage := by
        rw [Nat.add_comm, ← start]
        rfl
    _ = Alignment.roundUp (request.base + request.length) request.smallPage := by
        rw [← Alignment.roundUp_add positive (Nat.dvd_trans small regular.pages), sum]
    _ = request.base + Alignment.roundUp request.length request.smallPage :=
        Alignment.roundUp_add positive (Nat.dvd_trans small regular.base)

/-- A region starts at a page, except that the one for the kernel starts at a big page just when the
whole length, rounded up to small pages, is one of big pages. -/
theorem pageSize_dvd_start_iff (created : create request = .ok space)
    (asked : ReservationRequest) :
    request.pageSize asked ∣ (space.allocator asked.region).space.start ↔
      asked.region = .user ∨ asked.bigPages = false ∨
        request.bigPage ∣ Alignment.roundUp request.length request.smallPage := by
  obtain ⟨regular, -⟩ := regular_of_create created
  have positive := Alignment.pos_of_isPowerOfTwo regular.small
  have small := Alignment.dvd_of_isPowerOfTwo regular.small regular.big regular.sizes
  have start := start_of_create created asked.region
  cases region : asked.region with
  | user =>
    rw [region] at start
    have from_base : (space.allocator .user).space.start = request.base :=
      start.trans (Alignment.roundUp_eq positive (Nat.dvd_trans small regular.base))
    rw [from_base]
    exact iff_of_true (Nat.dvd_trans (pageSize_of_regular regular asked).2 regular.base) (.inl rfl)
  | kernel =>
    unfold AddressSpaceRequest.pageSize
    cases bigPages : asked.bigPages with
    | false =>
      rw [region] at start
      rw [start]
      exact iff_of_true (Alignment.dvd_roundUp ..) (.inr (.inl rfl))
    | true =>
      have sum := start_kernel_add created
      have kernel : request.bigPage ∣ space.kernel.space.start ↔
          request.bigPage ∣ Alignment.roundUp request.length request.smallPage := by
        rw [Nat.dvd_add_iff_left regular.pages, sum, ← Nat.dvd_add_iff_right regular.base]
      simpa [allocator] using kernel

end Regions

section Addresses

/-- An ordinary range starts at a multiple of a power of two that is no longer than it just when the
space does. -/
theorem dvd_address_iff {request : Buddy.SpaceRequest} {allocator : Allocator}
    {ledger : List Holding} (ready : allocator.Ready request ledger) {len size : Nat}
    (wanted : PageClass) (power : Alignment.isPowerOfTwo size = true) (le : size ≤ len) :
    (Allocator.allocate len wanted).Yields allocator
      (fun address _ => size ∣ address ↔ size ∣ allocator.space.start) fun _ _ => True := by
  refine (ready.allocate len wanted).mono (fun address after ready_after => ?_) fun _ _ _ => trivial
  have kept := ready_after.kept
  obtain ⟨_, block, -, at_block, -, start, -, least⟩ := kept.block_of_ordinary List.mem_cons_self
  rw [Except.ok.inj (kept.space.symm.trans ready.kept.space)] at start least
  have length : Alignment.isPowerOfTwo (allocator.space.blockLength block.order) = true :=
    Alignment.isPowerOfTwo_iff.mpr ⟨_, (twoPow_add ..).symm⟩
  have divides : size ∣ allocator.space.blockLength block.order :=
    Alignment.dvd_of_isPowerOfTwo power length (Nat.le_trans le least.1)
  have offset : allocator.space.blockLength block.order ∣
      block.position * allocator.space.blockSize := by
    rw [Nat.mul_comm]
    exact Nat.mul_dvd_mul_left _
      (Nat.dvd_of_mod_eq_zero (kept.tiled.forest.fits at_block).aligned)
  rw [start]
  exact (Nat.dvd_add_iff_left (Nat.dvd_trans divides offset)).symm

variable {request : AddressSpaceRequest} {start space after : AddressSpace} {live : List Lease}
  {calls : List Call} {asked : ReservationRequest} {reservation : Reservation}

/-- A reservation that is granted is of the region and has the whole pages that were asked for. It
starts at a page if its address was asked for, and otherwise just when its region does. -/
theorem yields_reserve_pages (leased : space.Leased request live)
    (power : Alignment.isPowerOfTwo (space.pageSize asked) = true) :
    (reserve asked).Yields space
      (fun reservation _ => reservation.region = asked.region ∧
        reservation.pageSize = space.pageSize asked ∧ reservation.len = space.paged asked ∧
        (space.pageSize asked ∣ reservation.address ↔ asked.fixedAt.isSome ∨
          space.pageSize asked ∣ (space.allocator asked.region).space.start))
      fun _ _ => True := by
  refine yields_reserve_of power (fun _ => trivial) (fun _ _ _ _ => trivial) fun _ at_page => ?_
  unfold ReservationRequest.call
  cases fixed : asked.fixedAt with
  | some address =>
    refine (Allocator.yields_base ..).mono ?_ fun _ _ _ => trivial
    rintro answer _ rfl
    exact ⟨rfl, rfl, rfl, iff_of_true (at_page _ fixed) (.inl rfl)⟩
  | none =>
    obtain ⟨grants, allotted, -⟩ := leased.backs asked.region
    have above := Alignment.le_roundUp (Alignment.pos_of_isPowerOfTwo power) (max asked.len 1)
    have long : space.pageSize asked ≤ space.paged asked :=
      Nat.le_of_dvd (Nat.lt_of_lt_of_le (by omega) above) (Alignment.dvd_roundUp ..)
    refine (dvd_address_iff allotted.ready asked.pageClass power long).mono
      (fun answer _ same => ⟨rfl, rfl, rfl, ?_⟩) fun _ _ _ => trivial
    simpa using same

/-- After every run, a reservation that is granted is of the region that was asked for, has the
fewest pages that hold what was asked for, and lies in the address space, among the bytes for the
kernel just when it is a reservation of the kernel. It starts at a page if it was asked for at a
fixed address, is one for users or has small pages; big pages for the kernel start at one just when
the whole length, rounded up to small pages, is one of big pages. -/
theorem granted_in_pages (created : create request = .ok start)
    (run : start.carryOut [] calls = some (space, live))
    (granted : reserve asked space = (.ok reservation, after)) :
    reservation.region = asked.region ∧ reservation.pageSize = request.pageSize asked ∧
      (reservation.pageSize ∣ reservation.len ∧ max asked.len 1 ≤ reservation.len ∧
        ∀ other, reservation.pageSize ∣ other → max asked.len 1 ≤ other →
          reservation.len ≤ other) ∧
      (request.base ≤ reservation.address ∧
        reservation.address + reservation.len ≤ request.base + request.length) ∧
      (request.kernelBase ≤ reservation.address ↔ reservation.region = .kernel) ∧
      (reservation.region = .user →
        reservation.address + reservation.len ≤ request.kernelBase) ∧
      (reservation.pageSize ∣ reservation.address ↔
        asked.fixedAt.isSome ∨ asked.region = .user ∨ asked.bigPages = false ∨
          request.bigPage ∣ Alignment.roundUp request.length request.smallPage) := by
  obtain ⟨regular, -⟩ := regular_of_create created
  have leased := (leased_create created).carryOut run
  have pages := pageSize_of_carryOut created run asked
  obtain ⟨power, -⟩ := pageSize_of_regular regular asked
  have positive := Alignment.pos_of_isPowerOfTwo power
  obtain ⟨region, size, len, address⟩ :=
    (yields_reserve_pages leased (pages ▸ power)).of_ok granted
  have part := ((leased.reserve asked).of_ok granted).part created List.mem_cons_self
  dsimp only at part
  have above := Alignment.le_roundUp positive (max asked.len 1)
  unfold paged at len
  rw [pages] at size len address
  have shorter := regular.shorter
  have nonempty : 0 < reservation.len := by omega
  have kernelBase : request.kernelBase ≤ request.base + request.length := by
    unfold AddressSpaceRequest.kernelBase
    omega
  have base : request.base ≤ request.kernelBase := Nat.le_add_right ..
  rw [leased.space_eq created, pageSize_dvd_start_iff created, ← size] at address
  refine ⟨region, size, ⟨?_, ?_, fun other multiple le => ?_⟩, ?_, ?_, ?_, address⟩
  · rw [len, size]
    exact Alignment.dvd_roundUp ..
  · rw [len]
    exact above
  · rw [len]
    exact (Alignment.roundUp_le_iff positive (size ▸ multiple)).mpr le
  · rcases part with ⟨-, low, high⟩ | ⟨-, low, high⟩ <;> omega
  · rcases part with ⟨user, low, high⟩ | ⟨kernel, low, high⟩
    · rw [user]
      exact iff_of_false (by omega) Region.noConfusion
    · exact iff_of_true low kernel
  · intro user
    rcases part with ⟨-, low, high⟩ | ⟨kernel, -⟩
    · exact high
    · rw [user] at kernel
      cases kernel

/-- Beside a small page for the kernel, a big page for users starts at a big page and has its
bytes. -/
theorem granted_in_pages_of_user : ∃ start space live reservation after,
    create { id := 1, base := 0x10000, length := 0x41000, kernelLength := 0x20000,
             smallPage := 0x1000, bigPage := 0x10000 } = .ok start ∧
    start.carryOut [] [.reserve { len := 1, region := .kernel }] = some (space, live) ∧
    reserve { len := 5000, bigPages := true } space = (.ok reservation, after) ∧
    reservation.pageSize = 0x10000 ∧ reservation.pageSize ∣ reservation.address ∧
    reservation.pageSize ∣ reservation.len ∧
    reservation.address + reservation.len ≤ 0x31000 := by
  have outcome : ((create
      { id := 1, base := 0x10000, length := 0x41000, kernelLength := 0x20000, smallPage := 0x1000,
        bigPage := 0x10000 }).toOption.bind fun start =>
        (start.carryOut [] [.reserve { len := 1, region := .kernel }]).bind fun reached =>
          (reserve { len := 5000, bigPages := true } reached.1).1.toOption.map
            fun reservation => reservation.address) = some 0x10000 := by decide +kernel
  obtain ⟨start, created, ran⟩ := Option.bind_eq_some_iff.mp outcome
  obtain ⟨⟨space, live⟩, run, answered⟩ := Option.bind_eq_some_iff.mp ran
  obtain ⟨reservation, granted, -⟩ := Option.map_eq_some_iff.mp answered
  have created := eq_ok_of_toOption created
  have granted := run_of_toOption granted
  obtain ⟨region, size, ⟨whole, -, -⟩, -, -, ends, address⟩ := granted_in_pages created run granted
  exact ⟨start, space, live, reservation, _, created, run, granted, size,
    address.mpr (.inr (.inl rfl)), whole, ends region⟩

/-- Where the length is not one of big pages, the part for the kernel does not start at one, and
neither does a big page that is reserved there. -/
theorem crooked_of_kernel : ∃ start reservation after,
    create { id := 1, base := 0, length := 0x41000, kernelLength := 0x20000, smallPage := 0x1000,
             bigPage := 0x10000 } = .ok start ∧
    reserve { len := 1, region := .kernel, bigPages := true } start = (.ok reservation, after) ∧
    reservation.address = 0x21000 ∧ reservation.pageSize = 0x10000 ∧
    ¬ reservation.pageSize ∣ reservation.address := by
  have outcome : ((create
      { id := 1, base := 0, length := 0x41000, kernelLength := 0x20000, smallPage := 0x1000,
        bigPage := 0x10000 }).toOption.bind fun start =>
        (reserve { len := 1, region := .kernel, bigPages := true } start).1.toOption.map
          fun reservation => (reservation.address, reservation.pageSize)) =
      some (0x21000, 0x10000) := by decide +kernel
  obtain ⟨start, created, answered⟩ := Option.bind_eq_some_iff.mp outcome
  obtain ⟨reservation, granted, place⟩ := Option.map_eq_some_iff.mp answered
  obtain ⟨address, size⟩ := Prod.mk.inj place
  refine ⟨start, reservation, _, eq_ok_of_toOption created, run_of_toOption granted, address, size,
    ?_⟩
  rw [address, size]
  decide

end Addresses

end AddressSpace

end GpuSched
