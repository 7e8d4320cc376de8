import GpuSched.Proofs.AddressSpace.Layout
import GpuSched.Proofs.Buddy.Zoning

/-!
# Reservations of address spaces

A run of calls reserves and releases ranges of an address space. Along it the allocator of each
region has an allocation for every reservation that is held of the region, for the page size that
was asked for, and the reservation lies in it (`Leased`).
-/
namespace GpuSched

open Buddy (Allocator Holding SpaceRequest)
open Operation

/-- The page size that a reservation is asked for. -/
def ReservationRequest.pageClass (request : ReservationRequest) : PageClass :=
  if request.bigPages then .big else .small

/-- Whoever asks for a reservation asks for a page size. -/
theorem ReservationRequest.pageClass_ne_any (request : ReservationRequest) :
    request.pageClass ≠ .any := by
  unfold pageClass
  split <;> exact PageClass.noConfusion

/-- Different sizes of pages are asked for as different ones. -/
theorem ReservationRequest.pageClass_ne_iff {one other : ReservationRequest} :
    one.pageClass ≠ other.pageClass ↔ one.bigPages ≠ other.bigPages := by
  unfold pageClass
  cases one.bigPages <;> cases other.bigPages <;> decide

/-- A reservation that is held, and what was asked for. -/
structure Lease where
  request : ReservationRequest
  reservation : Reservation
  deriving DecidableEq, Repr

namespace AddressSpace

/-- A call that changes an address space. -/
inductive Call where
  | reserve (request : ReservationRequest)
  | release (reservation : Reservation)
  deriving DecidableEq, Repr

/-- Whether a reservation stays when another one is released. -/
def outlasts (released : Reservation) (lease : Lease) : Bool :=
  lease.reservation.region ≠ released.region || lease.reservation.address ≠ released.address

/-- Carry out some calls one after another, if none of them aborts, and note what is held. -/
def carryOut (space : AddressSpace) (live : List Lease) :
    List Call → Option (AddressSpace × List Lease)
  | [] => some (space, live)
  | .reserve request :: calls =>
      match reserve request space with
      | (.ok reservation, changed) => changed.carryOut (⟨request, reservation⟩ :: live) calls
      | (.error (.refused _), changed) => changed.carryOut live calls
      | (.error (.aborted _), _) => none
  | .release reservation :: calls =>
      match release reservation space with
      | (.ok (), changed) => changed.carryOut (live.filter (outlasts reservation)) calls
      | (.error _, _) => none

/-- There is an allocation for each reservation that is held of a region, for its page size, and the
reservation lies in it. -/
def Entered (space : Buddy.Space) (grants : List (Holding × PageClass)) (region : Region)
    (live : List Lease) : Prop :=
  ∀ lease ∈ live, lease.reservation.region = region → ∃ grant ∈ grants,
    grant.2 = lease.request.pageClass ∧ grant.1.start = lease.reservation.address ∧
      lease.reservation.len ≤ space.bytesOf grant.1

/-- An allocator has granted what is held of its region. -/
def Backs (allocator : Allocator) (request : SpaceRequest) (region : Region) (live : List Lease) :
    Prop :=
  ∃ grants, allocator.Allotted request grants ∧ Entered allocator.space grants region live

section Regions

variable {allocator after : Allocator} {request : SpaceRequest} {region : Region}
  {live : List Lease} {grants : List (Holding × PageClass)}

/-- The space of an allocator is the one that was asked for. -/
theorem space_eq_of_allotted {others : List (Holding × PageClass)}
    (allotted : allocator.Allotted request grants) (other : after.Allotted request others) :
    allocator.space = after.space :=
  Except.ok.inj (allotted.ready.kept.space.symm.trans other.ready.kept.space)

/-- A reservation of another region changes nothing for a region. -/
theorem Backs.elsewhere (backs : Backs allocator request region live) {lease : Lease}
    (apart : lease.reservation.region ≠ region) :
    Backs allocator request region (lease :: live) := by
  obtain ⟨grants, allotted, entered⟩ := backs
  exact ⟨grants, allotted, List.forall_mem_cons.mpr ⟨fun here => absurd here apart, entered⟩⟩

/-- Fewer reservations are held. -/
theorem Backs.filter (backs : Backs allocator request region live) (keep : Lease → Bool) :
    Backs allocator request region (live.filter keep) := by
  obtain ⟨grants, allotted, entered⟩ := backs
  exact ⟨grants, allotted, fun lease mem => entered lease (List.mem_of_mem_filter mem)⟩

/-- One more reservation is held after a grant for it. -/
theorem Entered.grant {holding : Holding} {lease : Lease}
    (entered : Entered allocator.space grants region live)
    (allotted : allocator.Allotted request grants)
    (granted : after.Allotted request ((holding, lease.request.pageClass) :: grants))
    (start : holding.start = lease.reservation.address)
    (long : lease.reservation.len ≤ after.space.bytesOf holding) :
    Backs after request region (lease :: live) := by
  refine ⟨_, granted, List.forall_mem_cons.mpr ⟨fun _ => ?_, fun other mem here => ?_⟩⟩
  · exact ⟨_, List.mem_cons_self, rfl, start, long⟩
  · obtain ⟨grant, there, rest⟩ := entered other mem here
    rw [space_eq_of_allotted allotted granted] at rest
    exact ⟨grant, List.mem_cons_of_mem _ there, rest⟩

/-- An ordinary allocation backs a reservation of its length, if it is granted. -/
theorem Backs.allocate (backs : Backs allocator request region live) (asked : ReservationRequest)
    (len pageSize : Nat) :
    (Allocator.allocate len asked.pageClass).Yields allocator
      (fun address after =>
        Backs after request region (⟨asked, { address, len, pageSize, region }⟩ :: live))
      (fun failure after => (∃ reason, failure = .aborted reason) ∨
        Backs after request region live) := by
  obtain ⟨grants, allotted, entered⟩ := backs
  refine (allotted.allocate len asked.pageClass_ne_any).mono (fun address after granted => ?_)
    fun _ after => Or.imp_right fun still => ⟨grants, still, ?_⟩
  · exact entered.grant allotted granted rfl (Buddy.Space.leastOrder_orderFor _ len).1
  · rwa [← space_eq_of_allotted allotted still]

/-- A fixed allocation backs a reservation of its range, if it is granted. -/
theorem Backs.allocateFixed (backs : Backs allocator request region live)
    (asked : ReservationRequest) (base len pageSize : Nat) :
    (Allocator.allocateFixed base len asked.pageClass).Yields allocator
      (fun address after =>
        Backs after request region (⟨asked, { address, len, pageSize, region }⟩ :: live))
      (fun failure after => (∃ reason, failure = .aborted reason) ∨
        Backs after request region live) := by
  obtain ⟨grants, allotted, entered⟩ := backs
  refine (allotted.allocateFixed base len asked.pageClass_ne_any).mono
    (fun address after granted => ?_) fun _ after => Or.imp_right fun still => ⟨grants, still, ?_⟩
  · exact entered.grant allotted granted rfl (Nat.le_refl len)
  · rwa [← space_eq_of_allotted allotted still]

/-- A release leaves the allocations of the other reservations. -/
theorem Backs.free (backs : Backs allocator request region live) {released : Reservation}
    (here : released.region = region) :
    (Allocator.free released.address).Yields allocator
      (fun _ after => Backs after request region (live.filter (outlasts released)))
      (fun _ _ => False) := by
  obtain ⟨grants, allotted, entered⟩ := backs
  refine (allotted.free released.address).mono (fun _ after still => ?_) fun _ _ => False.elim
  refine ⟨_, still, fun lease mem same => ?_⟩
  obtain ⟨mem, stays⟩ := List.mem_filter.mp mem
  obtain ⟨grant, there, size, start, long⟩ := entered lease mem same
  rw [space_eq_of_allotted allotted still] at long
  refine ⟨grant, List.mem_filter.mpr ⟨there, ?_⟩, size, start, long⟩
  rw [start]
  simpa [outlasts, same, here] using stays

end Regions

/-- Both allocators have granted what is held of their regions, and the pages are those asked
for. -/
structure Leased (space : AddressSpace) (request : AddressSpaceRequest) (live : List Lease) :
    Prop where
  bigPage : space.bigPage = request.bigPage
  backs : ∀ region, Backs (space.allocator region) (regionRequest request region) region live

section Calls

variable {request : AddressSpaceRequest} {space start : AddressSpace} {live held : List Lease}

/-- The allocators after one of them is replaced. -/
theorem allocator_withAllocator (space : AddressSpace) (region other : Region)
    (allocator : Allocator) : (space.withAllocator region allocator).allocator other =
      if other = region then allocator else space.allocator other := by
  cases region <;> cases other <;> rfl

@[simp] theorem bigPage_withAllocator (space : AddressSpace) (region : Region)
    (allocator : Allocator) : (space.withAllocator region allocator).bigPage = space.bigPage := by
  cases region <;> rfl

/-- Another allocator of one region backs what is held when both regions do. -/
theorem Leased.withAllocator (leased : space.Leased request live) {region : Region}
    {allocator : Allocator} {left : List Lease}
    (backs : Backs allocator (regionRequest request region) region left)
    (others : ∀ other, other ≠ region →
      Backs (space.allocator other) (regionRequest request other) other left) :
    (space.withAllocator region allocator).Leased request left where
  bigPage := (bigPage_withAllocator ..).trans leased.bigPage
  backs other := by
    rw [allocator_withAllocator]
    split
    · rename_i same
      rw [same]
      exact backs
    · rename_i apart
      exact others other apart

/-- An allocation in a region backs a reservation there. -/
theorem Leased.yields_onRegion (leased : space.Leased request live) (asked : ReservationRequest)
    {len pageSize : Nat} {allocation : Operation Allocator Nat}
    (yields : allocation.Yields (space.allocator asked.region)
      (fun address after => Backs after (regionRequest request asked.region) asked.region
        (⟨asked, { address, len, pageSize, region := asked.region }⟩ :: live))
      (fun failure after => (∃ reason, failure = .aborted reason) ∨
        Backs after (regionRequest request asked.region) asked.region live)) :
    (onRegion asked.region allocation).Yields space
      (fun address after => after.Leased request
        (⟨asked, { address, len, pageSize, region := asked.region }⟩ :: live))
      (fun failure after => (∃ reason, failure = .aborted reason) ∨ after.Leased request live) := by
  unfold onRegion
  rw [yields_focus]
  refine yields.mono (fun address after backs => ?_)
    fun failure after => Or.imp_right fun backs => ?_
  · exact leased.withAllocator backs fun other apart => (leased.backs other).elsewhere apart.symm
  · exact leased.withAllocator backs fun other _ => leased.backs other

/-- A reservation that is granted is backed by its region; one that is refused changes nothing that
is held. -/
theorem Leased.reserve (leased : space.Leased request live) (asked : ReservationRequest) :
    (reserve asked).Yields space
      (fun reservation after => after.Leased request (⟨asked, reservation⟩ :: live))
      (fun failure after => (∃ reason, failure = .aborted reason) ∨ after.Leased request live) := by
  have backs := leased.backs asked.region
  unfold AddressSpace.reserve
  simp only [yields_bind, yields_get]
  refine yields_lift_of (fun len _ => ?_) fun _ _ => .inr leased
  split
  · rename_i address _
    rw [yields_bind]
    refine yields_lift_of (fun aligned _ => ?_) fun _ _ => .inr leased
    split
    · exact .inr leased
    · rw [yields_bind]
      exact leased.yields_onRegion asked (backs.allocateFixed asked address len _)
  · rw [yields_bind]
    exact leased.yields_onRegion asked (backs.allocate asked len _)

/-- A release leaves what is held of the other ranges. -/
theorem Leased.release (leased : space.Leased request live) (released : Reservation) :
    (release released).Yields space
      (fun _ after => after.Leased request (live.filter (outlasts released)))
      (fun _ _ => False) := by
  unfold AddressSpace.release onRegion
  rw [yields_focus]
  refine ((leased.backs released.region).free rfl).mono (fun _ after backs => ?_)
    fun _ _ => False.elim
  exact leased.withAllocator backs fun other _ => (leased.backs other).filter _

/-- Nothing is held of a new address space. -/
theorem leased_create (created : create request = .ok space) : space.Leased request [] where
  bigPage := (of_create_eq_ok created).2.2.2.1
  backs region := by
    obtain ⟨order, directory, -⟩ := directory_of_create created region
    have known : (space.allocator region).space.directoryOrder.isSome = true := by
      rw [directory, Option.isSome_some]
    exact ⟨[], Allocator.allotted_create ((of_create_eq_ok created).2.2.2.2 region) known, by
      simp [Entered]⟩

/-- In every run the allocators have granted what is held of their regions. -/
theorem Leased.carryOut {calls : List Call} (leased : start.Leased request live)
    (run : start.carryOut live calls = some (space, held)) : space.Leased request held := by
  induction calls generalizing start live with
  | nil =>
    cases run
    exact leased
  | cons call calls ih =>
    cases call with
    | reserve asked =>
      unfold AddressSpace.carryOut at run
      split at run
      · rename_i answered
        exact ih ((leased.reserve asked).of_ok answered) run
      · rename_i refused
        rcases (leased.reserve asked).of_error refused with ⟨_, stopped⟩ | still
        · cases stopped
        · exact ih still run
      · cases run
    | release released =>
      unfold AddressSpace.carryOut at run
      split at run
      · rename_i answered
        exact ih ((leased.release released).of_ok answered) run
      · cases run

end Calls

end AddressSpace

end GpuSched
