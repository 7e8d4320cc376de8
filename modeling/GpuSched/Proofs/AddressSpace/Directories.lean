import GpuSched.Proofs.AddressSpace.Reservations

/-!
# Directory entries of address spaces

A directory entry can only map pages of one size. The allocators see to it for the windows that are
counted from the start of their region. Those are the directory entries of the address space where
the layout respects them, and other ranges where it does not.
-/
namespace GpuSched

open Buddy (Allocator)

/-- A reservation has a byte in a range. -/
def Reservation.Reaches (reservation : Reservation) (first length : Nat) : Prop :=
  reservation.address < first + length ∧ first < reservation.address + reservation.len
  deriving Decidable

namespace AddressSpace

/-- Pages of both sizes are reserved in a range. -/
def MixesPages (live : List Lease) (first length : Nat) : Prop :=
  ∃ one ∈ live, ∃ other ∈ live, one.request.bigPages ≠ other.request.bigPages ∧
    one.reservation.Reaches first length ∧ other.reservation.Reaches first length
  deriving Decidable

section Runs

variable {request : AddressSpaceRequest} {start space : AddressSpace} {live : List Lease}
  {calls : List Call} {lease one other : Lease} {region : Region} {index : Nat}

/-- The regions stay where they were created. -/
theorem Leased.space_eq (leased : space.Leased request live) (created : create request = .ok start)
    (region : Region) : (space.allocator region).space = (start.allocator region).space := by
  obtain ⟨_, allotted, -⟩ := leased.backs region
  obtain ⟨_, initial, -⟩ := (leased_create created).backs region
  exact space_eq_of_allotted allotted initial

/-- The directory entries stay as long as they were. -/
theorem Leased.directoryLength_eq (leased : space.Leased request live)
    (created : create request = .ok start) : start.directoryLength = space.directoryLength := by
  unfold directoryLength
  rw [leased.bigPage, (leased_create created).bigPage]

/-- A reservation lies in its region. -/
theorem Leased.within (leased : space.Leased request live) (mem : lease ∈ live) :
    (space.allocator lease.reservation.region).space.start ≤ lease.reservation.address ∧
      lease.reservation.address + lease.reservation.len ≤
        (space.allocator lease.reservation.region).space.limit := by
  obtain ⟨grants, allotted, entered⟩ := leased.backs lease.reservation.region
  obtain ⟨grant, granted, -, same, long⟩ := entered lease mem rfl
  have kept := allotted.ready.kept
  have held : grant.1 ∈ grants.map (·.1) := List.mem_map_of_mem granted
  obtain ⟨first, last, -, from_first, to_last, inside, -⟩ := kept.units held
  rw [kept.stopOf_eq held] at to_last
  rw [← same]
  exact ⟨from_first ▸ Nat.le_add_right .., by omega⟩

/-- What reaches into a range of a region is reserved of it. -/
theorem Leased.region_eq (leased : space.Leased request live) (created : create request = .ok start)
    (mem : lease ∈ live) {first length : Nat}
    (after : (space.allocator region).space.start ≤ first)
    (before : first + length ≤ (space.allocator region).space.limit)
    (reaches : lease.reservation.Reaches first length) : lease.reservation.region = region := by
  have apart := user_limit_le created
  obtain ⟨low, high⟩ := leased.within mem
  obtain ⟨starts, ends⟩ := reaches
  have user := leased.space_eq created .user
  have kernel := leased.space_eq created .kernel
  simp only [allocator] at user kernel
  rw [← user, ← kernel] at apart
  cases here : lease.reservation.region <;> cases region <;>
    simp only [here, allocator] at low high after before ⊢ <;> omega

/-- Where a window of a region is whole, the pages in it are of one size. -/
theorem Leased.not_mixesPages (leased : space.Leased request live)
    (created : create request = .ok start)
    (whole : (space.allocator region).space.start + index * space.directoryLength +
      space.directoryLength ≤ (space.allocator region).space.limit) :
    ¬ MixesPages live ((space.allocator region).space.start + index * space.directoryLength)
      space.directoryLength := by
  rintro ⟨one, mem, other, also_mem, differ, reaches, also_reaches⟩
  obtain ⟨grants, allotted, entered⟩ := leased.backs region
  obtain ⟨order, known, length, orders⟩ := directory_of_create created region
  rw [← leased.space_eq created region] at known length orders
  have same_length := leased.directoryLength_eq created
  rw [same_length] at length
  rw [← length] at whole reaches also_reaches
  have tagged : (space.allocator region).space.tags order = true := by
    unfold Buddy.Space.tags
    rw [known]
    exact decide_eq_true (Nat.le_refl order)
  have capped : order ≤ (space.allocator region).space.maxOrder := by
    have fits := Buddy.Space.windowAt_le_limit_iff.mp whole
    rw [orders]
    exact (le_log2_iff (by have := twoPow_pos order; omega)).mpr (by omega)
  have after : (space.allocator region).space.start ≤ (space.allocator region).space.start +
      index * (space.allocator region).space.blockLength order := Nat.le_add_right ..
  obtain ⟨grant, granted, size, same, long⟩ :=
    entered one mem (leased.region_eq created mem after whole reaches)
  obtain ⟨also_grant, also_granted, also_size, also_same, also_long⟩ :=
    entered other also_mem (leased.region_eq created also_mem after whole also_reaches)
  have sizes : grant.2 ≠ also_grant.2 := by
    rw [size, also_size]
    exact ReservationRequest.pageClass_ne_iff.mpr differ
  refine allotted.not_both granted also_granted sizes tagged capped whole ⟨?_, ?_⟩ ⟨?_, ?_⟩
  · exact same ▸ reaches.1
  · refine Nat.lt_of_lt_of_le reaches.2 ?_
    rw [same]
    exact Nat.add_le_add_left long _
  · exact also_same ▸ also_reaches.1
  · refine Nat.lt_of_lt_of_le also_reaches.2 ?_
    rw [also_same]
    exact Nat.add_le_add_left also_long _

/-- A directory entry that a reservation reaches into is a whole window of its region, where the
layout respects the directory entries. -/
theorem Leased.window_of_reaches (leased : space.Leased request live) (mem : lease ∈ live)
    (from_start : space.directoryLength ∣
      (space.allocator lease.reservation.region).space.start)
    (to_limit : space.directoryLength ∣ (space.allocator lease.reservation.region).space.limit)
    (reaches : lease.reservation.Reaches (index * space.directoryLength) space.directoryLength) :
    ∃ window, index * space.directoryLength =
        (space.allocator lease.reservation.region).space.start + window * space.directoryLength ∧
      index * space.directoryLength + space.directoryLength ≤
        (space.allocator lease.reservation.region).space.limit := by
  obtain ⟨low, high⟩ := leased.within mem
  obtain ⟨first, starts⟩ := from_start
  obtain ⟨last, ends⟩ := to_limit
  obtain ⟨before, after⟩ := reaches
  rw [Nat.mul_comm] at starts ends
  rw [starts] at low ⊢
  rw [ends] at high ⊢
  rw [← Nat.succ_mul] at before ⊢
  have begun : first < index + 1 :=
    Nat.lt_of_mul_lt_mul_right (Nat.lt_of_le_of_lt low before)
  have unfinished : index < last := Nat.lt_of_mul_lt_mul_right (Nat.lt_of_lt_of_le after high)
  refine ⟨index - first, ?_, Nat.mul_le_mul_right _ unfinished⟩
  rw [← Nat.add_mul, Nat.add_sub_cancel' (Nat.le_of_lt_succ begun)]

/-- In every run of reservations and releases, the pages in a whole window of a region are of one
size. Where the range asked for starts and ends at directory entries, and the part for the kernel
too, so are the pages in each directory entry. -/
theorem not_mixesPages_of_carryOut (created : create request = .ok start)
    (run : start.carryOut [] calls = some (space, live)) :
    (∀ region index, (space.allocator region).space.start + index * space.directoryLength +
        space.directoryLength ≤ (space.allocator region).space.limit →
      ¬ MixesPages live ((space.allocator region).space.start + index * space.directoryLength)
        space.directoryLength) ∧
      (space.directoryLength ∣ request.base → space.directoryLength ∣ request.length →
        space.directoryLength ∣ request.kernelLength →
        ∀ index, ¬ MixesPages live (index * space.directoryLength) space.directoryLength) := by
  have leased := (leased_create created).carryOut run
  refine ⟨fun _ _ => leased.not_mixesPages created, fun base length kernel index mixes => ?_⟩
  have same_length := leased.directoryLength_eq created
  have ⟨one, mem, _, _, _, reaches, _⟩ := mixes
  have region := dvd_of_create created (by rwa [same_length]) (by rwa [same_length])
    (by rwa [same_length]) one.reservation.region
  rw [← leased.space_eq created, same_length] at region
  obtain ⟨window, place, whole⟩ := leased.window_of_reaches mem region.1 region.2 reaches
  rw [place] at mixes whole
  exact leased.not_mixesPages created whole mixes

end Runs

/-- In a layout that respects the directory entries, a small page and a big one that are reserved
of the user region lie in different ones. -/
theorem not_mixesPages_of_two_sizes : ∃ (space : AddressSpace) (live : List Lease),
    live.map (fun lease => (lease.reservation.address, lease.reservation.pageSize)) =
      [(0xc000000, 0x10000), (0x4000000, 0x1000)] ∧
    ∀ index, ¬ MixesPages live (index * space.directoryLength) space.directoryLength := by
  have outcome : (create
      { id := 1, base := 0x4000000, length := 0x14000000, kernelLength := 0x4000000,
        smallPage := 0x1000, bigPage := 0x10000 }).toOption.bind (fun start =>
          (start.carryOut [] [.reserve { len := 0x1000 },
            .reserve { len := 0x10000, bigPages := true }]).map fun reached =>
              (reached.2.map fun lease => (lease.reservation.address, lease.reservation.pageSize),
                reached.1.directoryLength)) =
      some ([(0xc000000, 0x10000), (0x4000000, 0x1000)], 0x4000000) := by decide +kernel
  obtain ⟨start, created, ran⟩ := Option.bind_eq_some_iff.mp outcome
  obtain ⟨⟨space, live⟩, run, reached⟩ := Option.map_eq_some_iff.mp ran
  obtain ⟨placed, length⟩ := Prod.mk.inj reached
  dsimp only at placed length
  refine ⟨space, live, placed,
    (not_mixesPages_of_carryOut (Operation.eq_ok_of_toOption created) run).2 ?_ ?_ ?_⟩ <;>
    simp [length]

/-- In a layout that does not respect the directory entries, a small page and a big one can be
reserved in one of them. -/
theorem mixesPages_of_shifted_base : ∃ start space live,
    create { id := 1, base := 0x2000000, length := 0x14000000, kernelLength := 0x4000000,
             smallPage := 0x1000, bigPage := 0x10000 } = .ok start ∧
    start.carryOut [] [.reserve { len := 0x1000, fixedAt := some 0x9000000 },
      .reserve { len := 0x10000, bigPages := true, fixedAt := some 0xb000000 }] =
      some (space, live) ∧
    MixesPages live (2 * space.directoryLength) space.directoryLength := by
  have outcome : (create
      { id := 1, base := 0x2000000, length := 0x14000000, kernelLength := 0x4000000,
        smallPage := 0x1000, bigPage := 0x10000 }).toOption.bind (fun start =>
          (start.carryOut [] [.reserve { len := 0x1000, fixedAt := some 0x9000000 },
            .reserve { len := 0x10000, bigPages := true, fixedAt := some 0xb000000 }]).map
              fun reached => decide (MixesPages reached.2 (2 * reached.1.directoryLength)
                reached.1.directoryLength)) = some true := by decide +kernel
  obtain ⟨start, created, ran⟩ := Option.bind_eq_some_iff.mp outcome
  obtain ⟨⟨space, live⟩, run, mixes⟩ := Option.map_eq_some_iff.mp ran
  exact ⟨start, space, live, Operation.eq_ok_of_toOption created, run, of_decide_eq_true mixes⟩

end AddressSpace

end GpuSched
