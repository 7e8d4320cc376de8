import GpuSched.AddressSpace
import GpuSched.Proofs.Buddy.Availability

/-!
# Layout of address spaces

A new address space has two regions, one after the other, each with an allocator of its own that
knows the length of a directory entry; a request whose numbers do not make up such a layout is
refused. The windows of that length are counted from the start of a
region. Where the range asked for starts and ends at directory entries, and so does the part for the
kernel, these windows are the directory entries of the whole space.
-/
namespace GpuSched

open Buddy (Allocator Space SpaceRequest of_alignUp of_alignDown alignUp_of_dvd alignDown_of_dvd)
open Operation (bind_eq_ok_iff pure_eq_ok_iff)

/-- The numbers of a request make up a layout: two page sizes, and a part for the kernel in whole
big pages that leaves some bytes for users. -/
structure AddressSpaceRequest.Regular (request : AddressSpaceRequest) : Prop where
  small : Alignment.isPowerOfTwo request.smallPage = true
  big : Alignment.isPowerOfTwo request.bigPage = true
  sizes : request.smallPage ≤ request.bigPage
  kernel : request.kernelLength ≠ 0
  base : request.bigPage ∣ request.base
  pages : request.bigPage ∣ request.kernelLength
  shorter : request.kernelLength < request.length

namespace AddressSpace

/-- The bytes that one directory entry covers. -/
def directoryLength (space : AddressSpace) : Nat := space.bigPage * pagesPerDirectory

/-- What the allocator of a region is asked to be. -/
def regionRequest (request : AddressSpaceRequest) : Region → SpaceRequest
  | .user => {
      name := "vm" ++ toString request.id ++ "-user", base := request.base,
      length := request.length - request.kernelLength, blockSize := request.smallPage,
      directoryLength := some (request.bigPage * pagesPerDirectory) }
  | .kernel => {
      name := "vm" ++ toString request.id ++ "-kernel",
      base := request.base + (request.length - request.kernelLength),
      length := request.kernelLength, blockSize := request.smallPage,
      directoryLength := some (request.bigPage * pagesPerDirectory) }

/-- The address space of a regular request. -/
def layOut (request : AddressSpaceRequest) : Except Failure AddressSpace := do
  let _ ← Checked.mul64 request.bigPage pagesPerDirectory
  let user ← Allocator.create (regionRequest request .user)
  let _ ← Checked.add64 request.base (request.length - request.kernelLength)
  let kernel ← Allocator.create (regionRequest request .kernel)
  return {
    id := request.id, smallPage := request.smallPage, bigPage := request.bigPage, user, kernel }

/-- A request is refused unless its numbers make up a layout. -/
theorem create_cases (request : AddressSpaceRequest) :
    (¬ request.Regular ∧ ∃ fault, create request = refusing request fault) ∨
      request.Regular ∧ create request = layOut request := by
  unfold create refusing
  simp only [bind, Except.bind]
  split
  · rename_i odd
    refine .inl ⟨fun regular => ?_, .pageSizes, rfl⟩
    simp [regular.small, regular.big, Nat.not_lt.mpr regular.sizes] at odd
  rename_i sizes
  simp only [Bool.not_eq_true, Bool.or_eq_false_iff, Bool.not_eq_false',
    decide_eq_false_iff_not, Nat.not_lt] at sizes
  obtain ⟨⟨small, big⟩, le⟩ := sizes
  split
  · rename_i empty
    exact .inl ⟨fun regular => regular.kernel empty, .emptyKernel, rfl⟩
  rename_i nonempty
  rw [Alignment.isAligned_eq big, Alignment.isAligned_eq big]
  dsimp only
  split
  · rename_i crooked
    refine .inl ⟨fun regular => ?_, .layout, rfl⟩
    simp [regular.base, regular.pages, Nat.not_le.mpr regular.shorter] at crooked
  rename_i straight
  simp only [Bool.not_eq_true, Bool.or_eq_false_iff, Bool.not_eq_false', decide_eq_true_eq,
    decide_eq_false_iff_not, Nat.not_le] at straight
  obtain ⟨⟨base, pages⟩, shorter⟩ := straight
  refine .inr ⟨⟨small, big, le, nonempty, base, pages, shorter⟩, ?_⟩
  unfold layOut
  simp only [bind, Except.bind, regionRequest]
  split
  · rfl
  rename_i length product
  obtain ⟨-, rfl⟩ := Checked.fit_eq_ok_iff.mp product
  split
  · rfl
  split
  · rfl
  rename_i kernelBase sum
  obtain ⟨-, rfl⟩ := Checked.fit_eq_ok_iff.mp sum
  rfl

/-- The request of an address space is regular. -/
theorem regular_of_create {request : AddressSpaceRequest} {space : AddressSpace}
    (run : create request = .ok space) : request.Regular ∧ layOut request = .ok space := by
  rcases create_cases request with ⟨-, fault, refused⟩ | ⟨regular, same⟩
  · rw [run] at refused
    cases refused
  · exact ⟨regular, same ▸ run⟩

/-- An address space with two page sizes has an allocator for each of its regions. -/
theorem of_create_eq_ok {request : AddressSpaceRequest} {space : AddressSpace}
    (run : create request = .ok space) :
    Alignment.isPowerOfTwo request.smallPage = true ∧
      Alignment.isPowerOfTwo request.bigPage = true ∧ request.smallPage ≤ request.bigPage ∧
      space.bigPage = request.bigPage ∧
      ∀ region, Allocator.create (regionRequest request region) = .ok (space.allocator region) := by
  obtain ⟨regular, laid⟩ := regular_of_create run
  simp only [layOut, bind_eq_ok_iff, pure_eq_ok_iff] at laid
  obtain ⟨-, -, user, user_created, -, -, kernel, kernel_created, rfl⟩ := laid
  refine ⟨regular.small, regular.big, regular.sizes, rfl, fun region => ?_⟩
  cases region with
  | user => exact user_created
  | kernel => exact kernel_created

/-- The order whose power of two is a given one. -/
theorem orderFor_twoPow (exponent : Nat) : Alignment.orderFor (twoPow exponent) = exponent :=
  Nat.le_antisymm (Alignment.orderFor_le_iff.mpr (Nat.le_refl _))
    (le_of_twoPow_le (Alignment.orderFor_le_iff.mp (Nat.le_refl _)))

section Regions

variable {request : AddressSpaceRequest} {space : AddressSpace}

/-- The space of a region of a new address space. -/
theorem region_of_create (created : create request = .ok space) (region : Region) :
    Space.create (regionRequest request region) = .ok (space.allocator region).space :=
  (Buddy.Allocator.tiled_create ((of_create_eq_ok created).2.2.2.2 region)).2.2.2

/-- The pages of both regions are the small ones, and their directory entries hold as many big pages
as those of any address space. -/
theorem directory_of_create (created : create request = .ok space) (region : Region) :
    ∃ order, (space.allocator region).space.directoryOrder = some order ∧
      (space.allocator region).space.blockLength order = space.directoryLength ∧
      (space.allocator region).space.maxOrder = (space.allocator region).space.units.log2 := by
  obtain ⟨small, big, le, same_big, -⟩ := of_create_eq_ok created
  have region_created := region_of_create created region
  have uncapped : (regionRequest request region).maxOrder = none := by cases region <;> rfl
  have length : (regionRequest request region).directoryLength =
      some (request.bigPage * pagesPerDirectory) := by cases region <;> rfl
  have pages : (regionRequest request region).blockSize = request.smallPage := by
    cases region <;> rfl
  obtain ⟨orders, directory⟩ := Space.orders_of_create region_created uncapped
  have blocks := Space.blockSize_eq region_created
  rw [pages] at blocks
  obtain ⟨small_order, small_eq⟩ := Alignment.isPowerOfTwo_iff.mp small
  obtain ⟨big_order, big_eq⟩ := Alignment.isPowerOfTwo_iff.mp big
  have orders_le : small_order ≤ big_order := le_of_twoPow_le (by rwa [← small_eq, ← big_eq])
  have pages_pow : pagesPerDirectory = twoPow 10 := rfl
  have split_length : request.bigPage * pagesPerDirectory =
      twoPow small_order * twoPow (big_order + 10 - small_order) := by
    rw [big_eq, pages_pow, ← twoPow_add, ← twoPow_add]
    congr 1
    omega
  have shift : (space.allocator region).space.blockSize = twoPow small_order := by
    rw [blocks, small_eq]
  refine ⟨big_order + 10 - small_order, ?_, ?_, orders⟩
  · unfold Space.directoryOrderOf at directory
    rw [length] at directory
    dsimp only at directory
    split at directory
    · cases directory
    · rw [← Except.ok.inj directory]
      have units : request.bigPage * pagesPerDirectory /
          twoPow (space.allocator region).space.blockShift =
          twoPow (big_order + 10 - small_order) := by
        change _ / (space.allocator region).space.blockSize = _
        rw [shift, split_length, Nat.mul_div_cancel_left _ (twoPow_pos _)]
      rw [units, orderFor_twoPow]
  · unfold Space.blockLength directoryLength
    rw [shift, same_big, split_length]

/-- The region for users ends where the one for the kernel starts, or before. -/
theorem user_limit_le (created : create request = .ok space) :
    space.user.space.limit ≤ space.kernel.space.start := by
  obtain ⟨power, -, -, user_limit, -⟩ := Space.of_create_eq_ok (region_of_create created .user)
  obtain ⟨also_power, -, kernel_start, -⟩ :=
    Space.of_create_eq_ok (region_of_create created .kernel)
  exact Nat.le_trans (of_alignDown power user_limit).2 (of_alignUp also_power kernel_start).2

/-- Where the range asked for starts and ends at directory entries, and the part for the kernel too,
so do the regions. -/
theorem dvd_of_create (created : create request = .ok space)
    (base : space.directoryLength ∣ request.base) (length : space.directoryLength ∣ request.length)
    (kernel : space.directoryLength ∣ request.kernelLength) (region : Region) :
    space.directoryLength ∣ (space.allocator region).space.start ∧
      space.directoryLength ∣ (space.allocator region).space.limit := by
  obtain ⟨order, -, entry, -⟩ := directory_of_create created region
  have region_created := region_of_create created region
  obtain ⟨power, -, start, limit, -⟩ := Space.of_create_eq_ok region_created
  have user : space.directoryLength ∣ request.length - request.kernelLength :=
    Nat.dvd_sub length kernel
  have from_base : space.directoryLength ∣ (regionRequest request region).base := by
    cases region with
    | user => exact base
    | kernel => exact Nat.dvd_add base user
  have to_end : space.directoryLength ∣
      (regionRequest request region).base + (regionRequest request region).length := by
    refine Nat.dvd_add from_base ?_
    cases region with
    | user => exact user
    | kernel => exact kernel
  have blocks : (regionRequest request region).blockSize ∣ space.directoryLength := by
    rw [← Space.blockSize_eq region_created, ← entry]
    exact Nat.dvd_mul_right ..
  rw [alignUp_of_dvd power start (Nat.dvd_trans blocks from_base),
    alignDown_of_dvd power limit (Nat.dvd_trans blocks to_end)]
  exact ⟨from_base, to_end⟩

end Regions

end AddressSpace

end GpuSched
