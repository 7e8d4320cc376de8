import GpuSched.Proofs.Buddy.Coverage
import GpuSched.Proofs.Buddy.Decision
import GpuSched.Proofs.Buddy.History
import Mathlib.Algebra.BigOperators.Ring.Finset

/-!
# Conservation of bytes

The numbers that an allocator reports are those of what there is. Free blocks, blocks that are
handed out and what alignment leaves out make up the range asked for; the blocks that are handed out
have the bytes that are reserved for what callers hold; and the counts are the numbers of blocks and
of live allocations.
-/
namespace GpuSched.Buddy

open Operation

/-- Whether a range was placed by its caller. -/
def Holding.isFixed : Holding → Bool
  | .ordinary _ _ => false
  | .fixed _ _ => true

namespace Allocator

section Conservation

variable {request : SpaceRequest} {allocator : Allocator} {ledger : List Holding}

/-- A table whose numbers are the starts of the ranges of a kind has one entry for each of these. -/
theorem size_eq_countP {α : Type} {table : Table α} {kind : Holding → Bool}
    (starts : ledger.Pairwise fun one other => one.start ≠ other.start)
    (found_iff : ∀ address, (∃ value, table.find? address = some value) ↔
      ∃ holding ∈ ledger, kind holding = true ∧ holding.start = address) :
    table.size = ledger.countP kind := by
  have nodup : ((ledger.filter kind).map Holding.start).Nodup :=
    List.pairwise_map.mpr (starts.filter kind)
  have keys_nodup : table.keys.Nodup := table.keys_ascending.imp Nat.ne_of_lt
  have same : table.keys.Perm ((ledger.filter kind).map Holding.start) := by
    refine (List.perm_ext_iff_of_nodup keys_nodup nodup).mpr fun address => ?_
    rw [Table.mem_keys_iff, found_iff, List.mem_map]
    simp only [List.mem_filter, and_assoc]
  calc table.size = table.keys.length := (List.length_map ..).symm
    _ = ((ledger.filter kind).map Holding.start).length := same.length_eq
    _ = ledger.countP kind := by rw [List.length_map, List.countP_eq_length_filter]

/-- The ordinary records are those of the ordinary ranges. -/
theorem Ready.ordinary_size (ready : allocator.Ready request ledger) :
    allocator.ordinary.size = ledger.countP (!·.isFixed) := by
  refine size_eq_countP ready.kept.starts fun address => ?_
  constructor
  · rintro ⟨id, found⟩
    obtain ⟨len, mem⟩ := ready.tended.exists_ordinary found
    exact ⟨_, mem, rfl, rfl⟩
  · rintro ⟨holding, mem, kind, rfl⟩
    have record := ready.kept.hasRecord mem
    cases holding with
    | ordinary address len => exact record
    | fixed base len => cases kind

/-- The fixed records are those of the fixed ranges. -/
theorem Ready.fixed_size (ready : allocator.Ready request ledger) :
    allocator.fixed.size = ledger.countP (·.isFixed) := by
  refine size_eq_countP ready.kept.starts fun address => ?_
  constructor
  · rintro ⟨range, found⟩
    obtain ⟨len, mem⟩ := ready.tended.exists_fixed found
    exact ⟨_, mem, rfl, rfl⟩
  · rintro ⟨holding, mem, kind, rfl⟩
    have record := ready.kept.hasRecord mem
    cases holding with
    | ordinary address len => cases kind
    | fixed base len => exact record

/-- The units of the ranges that callers hold. -/
def heldUnits (allocator : Allocator) (ledger : List Holding) : Set Nat :=
  {unit | ∃ holding ∈ ledger, holding.start ≤ allocator.space.address unit ∧
    allocator.space.address unit < allocator.stopOf holding}

/-- The units of held ranges have the bytes that are reserved for them. -/
theorem ncard_heldUnits
    (apart : ledger.Pairwise fun one other =>
      allocator.stopOf one ≤ other.start ∨ allocator.stopOf other ≤ one.start)
    (ranges : ∀ holding ∈ ledger, ∃ first last, allocator.space.address first = holding.start ∧
      allocator.space.address last = allocator.stopOf holding ∧
      allocator.stopOf holding = holding.start + allocator.space.bytesOf holding) :
    (allocator.heldUnits ledger).Finite ∧
      (allocator.heldUnits ledger).ncard * allocator.space.blockSize =
        allocator.space.heldBytes ledger := by
  induction ledger with
  | nil =>
    have nothing : allocator.heldUnits [] = ∅ := by
      refine Set.eq_empty_iff_forall_notMem.mpr ?_
      rintro unit ⟨holding, mem, -⟩
      cases mem
    rw [nothing]
    exact ⟨Set.finite_empty, by rw [Set.ncard_empty, Nat.zero_mul]; rfl⟩
  | cons head rest ih =>
    obtain ⟨from_head, apart⟩ := List.pairwise_cons.mp apart
    obtain ⟨finite, bytes⟩ :=
      ih apart fun holding mem => ranges holding (List.mem_cons_of_mem _ mem)
    obtain ⟨first, last, start, stop, length⟩ := ranges head List.mem_cons_self
    have split : allocator.heldUnits (head :: rest) =
        (Finset.Ico first last : Set Nat) ∪ allocator.heldUnits rest := by
      ext unit
      simp only [heldUnits, List.mem_cons, exists_eq_or_imp, Set.mem_union, Set.mem_ofPred_eq,
        Finset.coe_Ico, Set.mem_Ico, ← start, ← stop, Space.address_lt_iff]
      rw [← Nat.not_lt, Space.address_lt_iff, Nat.not_lt]
    have disjoint : Disjoint (Finset.Ico first last : Set Nat) (allocator.heldUnits rest) := by
      rw [Set.disjoint_left]
      rintro unit here ⟨holding, mem, after, before⟩
      rw [Finset.coe_Ico, Set.mem_Ico] at here
      have from_first := allocator.space.address_le_address here.1
      have to_last : allocator.space.address unit < allocator.space.address last :=
        Space.address_lt_iff.mpr here.2
      rcases from_head holding mem with le | le <;> omega
    have own : (last - first) * allocator.space.blockSize = allocator.space.bytesOf head := by
      rw [← start, ← stop] at length
      unfold Space.address at length
      rw [Nat.sub_mul]
      omega
    refine ⟨split ▸ (Finset.finite_toSet _).union finite, ?_⟩
    rw [split, Set.ncard_union_eq disjoint (Finset.finite_toSet _) finite, Set.ncard_coe_finset,
      Nat.card_Ico, Nat.add_mul, own, bytes]
    rfl

/-- The units of the blocks that are handed out are those of the held ranges. -/
theorem Ready.covered_eq (ready : allocator.Ready request ledger) :
    covered allocator.arena.outline Block.isAllocated = allocator.heldUnits ledger := by
  have kept := ready.kept
  ext unit
  constructor
  · rintro ⟨id, block, found, allocated, after, before⟩
    obtain ⟨holding, mem, start, stop⟩ :=
      exists_holding_around kept ready.tended ⟨found, of_decide_eq_true allocated⟩
    rw [Space.address_add_blockLength] at stop
    exact ⟨holding, mem, Nat.le_trans start (Space.address_le_address after),
      Nat.lt_of_lt_of_le (Space.address_lt_iff.mpr before) stop⟩
  · rintro ⟨holding, mem, after, before⟩
    obtain ⟨first, last, -, start, stop, -, spans⟩ := kept.units mem
    rw [← stop, Space.address_lt_iff] at before
    rw [← start, ← Nat.not_lt, Space.address_lt_iff, Nat.not_lt] at after
    obtain ⟨id, owns, block, found, -, covers⟩ := spans unit after before
    obtain ⟨held, present, allocated⟩ := kept.recorded.allocated owns
    obtain rfl : block = held := Option.some.inj (found.symm.trans present)
    exact ⟨id, block, found, decide_eq_true allocated, covers⟩

/-- The bytes of the orders of a report add up to those of the units that a kind of blocks has. -/
theorem sum_orders_eq {kind : Block → Bool} (tended : allocator.Tended ledger)
    (leaves : ∀ block : Block, kind block = true → block.isLeaf = true)
    (number : OrderStats → Nat) (counts : ∀ order ≤ allocator.space.maxOrder,
      number (allocator.orderStats order) = (handlesOf allocator.arena.outline kind order).ncard) :
    allocator.stats.orders.foldr (fun order bytes => number order * order.blockLength + bytes) 0 =
      (covered allocator.arena.outline kind).ncard * allocator.space.blockSize := by
  rw [tended.settled.forest.ncard_covered (finitelyMany_outline _) leaves, Finset.sum_mul]
  unfold stats
  dsimp only
  rw [List.foldr_map]
  have each : ∀ order ∈ Finset.range (allocator.space.maxOrder + 1),
      (handlesOf allocator.arena.outline kind order).ncard * twoPow order *
          allocator.space.blockSize =
        number (allocator.orderStats order) * (allocator.orderStats order).blockLength := by
    intro order mem
    rw [counts order (Nat.le_of_lt_succ (Finset.mem_range.mp mem))]
    unfold orderStats Space.blockLength
    dsimp only
    rw [Nat.mul_assoc, Nat.mul_comm (twoPow order)]
  rw [Finset.sum_congr rfl each, Finset.sum_eq_multiset_sum]
  exact List.foldr_map.symm

/-- The bytes of a space are those of its free blocks and of those that are handed out. -/
theorem Ready.freeBytes_add (ready : allocator.Ready request ledger) :
    allocator.stats.freeBytes + allocator.stats.allocatedBytes =
      allocator.space.limit - allocator.space.start := by
  have tended := ready.tended
  have free : allocator.stats.freeBytes =
      (covered allocator.arena.outline Block.isListed).ncard * allocator.space.blockSize :=
    sum_orders_eq tended (fun _ => Block.isLeaf_of_isListed) (·.free) fun _ capped =>
      congrArg OrderStats.free (tended.orderStats_eq capped)
  have allocated : allocator.stats.allocatedBytes =
      (covered allocator.arena.outline Block.isAllocated).ncard * allocator.space.blockSize :=
    sum_orders_eq tended (fun _ => Block.isLeaf_of_isAllocated) (·.allocated) fun _ capped =>
      congrArg OrderStats.allocated (tended.orderStats_eq capped)
  rw [free, allocated, ← Nat.add_mul, tended.tidy.ncard_covered]
  exact Space.units_mul_blockSize ready.kept.space

/-- The bytes of the blocks that are handed out are those that are reserved for the held ranges. -/
theorem Ready.allocatedBytes_eq (ready : allocator.Ready request ledger) :
    allocator.stats.allocatedBytes = allocator.space.heldBytes ledger := by
  have tended := ready.tended
  have allocated : allocator.stats.allocatedBytes =
      (covered allocator.arena.outline Block.isAllocated).ncard * allocator.space.blockSize :=
    sum_orders_eq tended (fun _ => Block.isLeaf_of_isAllocated) (·.allocated) fun _ capped =>
      congrArg OrderStats.allocated (tended.orderStats_eq capped)
  rw [allocated, ready.covered_eq]
  refine (ncard_heldUnits ready.kept.apart fun holding mem => ?_).2
  obtain ⟨first, last, -, start, stop, -⟩ := ready.kept.units mem
  exact ⟨first, last, start, stop, ready.kept.stopOf_eq mem⟩

/-- In every state that calls lead to, the report of an allocator accounts for the range asked for:
free blocks, blocks that are handed out and what alignment leaves out make up its length. What was
handed out and has not come back are the bytes of the blocks that are handed out and those of the
ranges that callers hold. The counts are the numbers of blocks and of live allocations. -/
theorem conserves {start : Allocator} {calls : List Request} (created : create request = .ok start)
    (run : start.carryOut [] calls = some (allocator, ledger)) :
    allocator.stats.freeBytes + allocator.stats.allocatedBytes + allocator.space.alignLoss =
        request.length ∧
      allocator.stats.outstandingBytes = .ok allocator.stats.allocatedBytes ∧
      allocator.stats.allocatedBytes =
        (ledger.map fun holding => allocator.stopOf holding - holding.start).sum ∧
      allocator.stats.orders.map (·.order) = List.range (allocator.space.maxOrder + 1) ∧
      (∀ counts ∈ allocator.stats.orders,
        counts.free = (handlesOf allocator.arena.block? Block.isListed counts.order).ncard ∧
        counts.allocated =
          (handlesOf allocator.arena.block? Block.isAllocated counts.order).ncard ∧
        counts.split = (handlesOf allocator.arena.block? Block.isSplit counts.order).ncard) ∧
      allocator.stats.liveOrdinary = ledger.countP (!·.isFixed) ∧
      allocator.stats.liveFixed = ledger.countP (·.isFixed) := by
  have ready := ready_of_run created run
  refine ⟨?_, ?_, ?_, ?_, fun counts mem => ?_, ready.ordinary_size, ready.fixed_size⟩
  · obtain ⟨-, -, -, -, -, length, -⟩ := Space.of_create_eq_ok ready.kept.space
    have inside := Space.limit_sub_start_le ready.kept.space
    rw [ready.freeBytes_add]
    unfold Space.alignLoss
    omega
  · have total := ready.balanced.reserved
    rw [ready.allocatedBytes_eq]
    unfold AllocatorStats.outstandingBytes stats
    dsimp only
    rw [Checked.sub_of_le (by omega)]
    congr 1
    omega
  · rw [ready.allocatedBytes_eq]
    unfold Space.heldBytes
    refine congrArg List.sum (List.map_congr_left fun holding mem => ?_)
    rw [ready.kept.stopOf_eq mem, Nat.add_sub_cancel_left]
  · unfold stats
    rw [List.map_map]
    exact List.map_id _
  · obtain ⟨order, below, rfl⟩ := List.mem_map.mp mem
    have capped : order ≤ allocator.space.maxOrder := Nat.le_of_lt_succ (List.mem_range.mp below)
    rw [ready.tended.orderStats_eq capped, handlesOf_outline Block.isListed_outline,
      handlesOf_outline Block.isAllocated_outline, handlesOf_outline Block.isSplit_outline]
    exact ⟨rfl, rfl, rfl⟩

/-- Half a block is lost at the start of a space of eight; a range is placed, another one beside it
is refused, and of two ordinary ranges one comes back. -/
theorem conserves_of_calls : ∃ start allocator : Allocator,
    create { name := "heap", base := 0x800, length := 0x8800, blockSize := 0x1000 } = .ok start ∧
    start.carryOut [] [.allocate 0x1800 .any, .allocateFixed 0x5000 0x3000 .any,
        .allocateFixed 0x7000 0x2000 .any, .allocate 0x800 .any, .free 0x1000] =
      some (allocator, [.ordinary 0x8000 0x800, .fixed 0x5000 0x3000]) ∧
    allocator.stats.freeBytes + allocator.stats.allocatedBytes + allocator.space.alignLoss =
      0x8800 ∧
    allocator.stats.outstandingBytes = .ok allocator.stats.allocatedBytes ∧
    allocator.stats.liveOrdinary = 1 ∧ allocator.stats.liveFixed = 1 := by
  have outcome : ((create
      { name := "heap", base := 0x800, length := 0x8800, blockSize := 0x1000 }).toOption.bind
        fun start => (start.carryOut [] [.allocate 0x1800 .any, .allocateFixed 0x5000 0x3000 .any,
          .allocateFixed 0x7000 0x2000 .any, .allocate 0x800 .any, .free 0x1000]).map (·.2)) =
      some [.ordinary 0x8000 0x800, .fixed 0x5000 0x3000] := by decide +kernel
  obtain ⟨start, created, ran⟩ := Option.bind_eq_some_iff.mp outcome
  obtain ⟨⟨allocator, ledger⟩, run, rfl⟩ := Option.map_eq_some_iff.mp ran
  have started := eq_ok_of_toOption created
  obtain ⟨length, outstanding, -, -, -, ordinary, fixed⟩ := conserves started run
  exact ⟨start, allocator, started, run, length, outstanding, ordinary, fixed⟩

end Conservation

end Allocator

end GpuSched.Buddy
