import GpuSched.Proofs.Buddy.Decision

/-!
# When an ordinary request is granted

In a flat space an ordinary request is refused only if its block would be too large for the space,
or if callers hold part of each window in which the block could lie. That free halves are joined
lets the heads of the free lists tell this, and that the space starts as the greedy tiling puts a
block around each window.
-/
namespace GpuSched.Buddy

open Operation

namespace Space

/-- The address of a window, in blocks of its order from the start of the space. -/
def windowAt (space : Space) (order index : Nat) : Nat :=
  space.start + index * space.blockLength order

/-- A window starts at the address of a unit. -/
theorem windowAt_eq (space : Space) (order index : Nat) :
    space.windowAt order index = space.address (index * twoPow order) := by
  unfold windowAt address blockLength
  rw [Nat.mul_assoc, Nat.mul_comm (twoPow order)]

/-- A window lies in the space when its units do. -/
theorem windowAt_le_limit_iff {space : Space} {order index : Nat} :
    space.windowAt order index + space.blockLength order ≤ space.limit ↔
      index * twoPow order + twoPow order ≤ space.units := by
  have positive := Nat.mul_pos (twoPow_pos order) space.blockSize_pos
  rw [windowAt_eq, address_add_blockLength, address, units,
    Nat.le_div_iff_mul_le space.blockSize_pos, Nat.add_mul]
  omega

/-- A window of a space can be placed. -/
theorem placeable_window {space : Space} (aligned : space.start % space.blockSize = 0)
    {order index : Nat}
    (inside : space.windowAt order index + space.blockLength order ≤ space.limit) :
    Allocator.placeable space (space.windowAt order index) (space.blockLength order) = true := by
  have nonempty : space.blockLength order ≠ 0 :=
    Nat.mul_ne_zero (Nat.ne_of_gt space.blockSize_pos) (Nat.ne_of_gt (twoPow_pos order))
  have whole : space.blockLength order % space.blockSize = 0 := Nat.mul_mod_right _ _
  have from_unit : space.windowAt order index % space.blockSize = 0 := by
    rw [windowAt_eq, address, Nat.add_mul_mod_self_right, aligned]
  have after : space.start ≤ space.windowAt order index := Nat.le_add_right _ _
  unfold Allocator.placeable
  simp [nonempty, after, inside, from_unit, whole]

end Space

namespace Allocator

/-- Callers hold part of each window of an order. -/
def Full (allocator : Allocator) (ledger : List Holding) (order : Nat) : Prop :=
  ∀ index, allocator.space.windowAt order index + allocator.space.blockLength order ≤
      allocator.space.limit →
    allocator.Taken ledger (allocator.space.windowAt order index)
      (allocator.space.blockLength order)

section Availability

variable {request : SpaceRequest} {allocator : Allocator} {ledger : List Holding}
  {order len : Nat}

/-- A window that is not taken is a cell of the space that nothing handed out meets. -/
theorem not_taken_window_iff (kept : allocator.Kept request ledger)
    (tended : allocator.Tended ledger) {index : Nat}
    (inside : allocator.space.windowAt order index + allocator.space.blockLength order ≤
      allocator.space.limit) :
    ¬ allocator.Taken ledger (allocator.space.windowAt order index)
        (allocator.space.blockLength order) ↔
      Untaken allocator.arena.outline (index * twoPow order)
        (index * twoPow order + twoPow order) := by
  have placeable := Space.placeable_window (Space.start_mod_blockSize kept.space) inside
  have first : allocator.firstUnit (allocator.space.windowAt order index) =
      index * twoPow order := by
    unfold firstUnit
    rw [Space.windowAt_eq, Space.position_address]
  have last : allocator.lastUnit (allocator.space.windowAt order index)
      (allocator.space.blockLength order) = index * twoPow order + twoPow order := by
    unfold lastUnit Space.blockLength
    rw [Space.windowAt_eq, Space.position_address,
      Nat.mul_div_cancel_left _ allocator.space.blockSize_pos]
  rw [← untaken_iff kept tended placeable, first, last]

/-- Nothing that is handed out touches a free block. -/
theorem untaken_of_listed {units maxOrder first last : Nat} {blocks : BlockId → Option Block}
    (forest : Forest units maxOrder blocks) {id : BlockId} {block : Block}
    (found : blocks id = some block) (listed : block.isListed = true)
    (after : block.position ≤ first) (before : last ≤ block.position + block.span) :
    Untaken blocks first last := by
  rintro other held ⟨present, allocated⟩ touches
  unfold Block.Touches at touches
  -- Both leaves would have the unit where the later of the two ranges starts.
  have shared : LeafAt blocks other (max first held.position) :=
    ⟨held, present, Block.isLeaf_of_isAllocated (decide_eq_true allocated), by omega, by omega⟩
  have own : LeafAt blocks id (max first held.position) :=
    ⟨block, found, Block.isLeaf_of_isListed listed, by omega, by omega⟩
  obtain rfl := forest.leafAt_unique shared own
  obtain rfl : block = held := Option.some.inj (found.symm.trans present)
  exact Block.not_allocated_of_isListed listed allocated

/-- In a flat space a free block serves an order unless callers hold part of each window. -/
theorem serves_iff (kept : allocator.Kept request ledger) (tended : allocator.Tended ledger)
    (capped : order ≤ allocator.space.maxOrder) :
    allocator.Serves order .any ↔ ¬ allocator.Full ledger order := by
  have forest := tended.settled.forest
  unfold Full
  constructor
  · rintro ⟨id, block, found, listed, larger, -⟩ full
    obtain ⟨inside, aligned, -⟩ := forest.fits found
    obtain ⟨index, position⟩ : ∃ index, block.position = index * twoPow order := by
      obtain ⟨index, multiple⟩ := Nat.dvd_trans (twoPow_dvd_twoPow larger)
        (Nat.dvd_of_mod_eq_zero aligned)
      exact ⟨index, by rw [multiple, Nat.mul_comm]⟩
    have short : twoPow order ≤ block.span := twoPow_le_twoPow larger
    have within : allocator.space.windowAt order index + allocator.space.blockLength order ≤
        allocator.space.limit := by
      rw [Space.windowAt_le_limit_iff, ← position]
      omega
    refine (not_taken_window_iff kept tended within).mpr ?_ (full index within)
    exact untaken_of_listed forest found listed (by omega) (by omega)
  · intro not_full
    obtain ⟨index, window⟩ := not_forall.mp not_full
    obtain ⟨inside, free⟩ := Classical.not_imp.mp window
    have untaken := (not_taken_window_iff kept tended inside).mp free
    have is_cell : Tile.IsCell ⟨index * twoPow order, order⟩ allocator.space.units
        allocator.space.maxOrder :=
      ⟨Nat.mul_mod_left _ _, capped, Space.windowAt_le_limit_iff.mp inside⟩
    have unused : ∀ inner, HoldsAt allocator.arena.outline Block.isAllocated inner →
        ¬ Tile.Meets ⟨index * twoPow order, order⟩ inner := by
      rintro _ ⟨id, block, found, allocated, rfl⟩ meets
      have positive := twoPow_pos order
      have spans := twoPow_pos block.order
      have ends : block.position < index * twoPow order + twoPow order := meets.2
      have starts : index * twoPow order < block.position + block.span := meets.1
      refine untaken id block ⟨found, of_decide_eq_true allocated⟩ ?_
      unfold Block.Touches Block.span at *
      omega
    obtain ⟨id, block, found, listed, within⟩ := tended.tidy.exists_free_around is_cell unused
    have larger : twoPow order ≤ twoPow block.order := by
      have starts : block.position ≤ index * twoPow order := within.1
      have ends : index * twoPow order + twoPow order ≤ block.position + twoPow block.order :=
        within.2
      omega
    exact ⟨id, block, found, listed, le_of_twoPow_le larger, by simp [PageClass.accepts]⟩

/-- In every state that calls lead to, an ordinary request in a flat space is answered as the
callers can foresee: it is refused when its block would be larger than any of the space or when they
hold part of each window for it, and is granted otherwise. -/
theorem allocate_decides {start : Allocator} {calls : List Request}
    (created : create request = .ok start)
    (run : start.carryOut [] calls = some (allocator, ledger))
    (flat : allocator.space.directoryOrder = none) (nonempty : 0 < len)
    (least : allocator.space.LeastOrder len order) (wanted : PageClass)
    {result : Except Failure Nat} {after : Allocator}
    (call : allocate len wanted allocator = (result, after)) :
    (∀ asked needed greatest, result = .error (.refused (.tooLarge asked needed greatest)) ↔
      allocator.space.maxOrder < order ∧ asked = len ∧ needed = order ∧
        greatest = allocator.space.maxOrder) ∧
      (order ≤ allocator.space.maxOrder →
        (result = .error (.refused .exhausted) ↔ allocator.Full ledger order)) ∧
      (order ≤ allocator.space.maxOrder → ¬ allocator.Full ledger order →
        (∃ failure, result = .error failure ∧ allocator.Crowded failure) ∨
        (allocator.requested + len < Checked.limit64 →
          allocator.reserved + allocator.space.blockLength order < Checked.limit64 →
          ∃ address, result = .ok address)) := by
  obtain ⟨kept, tended⟩ := kept_and_tended created run
  have outcome := settles_allocate tended.settled tended.merged len wanted
  have any : allocator.space.classFor wanted = .any := by
    unfold Space.classFor
    rw [flat]
    rfl
  rw [Space.orderOf_eq least, any] at outcome
  have serves (capped : order ≤ allocator.space.maxOrder) := serves_iff kept tended capped
  cases result with
  | ok address =>
    obtain ⟨-, capped, free, -⟩ := outcome.of_ok call
    refine ⟨fun _ _ _ => iff_of_false nofun ?_, fun _ => iff_of_false nofun ?_,
      fun _ _ => .inr fun _ _ => ⟨address, rfl⟩⟩
    · rintro ⟨large, -⟩
      exact absurd large (Nat.not_lt.mpr capped)
    · exact (serves capped).mp free
  | error failure =>
    rcases outcome.of_error call with ⟨error, rfl, -, reason⟩ | ⟨-, capped, free, stopped⟩
    · cases reason with
      | empty empty => omega
      | tooLarge _ large =>
        rw [Space.orderOf_eq least] at large ⊢
        refine ⟨fun asked needed greatest => ?_, fun capped => absurd large (Nat.not_lt.mpr capped),
          fun capped => absurd large (Nat.not_lt.mpr capped)⟩
        simp only [Except.error.injEq, Failure.refused.injEq, Error.tooLarge.injEq, large, true_and]
        simp only [eq_comm]
      | exhausted _ capped nothing =>
        rw [Space.orderOf_eq least] at capped nothing
        have full := not_not.mp (mt (serves capped).mpr nothing)
        refine ⟨fun _ _ _ => iff_of_false nofun ?_, fun _ => iff_of_true rfl full,
          fun _ not_full => absurd full not_full⟩
        rintro ⟨large, -⟩
        exact absurd large (Nat.not_lt.mpr capped)
    · have not_full := (serves capped).mp free
      have not_refused : ∀ error, failure ≠ .refused error := by
        rintro error rfl
        rcases stopped with ⟨impossible, -⟩ | ⟨impossible, -⟩ <;> cases impossible
      refine ⟨fun _ _ _ => iff_of_false (fun same => not_refused _ (Except.error.inj same)) ?_,
        fun _ => iff_of_false (fun same => not_refused _ (Except.error.inj same)) not_full,
        fun _ _ => ?_⟩
      · rintro ⟨large, -⟩
        exact absurd large (Nat.not_lt.mpr capped)
      · rcases stopped with crowded | ⟨-, large⟩
        · exact .inl ⟨failure, rfl, crowded⟩
        · refine .inr fun asked given => ?_
          unfold Overflows at large
          omega

/-- In a space of five blocks with pairs at most, one pair is held and a block of the other is
placed. A third request for a pair is refused, as the fifth block has no partner. -/
theorem allocate_decides_of_short_space : ∃ start allocator : Allocator,
    create
      { name := "heap", base := 0x1000, length := 0x5000, blockSize := 0x1000,
        maxOrder := some 1 } = .ok start ∧
    start.carryOut [] [.allocateFixed 0x2000 0x1000 .any, .allocate 0x2000 .any] =
      some (allocator, [.ordinary 0x3000 0x2000, .fixed 0x2000 0x1000]) ∧
    allocator.space.LeastOrder 0x1001 1 ∧
    (allocate 0x1001 .any allocator).1 = .error (.refused .exhausted) ∧
    allocator.Full [.ordinary 0x3000 0x2000, .fixed 0x2000 0x1000] 1 := by
  have outcome : ((create
      { name := "heap", base := 0x1000, length := 0x5000, blockSize := 0x1000,
        maxOrder := some 1 }).toOption.bind fun start =>
        (start.carryOut [] [.allocateFixed 0x2000 0x1000 .any, .allocate 0x2000 .any]).map
          fun (allocator, ledger) => (ledger, allocator.space.directoryOrder,
            allocator.space.maxOrder, allocator.space.orderOf 0x1001,
            (allocate 0x1001 .any allocator).1)) =
      some ([.ordinary 0x3000 0x2000, .fixed 0x2000 0x1000], none, 1, 1,
        .error (.refused .exhausted)) := by decide +kernel
  obtain ⟨start, created, ran⟩ := Option.bind_eq_some_iff.mp outcome
  obtain ⟨⟨allocator, ledger⟩, run, all⟩ := Option.map_eq_some_iff.mp ran
  simp only [Prod.mk.injEq] at all
  obtain ⟨rfl, flat, greatest, order, answer⟩ := all
  have started := eq_ok_of_toOption created
  have least : allocator.space.LeastOrder 0x1001 1 := by
    have least := allocator.space.leastOrder_orderFor 0x1001
    rwa [show Alignment.orderFor _ = 1 from order] at least
  obtain ⟨-, exhausted, -⟩ := allocate_decides started run flat (by decide) least .any
    (Prod.ext answer rfl : allocate 0x1001 .any allocator = (.error (.refused .exhausted), _))
  exact ⟨start, allocator, started, run, least, answer,
    (exhausted (Nat.le_of_eq greatest.symm)).mp rfl⟩

/-- The whole of a flat space is free and its block is not granted, when as many bytes as there are
addresses would have been asked for over time: the sum is too large, and the call is stopped. -/
theorem stopped_with_room : ∃ start allocator : Allocator,
    create
      { name := "heap", base := 0, length := 0x8000000000000000,
        blockSize := 0x4000000000000000 } = .ok start ∧
    start.carryOut [] [.allocate 0x8000000000000000 .any, .free 0] = some (allocator, []) ∧
    allocator.space.directoryOrder = none ∧
    allocator.space.LeastOrder 0x8000000000000000 1 ∧ 1 ≤ allocator.space.maxOrder ∧
    ¬ allocator.Full [] 1 ∧
    (allocate 0x8000000000000000 .any allocator).1 = .error (.aborted .overflow) := by
  have outcome : ((create
      { name := "heap", base := 0, length := 0x8000000000000000,
        blockSize := 0x4000000000000000 }).toOption.bind fun start =>
        (start.carryOut [] [.allocate 0x8000000000000000 .any, .free 0]).map
          fun (allocator, ledger) => (ledger, allocator.space.directoryOrder,
            decide (allocator.space.orderOf 0x8000000000000000 = 1 ∧
              1 ≤ allocator.space.maxOrder ∧
              allocator.space.windowAt 1 0 + allocator.space.blockLength 1 ≤ allocator.space.limit),
            (allocate 0x8000000000000000 .any allocator).1)) =
      some ([], none, true, .error (.aborted .overflow)) := by decide +kernel
  obtain ⟨start, created, ran⟩ := Option.bind_eq_some_iff.mp outcome
  obtain ⟨⟨allocator, ledger⟩, run, all⟩ := Option.map_eq_some_iff.mp ran
  simp only [Prod.mk.injEq] at all
  obtain ⟨rfl, flat, sizes, answer⟩ := all
  obtain ⟨order, capped, inside⟩ := of_decide_eq_true sizes
  have least : allocator.space.LeastOrder 0x8000000000000000 1 := by
    have least := allocator.space.leastOrder_orderFor 0x8000000000000000
    rwa [show Alignment.orderFor _ = 1 from order] at least
  refine ⟨start, allocator, eq_ok_of_toOption created, run, flat, least,
    capped, fun full => ?_, answer⟩
  obtain ⟨holding, mem, -⟩ := full 0 inside
  cases mem

end Availability

end Allocator

end GpuSched.Buddy
