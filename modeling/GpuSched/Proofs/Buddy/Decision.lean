import GpuSched.Proofs.Buddy.Upkeep

/-!
# What a fixed request is answered

A fixed request is refused for three reasons only: the range is misplaced, it meets a range that a
caller holds, or in a space of GPU addresses a free block in it is set aside for another page size.
That the first two questions are answered from the last records below the end of the range rests on
the live ranges being disjoint.
-/
namespace GpuSched.Buddy

open Operation

/-- A range is empty, is not in the space, or does not start and end at blocks. -/
def Space.Misplaced (space : Space) (base len : Nat) : Prop :=
  len = 0 ∨ Checked.limit64 ≤ base + len ∨ base < space.start ∨ space.limit < base + len ∨
    base % space.blockSize ≠ 0 ∨ len % space.blockSize ≠ 0

/-- The ranges that are not misplaced are those that can be placed. -/
theorem Space.not_misplaced_iff {space : Space} (short : space.limit < Checked.limit64)
    {base len : Nat} : ¬ space.Misplaced base len ↔ Allocator.placeable space base len = true := by
  unfold Allocator.placeable Misplaced
  simp only [not_or, not_not, Nat.not_le, Nat.not_lt, Bool.and_eq_true, decide_eq_true_eq]
  constructor
  · rintro ⟨nonempty, -, after, inside, base_aligned, len_aligned⟩
    exact ⟨⟨⟨⟨by simpa using nonempty, after⟩, inside⟩, base_aligned⟩, len_aligned⟩
  · rintro ⟨⟨⟨⟨nonempty, after⟩, inside⟩, base_aligned⟩, len_aligned⟩
    exact ⟨by simpa using nonempty, Nat.lt_of_le_of_lt inside short, after, inside, base_aligned,
      len_aligned⟩

namespace Allocator

/-- In a space of GPU addresses, a free block in a range is set aside for another page size. -/
def Reserved (allocator : Allocator) (base len : Nat) (wanted : PageClass) : Prop :=
  allocator.space.directoryOrder.isSome = true ∧ ∃ id block,
    allocator.arena.block? id = some block ∧ block.isListed = true ∧
    allocator.space.address block.position < base + len ∧
    base < allocator.space.address block.position + allocator.space.blockLength block.order ∧
    block.pageClass.accepts wanted = false

section Decision

variable {request : SpaceRequest} {allocator : Allocator} {ledger : List Holding}
  {base len : Nat} {wanted : PageClass}

/-- A block has a unit of a range when it has an address of it. -/
theorem touches_iff (kept : allocator.Kept request ledger)
    (placeable : placeable allocator.space base len = true) (block : Block) :
    block.Touches (allocator.firstUnit base) (allocator.lastUnit base len) ↔
      allocator.space.address block.position < base + len ∧
      base < allocator.space.address block.position + allocator.space.blockLength block.order := by
  obtain ⟨start, nonempty, stop, -⟩ :=
    Space.of_placeable (Space.start_mod_blockSize kept.space) placeable
  have positive := twoPow_pos block.order
  have before : allocator.space.address block.position < base + len ↔
      block.position < allocator.lastUnit base len := by
    rw [← stop]
    exact Space.address_lt_iff
  have behind : base < allocator.space.address block.position +
      allocator.space.blockLength block.order ↔
        allocator.firstUnit base < block.position + block.span := by
    rw [Space.address_add_blockLength]
    nth_rewrite 1 [← start]
    exact Space.address_lt_iff
  have longer : allocator.firstUnit base < allocator.lastUnit base len :=
    Nat.lt_add_of_pos_right nonempty
  rw [before, behind]
  unfold Block.Touches Block.span
  omega

/-- A block that is handed out lies in a range that a caller holds. -/
theorem exists_holding_around (kept : allocator.Kept request ledger)
    (tended : allocator.Tended ledger) {id : BlockId} {block : Block}
    (handed : HandedOut allocator.arena.outline id block) :
    ∃ holding ∈ ledger, holding.start ≤ allocator.space.address block.position ∧
      allocator.space.address block.position + allocator.space.blockLength block.order ≤
        allocator.stopOf holding := by
  obtain ⟨owner, owns⟩ := tended.owned handed
  obtain ⟨holding, mem, rfl⟩ := tended.granted (hasRecord_of_owns owns)
  refine ⟨holding, mem, ?_⟩
  cases holding with
  | ordinary address len =>
    obtain ⟨held, same, present, at_held, -, start, order, -⟩ := kept.block_of_ordinary mem
    obtain rfl : id = held := Option.some.inj (owns.symm.trans present)
    obtain rfl : block = same := Option.some.inj (handed.1.symm.trans at_held)
    refine ⟨Nat.le_of_eq start, Nat.le_of_eq ?_⟩
    unfold stopOf
    dsimp only
    rw [order, Option.getD_some, ← start]
  | fixed base len =>
    obtain ⟨range, present, there⟩ := owns
    obtain ⟨same, also, rfl⟩ := kept.live _ mem
    obtain rfl : range = same := Option.some.inj (present.symm.trans also)
    obtain ⟨placeable, placed⟩ := kept.recorded.fixed present
    obtain ⟨tile, mem_tile, held, at_held, -, position, order⟩ := exists_partner_of placed there
    obtain rfl : block = held := Option.some.inj (handed.1.symm.trans at_held)
    obtain ⟨start, -, stop, -⟩ :=
      Space.of_placeable (Space.start_mod_blockSize kept.space) placeable
    obtain ⟨after, ends, -⟩ := of_mem_tiling mem_tile
    unfold Tile.stop at ends
    rw [← position] at after ends
    rw [← order] at ends
    constructor
    · calc
        base = allocator.space.address (allocator.space.position base) := start.symm
        _ ≤ allocator.space.address block.position := Space.address_le_address after
    · rw [Space.address_add_blockLength]
      calc
        allocator.space.address (block.position + twoPow block.order) ≤
            allocator.space.address (allocator.space.position base +
              range.len / allocator.space.blockSize) := Space.address_le_address ends
        _ = base + range.len := stop

/-- Nothing in a range is handed out when the range meets no held one. -/
theorem untaken_iff (kept : allocator.Kept request ledger) (tended : allocator.Tended ledger)
    (placeable : placeable allocator.space base len = true) :
    Untaken allocator.arena.outline (allocator.firstUnit base) (allocator.lastUnit base len) ↔
      ¬ allocator.Taken ledger base len := by
  obtain ⟨start, nonempty, stop, -⟩ :=
    Space.of_placeable (Space.start_mod_blockSize kept.space) placeable
  constructor
  · rintro untaken ⟨holding, mem, below, reaches⟩
    obtain ⟨first, last, longer, from_start, to_stop, -, spans⟩ := kept.units mem
    have starts : first < allocator.lastUnit base len := by
      refine Space.address_lt_iff.mp (?_ : allocator.space.address first < _)
      rwa [from_start, stop]
    have ends : allocator.firstUnit base < last := by
      refine Space.address_lt_iff.mp (?_ : _ < allocator.space.address last)
      rwa [to_stop, start]
    have positive : allocator.firstUnit base < allocator.lastUnit base len :=
      Nat.lt_add_of_pos_right nonempty
    obtain ⟨id, owns, block, found, -, covers⟩ :=
      spans (max first (allocator.firstUnit base)) (by omega) (by omega)
    obtain ⟨held, at_held, allocated⟩ := kept.recorded.allocated owns
    obtain rfl : block = held := Option.some.inj (found.symm.trans at_held)
    refine untaken id block ⟨found, allocated⟩ ?_
    unfold Block.Touches
    unfold Block.Covers at covers
    omega
  · intro free id block handed touches
    obtain ⟨holding, mem, from_start, to_stop⟩ := exists_holding_around kept tended handed
    obtain ⟨before, behind⟩ := (touches_iff kept placeable block).mp touches
    exact free ⟨holding, mem, by omega, by omega⟩

/-- The free blocks in a range serve a class unless one is set aside for another page size. -/
theorem served_iff (kept : allocator.Kept request ledger)
    (placeable : placeable allocator.space base len = true) (wanted : PageClass) :
    Served allocator.arena.outline (allocator.space.classFor wanted)
        (allocator.firstUnit base) (allocator.lastUnit base len) ↔
      ¬ allocator.Reserved base len wanted := by
  unfold Space.classFor
  constructor
  · rintro served ⟨directory, id, block, found, listed, before, behind, other⟩
    rw [if_pos directory] at served
    have touches := (touches_iff kept placeable block).mpr ⟨before, behind⟩
    have serves := served id block.outline (Arena.outline_of_block? found)
      (by rwa [Block.isListed_outline]) (by
        unfold Block.Touches Block.span at touches ⊢
        rwa [Block.outline_position, Block.outline_order])
    rw [Block.outline_pageClass, other] at serves
    cases serves
  · intro free id drawn found listed touches
    obtain ⟨block, under, rfl⟩ := Arena.block?_of_outline found
    rw [Block.isListed_outline] at listed
    by_cases directory : allocator.space.directoryOrder.isSome = true
    · rw [if_pos directory]
      by_contra refuses
      obtain ⟨before, behind⟩ := (touches_iff kept placeable block.outline).mp touches
      rw [Block.outline_position] at before behind
      rw [Block.outline_order] at behind
      rw [Block.outline_pageClass, Bool.not_eq_true] at refuses
      exact free ⟨directory, id, block, under, listed, before, behind, refuses⟩
    · rw [if_neg directory]
      simp [PageClass.accepts]

/-- A misplaced range is refused. -/
theorem refuses_misplaced (wanted : PageClass)
    (misplaced : placeable allocator.space base len = false) :
    (allocateFixed base len wanted).Yields allocator (fun _ _ => False)
      (fun failure _ => failure = .refused (.invalidRange base len)) := by
  unfold allocateFixed
  simp only [yields_bind, yields_get]
  rw [misplaced]
  exact rfl

/-- A range that meets a held one is refused. -/
theorem refuses_taken (kept : allocator.Kept request ledger) (tended : allocator.Tended ledger)
    (wanted : PageClass) (placeable : placeable allocator.space base len = true)
    (taken : allocator.Taken ledger base len) :
    (allocateFixed base len wanted).Yields allocator (fun _ _ => False)
      (fun failure _ => failure = .refused (.rangeInUse base len)) := by
  obtain ⟨answer, run, meets⟩ := exists_overlaps kept tended base len
  unfold allocateFixed
  simp only [yields_bind, yields_get]
  rw [placeable]
  simp only [Bool.not_true, Bool.false_eq_true, if_false, yields_bind, yields_get]
  rw [run, yields_lift_ok, meets.mpr taken]
  exact rfl

/-- A range that meets no held one is granted or refused for the sake of other page sizes, unless
the handles run out or a total of bytes is too large. -/
theorem decides_untaken (kept : allocator.Kept request ledger) (tended : allocator.Tended ledger)
    (wanted : PageClass) (placeable : placeable allocator.space base len = true)
    (free : ¬ allocator.Taken ledger base len) :
    (allocateFixed base len wanted).Yields allocator
      (fun answer _ => answer = base ∧ ¬ allocator.Reserved base len wanted)
      (fun failure _ => allocator.Crowded failure ∨
        failure = .refused .exhausted ∧ allocator.Reserved base len wanted ∨
        failure = .aborted .overflow ∧ ¬ allocator.Reserved base len wanted ∧
          (Checked.limit64 ≤ allocator.requested + len ∨
            Checked.limit64 ≤ allocator.reserved + len)) := by
  obtain ⟨busy, checked, meets⟩ := exists_overlaps kept tended base len
  have untaken := (untaken_iff kept tended placeable).mpr free
  have serves := served_iff kept placeable wanted
  refine (settles_allocateFixed tended.settled tended.merged
    (Space.start_mod_blockSize kept.space) checked).mono ?_ ?_
  · rintro answer after ⟨rfl, -, -, -, served⟩
    exact ⟨rfl, serves.mp (served untaken)⟩
  · rintro failure after (⟨-, refused, -⟩ | ⟨-, ⟨-, rfl, -⟩ | ⟨-, crowded | ⟨rfl, -, not_served⟩ |
      ⟨rfl, large, served⟩⟩⟩)
    · rw [placeable] at refused
      cases refused
    · exact absurd (meets.mp rfl) free
    · exact .inl crowded
    · exact .inr (.inl ⟨rfl, not_not.mp (mt serves.mpr (not_served untaken))⟩)
    · exact .inr (.inr ⟨rfl, serves.mp (served untaken), large⟩)

/-- In every state that calls lead to, a fixed request is answered as the callers can foresee. -/
theorem allocateFixed_decides {start : Allocator} {calls : List Request}
    (created : create request = .ok start)
    (run : start.carryOut [] calls = some (allocator, ledger))
    (base len : Nat) (wanted : PageClass) {result : Except Failure Nat} {after : Allocator}
    (call : allocateFixed base len wanted allocator = (result, after)) :
    (result = .error (.refused (.invalidRange base len)) ↔ allocator.space.Misplaced base len) ∧
      (¬ allocator.space.Misplaced base len →
        (result = .error (.refused (.rangeInUse base len)) ↔ allocator.Taken ledger base len)) ∧
      (¬ allocator.space.Misplaced base len → ¬ allocator.Taken ledger base len →
        (∃ failure, result = .error failure ∧ allocator.Crowded failure) ∨
        (result = .error (.refused .exhausted) ↔ allocator.Reserved base len wanted) ∧
          (¬ allocator.Reserved base len wanted →
            allocator.requested + len < Checked.limit64 →
            allocator.reserved + len < Checked.limit64 → result = .ok base)) ∧
      (¬ allocator.space.Misplaced base len → ¬ allocator.Taken ledger base len →
        allocator.space.directoryOrder = none → ∀ error, result ≠ .error (.refused error)) := by
  obtain ⟨kept, tended⟩ := kept_and_tended created run
  have placed : ¬ allocator.space.Misplaced base len ↔ placeable allocator.space base len = true :=
    Space.not_misplaced_iff (Space.limit_lt kept.space)
  by_cases misplaced : allocator.space.Misplaced base len
  · have refused := Bool.eq_false_of_not_eq_true fun ready => placed.mpr ready misplaced
    have answer := (refuses_misplaced wanted refused).eq_error call
    exact ⟨iff_of_true answer misplaced, fun well => absurd misplaced well,
      fun well => absurd misplaced well, fun well => absurd misplaced well⟩
  have ready := placed.mp misplaced
  by_cases taken : allocator.Taken ledger base len
  · have answer := (refuses_taken kept tended wanted ready taken).eq_error call
    subst answer
    refine ⟨iff_of_false ?_ misplaced, fun _ => iff_of_true rfl taken,
      fun _ free => absurd taken free, fun _ free => absurd taken free⟩
    intro same
    cases same
  have outcome := decides_untaken kept tended wanted ready taken
  suffices decided : (∀ error, result = .error (.refused error) →
        error = .exhausted ∧ allocator.Reserved base len wanted) ∧
      ((∃ failure, result = .error failure ∧ allocator.Crowded failure) ∨
        (result = .error (.refused .exhausted) ↔ allocator.Reserved base len wanted) ∧
          (¬ allocator.Reserved base len wanted →
            allocator.requested + len < Checked.limit64 →
            allocator.reserved + len < Checked.limit64 → result = .ok base)) by
    obtain ⟨refusals, answer⟩ := decided
    refine ⟨iff_of_false ?_ misplaced, fun _ => iff_of_false ?_ taken, fun _ _ => answer, ?_⟩
    · intro same
      cases (refusals _ same).1
    · intro same
      cases (refusals _ same).1
    · intro _ _ flat error same
      have directory := (refusals error same).2.1
      rw [flat] at directory
      cases directory
  cases result with
  | ok answer =>
    obtain ⟨rfl, serves⟩ := outcome.of_ok call
    exact ⟨fun _ => nofun,
      .inr ⟨iff_of_false nofun serves, fun _ _ _ => rfl⟩⟩
  | error failure =>
    rcases outcome.of_error call with crowded | ⟨rfl, reserved⟩ | ⟨rfl, serves, large⟩
    · refine ⟨fun error same => ?_, .inl ⟨failure, rfl, crowded⟩⟩
      rw [crowded.1] at same
      cases same
    · refine ⟨fun error same => ?_, .inr ⟨iff_of_true rfl reserved, absurd reserved⟩⟩
      cases same
      exact ⟨rfl, reserved⟩
    · refine ⟨fun error same => ?_, .inr ⟨iff_of_false ?_ serves, fun _ asked given => ?_⟩⟩
      · cases same
      · intro same
        cases same
      · omega

/-- A space of GPU addresses in which a small page was taken refuses a big page beside it: the range
is well placed and meets no held one, but what is free there is set aside for small pages. -/
theorem allocateFixed_decides_of_small_page : ∃ start allocator : Allocator,
    create
      { name := "gva", base := 0, length := 0x10000, blockSize := 0x1000,
        directoryLength := some 0x4000 } = .ok start ∧
    start.carryOut [] [.allocate 0x1000 .small] = some (allocator, [.ordinary 0 0x1000]) ∧
    (allocateFixed 0x2000 0x1000 .big allocator).1 = .error (.refused .exhausted) ∧
    ¬ allocator.space.Misplaced 0x2000 0x1000 ∧
    ¬ allocator.Taken [.ordinary 0 0x1000] 0x2000 0x1000 ∧
    allocator.Reserved 0x2000 0x1000 .big := by
  have outcome : ((create
      { name := "gva", base := 0, length := 0x10000, blockSize := 0x1000,
        directoryLength := some 0x4000 }).toOption.bind fun start =>
        (start.carryOut [] [.allocate 0x1000 .small]).map fun (allocator, ledger) =>
          (ledger, (allocateFixed 0x2000 0x1000 .big allocator).1)) =
      some ([.ordinary 0 0x1000], .error (.refused .exhausted)) := by decide +kernel
  obtain ⟨start, created, ran⟩ := Option.bind_eq_some_iff.mp outcome
  obtain ⟨⟨allocator, ledger⟩, run, all⟩ := Option.map_eq_some_iff.mp ran
  obtain ⟨rfl, answer⟩ := Prod.mk.inj all
  have started := eq_ok_of_toOption created
  obtain ⟨misplaced, taken, reserved, -⟩ := allocateFixed_decides started run 0x2000 0x1000 .big
    (Prod.ext answer rfl :
      allocateFixed 0x2000 0x1000 .big allocator = (.error (.refused .exhausted), _))
  have well : ¬ allocator.space.Misplaced 0x2000 0x1000 := by
    intro wrong
    cases misplaced.mpr wrong
  have free : ¬ allocator.Taken [.ordinary 0 0x1000] 0x2000 0x1000 := by
    intro met
    cases (taken well).mpr met
  refine ⟨start, allocator, started, run, answer, well, free, ?_⟩
  rcases reserved well free with ⟨failure, same, crowded⟩ | ⟨decides, -⟩
  · rw [crowded.1] at same
    cases same
  · exact decides.mp rfl

/-- A range that nobody holds is not granted in a flat space when as many bytes as there are
addresses would have been asked for over time: the sum is too large, and the call is stopped. -/
theorem stopped_of_large_totals : ∃ start allocator : Allocator,
    create
      { name := "heap", base := 0, length := 0x8000000000000000,
        blockSize := 0x4000000000000000 } = .ok start ∧
    start.carryOut [] [.allocateFixed 0 0x8000000000000000 .any, .free 0] = some (allocator, []) ∧
    ¬ allocator.space.Misplaced 0 0x8000000000000000 ∧
    ¬ allocator.Taken [] 0 0x8000000000000000 ∧
    ¬ allocator.Reserved 0 0x8000000000000000 .any ∧
    (allocateFixed 0 0x8000000000000000 .any allocator).1 = .error (.aborted .overflow) := by
  have outcome : ((create
      { name := "heap", base := 0, length := 0x8000000000000000,
        blockSize := 0x4000000000000000 }).toOption.bind fun start =>
        (start.carryOut [] [.allocateFixed 0 0x8000000000000000 .any, .free 0]).map
          fun (allocator, ledger) => (ledger, allocator.space.directoryOrder,
            placeable allocator.space 0 0x8000000000000000,
            (allocateFixed 0 0x8000000000000000 .any allocator).1)) =
      some ([], none, true, .error (.aborted .overflow)) := by decide +kernel
  obtain ⟨start, created, ran⟩ := Option.bind_eq_some_iff.mp outcome
  obtain ⟨⟨allocator, ledger⟩, run, all⟩ := Option.map_eq_some_iff.mp ran
  simp only [Prod.mk.injEq] at all
  obtain ⟨rfl, flat, ready, answer⟩ := all
  have started := eq_ok_of_toOption created
  obtain ⟨kept, -⟩ := kept_and_tended started run
  refine ⟨start, allocator, started, run, ?_, ?_, ?_, answer⟩
  · exact (Space.not_misplaced_iff (Space.limit_lt kept.space)).mpr ready
  · rintro ⟨holding, mem, -⟩
    cases mem
  · rintro ⟨directory, -⟩
    rw [flat] at directory
    cases directory

end Decision

end Allocator

end GpuSched.Buddy
