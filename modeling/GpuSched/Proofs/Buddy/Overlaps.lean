import GpuSched.Proofs.Buddy.Tending

/-!
# Ranges that meet a held one

Whether a range meets one that a caller holds is told from the last ordinary and the last fixed
allocation that start before its end. This rests on the held ranges being disjoint: of those that
start before the end, the one that starts last reaches furthest.
-/
namespace GpuSched.Buddy

open Operation

/-- Of two units the one with the lower address comes first. -/
theorem Space.address_lt_iff {space : Space} {first second : Nat} :
    space.address first < space.address second ↔ first < second := by
  constructor
  · intro before
    by_contra behind
    exact absurd before (Nat.not_lt.mpr (Space.address_le_address (Nat.le_of_not_lt behind)))
  · intro before
    have longer := Nat.mul_lt_mul_of_pos_right before space.blockSize_pos
    unfold Space.address
    omega

namespace Allocator

/-- A range meets a range that a caller holds. -/
def Taken (allocator : Allocator) (ledger : List Holding) (base len : Nat) : Prop :=
  ∃ holding ∈ ledger, holding.start < base + len ∧ base < allocator.stopOf holding

section Overlaps

variable {request : SpaceRequest} {allocator : Allocator} {ledger : List Holding}
  {base len : Nat}

/-- Callers hold one range at most from an address. -/
theorem Kept.eq_of_start (kept : allocator.Kept request ledger) {one other : Holding}
    (mem : one ∈ ledger) (mem' : other ∈ ledger) (same : one.start = other.start) :
    one = other := by
  by_contra different
  have symmetric : Std.Symm fun one other : Holding => one.owner ≠ other.owner :=
    ⟨fun _ _ apart => apart.symm⟩
  have distinct : one.owner ≠ other.owner := kept.distinct.forall mem mem' different
  exact kept.start_ne mem mem' distinct same

/-- A held range is not empty. -/
theorem Kept.start_lt_stop (kept : allocator.Kept request ledger) {holding : Holding}
    (mem : holding ∈ ledger) : holding.start < allocator.stopOf holding := by
  obtain ⟨first, last, nonempty, start, stop, -, -⟩ := kept.units mem
  rw [← start, ← stop]
  exact Space.address_lt_iff.mpr nonempty

/-- Callers hold ranges that do not meet. -/
theorem Kept.apart (kept : allocator.Kept request ledger) :
    ledger.Pairwise fun one other =>
      allocator.stopOf one ≤ other.start ∨ allocator.stopOf other ≤ one.start := by
  refine kept.distinct.imp_of_mem fun {one other} mem mem' distinct => ?_
  obtain ⟨first, last, nonempty, start, stop, -, spans⟩ := kept.units mem
  obtain ⟨first', last', nonempty', start', stop', -, spans'⟩ := kept.units mem'
  rw [← start, ← stop, ← start', ← stop']
  exact (kept.recorded.disjoint kept.tiled distinct spans spans' nonempty nonempty').imp
    Space.address_le_address Space.address_le_address

/-- When a held range reaches beyond an address, so does one that starts later. -/
theorem Kept.reaches_of_le (kept : allocator.Kept request ledger) {one other : Holding}
    (mem : one ∈ ledger) (mem' : other ∈ ledger) (le : one.start ≤ other.start)
    (reaches : base < allocator.stopOf one) : base < allocator.stopOf other := by
  rcases Nat.eq_or_lt_of_le le with same | before
  · rwa [← kept.eq_of_start mem mem' same]
  · have distinct : one.owner ≠ other.owner := by
      intro same
      have starts : one.start = other.start := by
        cases one <;> cases other <;> simp_all [Holding.owner, Holding.start]
      omega
    obtain ⟨first, last, nonempty, start, stop, -, spans⟩ := kept.units mem
    obtain ⟨first', last', nonempty', start', stop', -, spans'⟩ := kept.units mem'
    have nonempty_other := kept.start_lt_stop mem'
    rcases kept.recorded.disjoint kept.tiled distinct spans spans' nonempty nonempty' with le | le
    · have ends : allocator.space.address last ≤ allocator.space.address first' :=
        Space.address_le_address le
      omega
    · have ends : allocator.space.address last' ≤ allocator.space.address first :=
        Space.address_le_address le
      have nonempty_one := kept.start_lt_stop mem
      omega

/-- Whether the last ordinary allocation that starts below a limit reaches beyond a base. -/
def ordinaryReaches (allocator : Allocator) (base limit : Nat) : Except Failure Bool :=
  match allocator.ordinary.lastBelow? limit with
  | some (address, id) => do
      let block ← allocator.arena.block id
      pure (decide (base < address + allocator.space.blockLength block.order))
  | none => pure false

/-- Whether the last fixed allocation that starts below a limit reaches beyond a base. -/
def fixedReaches (allocator : Allocator) (base limit : Nat) : Bool :=
  match allocator.fixed.lastBelow? limit with
  | some (address, range) => decide (base < address + range.len)
  | none => false

/-- A range overlaps with what the last ordinary or the last fixed allocation says. -/
theorem overlaps_eq_ok {ordinary : Bool}
    (run : allocator.ordinaryReaches base (base + len) = .ok ordinary) :
    allocator.overlaps base len = .ok (ordinary || allocator.fixedReaches base (base + len)) := by
  unfold ordinaryReaches at run
  unfold overlaps
  cases last : allocator.ordinary.lastBelow? (base + len) with
  | none =>
    rw [last] at run
    obtain rfl := pure_eq_ok_iff.mp run
    rfl
  | some found =>
    obtain ⟨address, id⟩ := found
    rw [last] at run
    obtain ⟨block, under, reaches⟩ := bind_eq_ok_iff.mp run
    obtain rfl := pure_eq_ok_iff.mp reaches
    dsimp only
    rw [under]
    rfl

section LastBelow

variable {Value : Type} {table : Table Value} (make : Nat → Nat → Holding) {limit : Nat}

/-- Where no record starts below a limit, no range does that is held by such a record. -/
theorem not_exists_below
    (listed : ∀ {address len}, make address len ∈ ledger →
      ∃ value, table.find? address = some value)
    (last : table.lastBelow? limit = none) : ¬ ∃ address len, make address len ∈ ledger ∧
      address < limit ∧ base < allocator.stopOf (make address len) := by
  rintro ⟨address, len, mem, below, -⟩
  obtain ⟨value, found⟩ := listed mem
  obtain ⟨_, _, some_last, -⟩ := Table.exists_lastBelow? found below
  rw [last] at some_last
  cases some_last

/-- Of the ranges held by records below a limit, one reaches beyond a base just when the one of the
last record does. -/
theorem Kept.exists_below_iff (kept : allocator.Kept request ledger)
    (starts : ∀ address len, (make address len).start = address)
    (listed : ∀ {address len}, make address len ∈ ledger →
      ∃ value, table.find? address = some value)
    {address : Nat} {value : Value} (last : table.lastBelow? limit = some (address, value))
    {len : Nat} (mem : make address len ∈ ledger) :
    (∃ address len, make address len ∈ ledger ∧ address < limit ∧
      base < allocator.stopOf (make address len)) ↔
      base < allocator.stopOf (make address len) := by
  constructor
  · rintro ⟨other, len', mem', below', reaches⟩
    obtain ⟨held, found⟩ := listed mem'
    obtain ⟨_, _, same_last, le⟩ := Table.exists_lastBelow? found below'
    rw [last] at same_last
    cases same_last
    exact kept.reaches_of_le mem' mem (by rwa [starts, starts]) reaches
  · exact fun reaches => ⟨address, len, mem, (Table.of_lastBelow? last).2, reaches⟩

end LastBelow

/-- The last ordinary allocation reaches beyond a base just when some ordinary one does. -/
theorem exists_ordinaryReaches (kept : allocator.Kept request ledger)
    (tended : allocator.Tended ledger) (base limit : Nat) :
    ∃ answer, allocator.ordinaryReaches base limit = .ok answer ∧
      (answer = true ↔ ∃ address len, Holding.ordinary address len ∈ ledger ∧ address < limit ∧
        base < allocator.stopOf (.ordinary address len)) := by
  have listed : ∀ {address len}, Holding.ordinary address len ∈ ledger →
      ∃ id, allocator.ordinary.find? address = some id := fun mem => by
    obtain ⟨id, -, found, -⟩ := kept.live _ mem
    exact ⟨id, found⟩
  unfold ordinaryReaches
  cases last : allocator.ordinary.lastBelow? limit with
  | none =>
    exact ⟨false, rfl, Bool.noConfusion, fun reaches =>
      absurd reaches (not_exists_below .ordinary listed last)⟩
  | some entry =>
    obtain ⟨address, id⟩ := entry
    obtain ⟨found, -⟩ := Table.of_lastBelow? last
    obtain ⟨len, mem⟩ := tended.exists_ordinary found
    obtain ⟨held, block, present, at_id, allocated, -, order, -⟩ := kept.block_of_ordinary mem
    obtain rfl : id = held := Option.some.inj (found.symm.trans present)
    have unlisted : block.isListed = false := Block.isListed_of_allocated allocated
    have under := Arena.block_eq_ok_iff.mpr (Arena.block?_of_unlisted_outline at_id unlisted)
    have stop : address + allocator.space.blockLength block.order =
        allocator.stopOf (.ordinary address len) := by
      unfold stopOf
      dsimp only
      rw [order, Option.getD_some]
    refine ⟨decide (base < allocator.stopOf (.ordinary address len)), ?_, ?_⟩
    · dsimp only
      rw [under, ← stop]
      rfl
    · rw [decide_eq_true_eq]
      exact (kept.exists_below_iff .ordinary (fun _ _ => rfl) listed last mem).symm

/-- The last fixed allocation reaches beyond a base just when some fixed one does. -/
theorem fixedReaches_iff (kept : allocator.Kept request ledger) (tended : allocator.Tended ledger)
    (base limit : Nat) : allocator.fixedReaches base limit = true ↔
      ∃ address len, Holding.fixed address len ∈ ledger ∧ address < limit ∧
        base < allocator.stopOf (.fixed address len) := by
  have listed : ∀ {address len}, Holding.fixed address len ∈ ledger →
      ∃ range, allocator.fixed.find? address = some range := fun mem => by
    obtain ⟨range, found, -⟩ := kept.live _ mem
    exact ⟨range, found⟩
  unfold fixedReaches
  cases last : allocator.fixed.lastBelow? limit with
  | none =>
    exact ⟨Bool.noConfusion, fun reaches => absurd reaches (not_exists_below .fixed listed last)⟩
  | some entry =>
    obtain ⟨address, range⟩ := entry
    obtain ⟨found, -⟩ := Table.of_lastBelow? last
    obtain ⟨len, mem⟩ := tended.exists_fixed found
    obtain ⟨held, present, same⟩ := kept.live _ mem
    obtain rfl : range = held := Option.some.inj (found.symm.trans present)
    dsimp only
    rw [decide_eq_true_eq, same]
    exact (kept.exists_below_iff .fixed (fun _ _ => rfl) listed last mem).symm

/-- The check for overlaps finds the held ranges that a range meets. -/
theorem exists_overlaps (kept : allocator.Kept request ledger) (tended : allocator.Tended ledger)
    (base len : Nat) : ∃ answer, allocator.overlaps base len = .ok answer ∧
      (answer = true ↔ allocator.Taken ledger base len) := by
  obtain ⟨ordinary, run, meets⟩ := exists_ordinaryReaches kept tended base (base + len)
  refine ⟨_, overlaps_eq_ok run, ?_⟩
  rw [Bool.or_eq_true, meets, fixedReaches_iff kept tended]
  constructor
  · rintro (⟨address, len', mem, below, reaches⟩ | ⟨address, len', mem, below, reaches⟩)
    · exact ⟨_, mem, below, reaches⟩
    · exact ⟨_, mem, below, reaches⟩
  · rintro ⟨holding, mem, below, reaches⟩
    cases holding with
    | ordinary address len' => exact .inl ⟨address, len', mem, below, reaches⟩
    | fixed address len' => exact .inr ⟨address, len', mem, below, reaches⟩

end Overlaps

end Allocator

end GpuSched.Buddy
