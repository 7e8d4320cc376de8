import GpuSched.Proofs.Buddy.Canonical
import GpuSched.Proofs.Buddy.Tally
import Mathlib.Algebra.BigOperators.Group.Finset.Sigma
import Mathlib.Order.Interval.Finset.Nat

/-!
# Counting units

The leaves of a forest lie side by side, so the blocks of a kind cover as many units as their
numbers in each order say. In a tidy forest what is free and what is handed out make up the whole
space.
-/
namespace GpuSched.Buddy

/-- The units of the blocks of a kind. -/
def covered (blocks : BlockId → Option Block) (kind : Block → Bool) : Set Nat :=
  {unit | ∃ id block, blocks id = some block ∧ kind block = true ∧ block.Covers unit}

/-- The units of the block under a handle. -/
def unitsAt (blocks : BlockId → Option Block) (id : BlockId) : Finset Nat :=
  match blocks id with
  | some block => Finset.Ico block.position (block.position + block.span)
  | none => ∅

/-- The order of the block under a handle. -/
def orderUnder (blocks : BlockId → Option Block) (id : BlockId) : Nat :=
  ((blocks id).map (·.order)).getD 0

section Coverage

variable {units maxOrder : Nat} {blocks : BlockId → Option Block} {kind : Block → Bool}
  {id other : BlockId} {block : Block} {unit : Nat}

/-- A unit is under a handle when its block covers it. -/
theorem mem_unitsAt_iff :
    unit ∈ unitsAt blocks id ↔ ∃ block, blocks id = some block ∧ block.Covers unit := by
  unfold unitsAt Block.Covers
  cases blocks id with
  | none => simp
  | some block => simp

/-- Two leaves have no unit in common. -/
theorem Forest.disjoint_unitsAt (forest : Forest units maxOrder blocks) {held : Block}
    (found : blocks id = some block) (leaf : block.isLeaf = true)
    (present : blocks other = some held) (other_leaf : held.isLeaf = true) (apart : id ≠ other) :
    Disjoint (unitsAt blocks id) (unitsAt blocks other) := by
  rw [Finset.disjoint_left]
  intro unit here there
  obtain ⟨same, at_id, covers⟩ := mem_unitsAt_iff.mp here
  obtain rfl : block = same := Option.some.inj (found.symm.trans at_id)
  obtain ⟨same, at_other, other_covers⟩ := mem_unitsAt_iff.mp there
  obtain rfl : held = same := Option.some.inj (present.symm.trans at_other)
  exact apart (forest.leafAt_unique ⟨block, found, leaf, covers⟩
    ⟨held, present, other_leaf, other_covers⟩)

/-- The units of a kind are those under the handles of the kind. -/
theorem covered_eq_biUnion {ids : Finset BlockId}
    (mem_ids : ∀ id, id ∈ ids ↔ ∃ block, blocks id = some block ∧ kind block = true) :
    covered blocks kind = (ids.biUnion (unitsAt blocks) : Set Nat) := by
  ext unit
  simp only [Finset.mem_coe, Finset.mem_biUnion, mem_ids, mem_unitsAt_iff]
  constructor
  · rintro ⟨id, block, found, of_kind, covers⟩
    exact ⟨id, ⟨block, found, of_kind⟩, block, found, covers⟩
  · rintro ⟨id, ⟨block, found, of_kind⟩, same, also, covers⟩
    obtain rfl : block = same := Option.some.inj (found.symm.trans also)
    exact ⟨id, block, found, of_kind, covers⟩

/-- The handles of a kind and an order are those of the kind whose block has the order. -/
theorem handlesOf_eq_filter {ids : Finset BlockId}
    (mem_ids : ∀ id, id ∈ ids ↔ ∃ block, blocks id = some block ∧ kind block = true) (order : Nat) :
    handlesOf blocks kind order = (ids.filter (orderUnder blocks · = order) : Set BlockId) := by
  ext id
  rw [Finset.mem_coe, Finset.mem_filter, mem_ids]
  unfold orderUnder
  constructor
  · rintro ⟨block, found, of_kind, rfl⟩
    exact ⟨⟨block, found, of_kind⟩, by rw [found, Option.map_some, Option.getD_some]⟩
  · rintro ⟨⟨block, found, of_kind⟩, order⟩
    rw [found, Option.map_some, Option.getD_some] at order
    exact ⟨block, found, of_kind, order⟩

/-- Leaves of a kind cover as many units as their numbers say. -/
theorem Forest.ncard_covered (forest : Forest units maxOrder blocks)
    (finite : FinitelyMany blocks)
    (leaves : ∀ block : Block, kind block = true → block.isLeaf = true) :
    (covered blocks kind).ncard =
      ∑ order ∈ Finset.range (maxOrder + 1),
        (handlesOf blocks kind order).ncard * twoPow order := by
  have few : {id | ∃ block, blocks id = some block ∧ kind block = true}.Finite := by
    refine finite.subset ?_
    rintro id ⟨block, found, -⟩ empty
    rw [found] at empty
    cases empty
  obtain ⟨ids, mem_ids⟩ : ∃ ids : Finset BlockId,
      ∀ id, id ∈ ids ↔ ∃ block, blocks id = some block ∧ kind block = true :=
    ⟨few.toFinset, fun _ => few.mem_toFinset⟩
  have apart : ∀ id ∈ ids, ∀ other ∈ ids, id ≠ other →
      Disjoint (unitsAt blocks id) (unitsAt blocks other) := by
    intro id mem other mem' distinct
    obtain ⟨block, found, of_kind⟩ := (mem_ids id).mp mem
    obtain ⟨held, present, also_kind⟩ := (mem_ids other).mp mem'
    exact forest.disjoint_unitsAt found (leaves block of_kind) present (leaves held also_kind)
      distinct
  have capped : ∀ id ∈ ids, orderUnder blocks id ∈ Finset.range (maxOrder + 1) := by
    intro id mem
    obtain ⟨block, found, -⟩ := (mem_ids id).mp mem
    unfold orderUnder
    rw [found, Option.map_some, Option.getD_some, Finset.mem_range]
    exact Nat.lt_succ_of_le (forest.fits found).capped
  calc (covered blocks kind).ncard
      = ∑ id ∈ ids, (unitsAt blocks id).card := by
        rw [covered_eq_biUnion mem_ids, Set.ncard_coe_finset, Finset.card_biUnion apart]
    _ = ∑ id ∈ ids, twoPow (orderUnder blocks id) := by
        refine Finset.sum_congr rfl fun id mem => ?_
        obtain ⟨block, found, -⟩ := (mem_ids id).mp mem
        unfold unitsAt orderUnder
        rw [found, Option.map_some, Option.getD_some, Nat.card_Ico, Nat.add_sub_cancel_left,
          Block.span]
    _ = ∑ order ∈ Finset.range (maxOrder + 1),
          ∑ id ∈ ids with orderUnder blocks id = order, twoPow order :=
        (Finset.sum_fiberwise_of_maps_to' capped twoPow).symm
    _ = ∑ order ∈ Finset.range (maxOrder + 1),
          (handlesOf blocks kind order).ncard * twoPow order := by
        refine Finset.sum_congr rfl fun order _ => ?_
        rw [handlesOf_eq_filter mem_ids, Set.ncard_coe_finset]
        exact Finset.sum_const_nat fun _ _ => rfl

/-- In a tidy forest each unit of the space is either free or handed out. -/
theorem Tidy.ncard_covered (tidy : Tidy units maxOrder blocks) :
    (covered blocks Block.isListed).ncard + (covered blocks Block.isAllocated).ncard = units := by
  have inside : ∀ {kind unit}, unit ∈ covered blocks kind → unit < units := by
    rintro kind unit ⟨id, block, found, -, -, before⟩
    exact Nat.lt_of_lt_of_le before (tidy.forest.fits found).inside
  have both : covered blocks Block.isListed ∪ covered blocks Block.isAllocated =
      (Finset.range units : Set Nat) := by
    ext unit
    rw [Finset.mem_coe, Finset.mem_range]
    constructor
    · rintro (free | handed)
      · exact inside free
      · exact inside handed
    · intro below
      obtain ⟨id, ⟨block, found, leaf, covers⟩, -⟩ := tidy.forest.tiled unit below
      cases allocated : block.isAllocated with
      | true => exact .inr ⟨id, block, found, allocated, covers⟩
      | false =>
        have listed := Block.isListed_of_leaf leaf (tidy.not_loose found) allocated
        exact .inl ⟨id, block, found, listed, covers⟩
  have apart : Disjoint (covered blocks Block.isListed) (covered blocks Block.isAllocated) := by
    rw [Set.disjoint_left]
    rintro unit ⟨id, block, found, listed, covers⟩ ⟨other, held, present, allocated, also_covers⟩
    obtain rfl := tidy.forest.leafAt_unique
      ⟨block, found, Block.isLeaf_of_isListed listed, covers⟩
      ⟨held, present, Block.isLeaf_of_isAllocated allocated, also_covers⟩
    obtain rfl : block = held := Option.some.inj (found.symm.trans present)
    exact Block.not_allocated_of_isListed listed (of_decide_eq_true allocated)
  have few : ∀ kind, (covered blocks kind).Finite := fun kind =>
    (Set.finite_lt_nat units).subset fun unit mem => inside mem
  rw [← Set.ncard_union_eq apart (few _) (few _), both, Set.ncard_coe_finset, Finset.card_range]

end Coverage

end GpuSched.Buddy
