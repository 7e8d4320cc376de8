import GpuSched.Buddy.Block
import Mathlib.Logic.Function.Basic

/-!
# Forests of blocks

The blocks of a space form a forest: a block that is split has two halves that know it and one
another, and every unit of the space lies in exactly one leaf. Splitting a leaf, joining the halves
of a block and giving a leaf another use keep a forest, and so does one more tile at its end. The
free lists play no part here, so a forest is a property of blocks under handles alone.
-/
namespace GpuSched.Buddy

namespace Block

/-- Whether the block is not split. -/
def isLeaf (block : Block) : Bool :=
  match block.state with
  | .split _ _ => false
  | .loose | .listed _ _ | .allocated => true

/-- Whether a unit lies in the block. -/
def Covers (block : Block) (unit : Nat) : Prop :=
  block.position ≤ unit ∧ unit < block.position + block.span

/-- The block lies in a space at a multiple of its length, and is not too large. -/
structure Fits (block : Block) (units maxOrder : Nat) : Prop where
  inside : block.position + block.span ≤ units
  aligned : block.position % block.span = 0
  capped : block.order ≤ maxOrder

/-- Where a block lies does not depend on its use. -/
theorem Fits.withState {block : Block} {units maxOrder : Nat} (fits : block.Fits units maxOrder)
    (state : BlockState) : ({ block with state } : Block).Fits units maxOrder :=
  ⟨fits.inside, fits.aligned, fits.capped⟩

/-- A leaf is not split. -/
theorem not_split_of_isLeaf {block : Block} (leaf : block.isLeaf = true) (left right : BlockId) :
    block.state ≠ .split left right := by
  intro split
  unfold isLeaf at leaf
  rw [split] at leaf
  cases leaf

/-- A loose block is a leaf. -/
theorem isLeaf_of_loose {block : Block} (loose : block.state = .loose) : block.isLeaf = true := by
  unfold isLeaf
  rw [loose]

/-- A block that is handed out is a leaf. -/
theorem isLeaf_of_allocated {block : Block} (allocated : block.state = .allocated) :
    block.isLeaf = true := by
  unfold isLeaf
  rw [allocated]

/-- A split block is on no list. -/
theorem isListed_of_not_leaf {block : Block} (no_leaf : block.isLeaf = false) :
    block.isListed = false := by
  unfold isLeaf at no_leaf
  unfold isListed
  split at no_leaf <;> simp_all

/-- A block that is split in either way is no leaf. -/
theorem isLeaf_of_split {block : Block} {first second : BlockId}
    (divided : block.state = .split first second ∨ block.state = .split second first) :
    block.isLeaf = false := by
  unfold isLeaf
  rcases divided with divided | divided <;> rw [divided]

/-- A block with two halves has the units of both. -/
theorem span_of_order_succ {block : Block} {order : Nat} (above : block.order = order + 1) :
    block.span = twoPow order + twoPow order := by
  unfold span
  rw [above, twoPow_succ]
  omega

end Block

/-- The leaf under a handle contains a unit. -/
def LeafAt (blocks : BlockId → Option Block) (id : BlockId) (unit : Nat) : Prop :=
  ∃ block, blocks id = some block ∧ block.isLeaf = true ∧ block.Covers unit

/-- A block of this place and family is under a handle. -/
def HalfAt (blocks : BlockId → Option Block) (id : BlockId) (position order : Nat)
    (family : Family) : Prop :=
  ∃ block, blocks id = some block ∧ block.position = position ∧ block.order = order ∧
    block.family = some family

/-- Blocks under handles form a forest whose leaves cover the units below a number. -/
structure Forest (units maxOrder : Nat) (blocks : BlockId → Option Block) : Prop where
  fits : ∀ {id block}, blocks id = some block → block.Fits units maxOrder
  /-- A half is one of the two halves of its parent. -/
  parent : ∀ {id block family}, blocks id = some block → block.family = some family →
    ∃ parent, blocks family.parent = some parent ∧
      (parent.state = .split id family.buddy ∨ parent.state = .split family.buddy id)
  /-- A split block has its two halves. -/
  halves : ∀ {id block left right}, blocks id = some block → block.state = .split left right →
    ∃ order, block.order = order + 1 ∧
      HalfAt blocks left block.position order ⟨id, right⟩ ∧
      HalfAt blocks right (block.position + twoPow order) order ⟨id, left⟩
  /-- Every unit lies in exactly one leaf. -/
  tiled : ∀ unit < units, ∃! id, LeafAt blocks id unit

section Updates

variable {blocks : BlockId → Option Block} {id other : BlockId} {unit : Nat}

/-- A handle without a block is not the handle of a block. -/
theorem ne_of_fresh {block : Block} (found : blocks id = some block) (fresh : blocks other = none) :
    other ≠ id := by
  rintro rfl
  rw [found] at fresh
  cases fresh

/-- A block of changed blocks is the new one or one of the others. -/
theorem update_eq_some_iff {changed : Option Block} {held : Block} :
    Function.update blocks id changed other = some held ↔
      other = id ∧ changed = some held ∨ other ≠ id ∧ blocks other = some held := by
  by_cases same : other = id
  · subst same
    simp
  · simp [same]

/-- Another block under a handle changes which leaf is there and no other leaf. -/
theorem leafAt_update {changed : Option Block} :
    LeafAt (Function.update blocks id changed) other unit ↔
      other = id ∧ (∃ block, changed = some block ∧ block.isLeaf = true ∧ block.Covers unit) ∨
        other ≠ id ∧ LeafAt blocks other unit := by
  unfold LeafAt
  simp only [update_eq_some_iff]
  by_cases same : other = id <;> simp [same]

/-- A change elsewhere leaves a half where it is. -/
theorem HalfAt.update_of_ne {position order : Nat} {family : Family} {changed : Option Block}
    (half : HalfAt blocks other position order family) (apart : other ≠ id) :
    HalfAt (Function.update blocks id changed) other position order family := by
  unfold HalfAt
  rwa [Function.update_of_ne apart]

/-- A change of the state of a block leaves the halves where they are. -/
theorem HalfAt.update_state {position order : Nat} {family : Family} {block : Block}
    (half : HalfAt blocks other position order family) (found : blocks id = some block)
    (state : BlockState) :
    HalfAt (Function.update blocks id (some { block with state })) other position order family := by
  by_cases same : other = id
  · subst same
    obtain ⟨held, under, place⟩ := half
    rw [found, Option.some.injEq] at under
    subst under
    exact ⟨_, Function.update_self .., place⟩
  · exact half.update_of_ne same

end Updates

namespace Forest

variable {units maxOrder : Nat} {blocks : BlockId → Option Block} {id other : BlockId}
  {block : Block}

/-- The leaf that contains a unit of the space is one only. -/
theorem leafAt_unique (forest : Forest units maxOrder blocks) {unit : Nat}
    (first : LeafAt blocks id unit) (second : LeafAt blocks other unit) : id = other := by
  have ⟨block, found, _, covers⟩ := first
  have inside := (forest.fits found).inside
  exact (forest.tiled unit (by have := covers.2; omega)).unique first second

/-- The parent of a half is no leaf. -/
theorem parent_ne (forest : Forest units maxOrder blocks) {half : Block} {family : Family}
    (found : blocks other = some half) (related : half.family = some family)
    (under : blocks id = some block) (leaf : block.isLeaf = true) : family.parent ≠ id := by
  rintro rfl
  obtain ⟨parent, above, split⟩ := forest.parent found related
  rw [under, Option.some.injEq] at above
  subst above
  rcases split with split | split
  · exact Block.not_split_of_isLeaf leaf _ _ split
  · exact Block.not_split_of_isLeaf leaf _ _ split

/-- Without blocks no unit is covered. -/
theorem none : Forest 0 maxOrder fun _ => none where
  fits found := by cases found
  parent found := by cases found
  halves found := by cases found
  tiled unit below := by cases below

/-- A leaf may change its use. -/
theorem relabel (forest : Forest units maxOrder blocks) (found : blocks id = some block)
    (leaf : block.isLeaf = true) {state : BlockState}
    (still : ({ block with state } : Block).isLeaf = true) :
    Forest units maxOrder (Function.update blocks id (some { block with state })) where
  fits present := by
    rcases update_eq_some_iff.mp present with ⟨rfl, same⟩ | ⟨-, present⟩
    · obtain rfl := Option.some.inj same
      exact (forest.fits found).withState state
    · exact forest.fits present
  parent {other held family} present related := by
    obtain ⟨before, under, related⟩ : ∃ before, blocks other = some before ∧
        before.family = some family := by
      rcases update_eq_some_iff.mp present with ⟨rfl, same⟩ | ⟨-, present⟩
      · obtain rfl := Option.some.inj same
        exact ⟨block, found, related⟩
      · exact ⟨held, present, related⟩
    obtain ⟨parent, above, split⟩ := forest.parent under related
    have apart := forest.parent_ne under related found leaf
    exact ⟨parent, by rw [Function.update_of_ne apart, above], split⟩
  halves {other held left right} present split := by
    rcases update_eq_some_iff.mp present with ⟨-, same⟩ | ⟨-, present⟩
    · obtain rfl := Option.some.inj same
      exact absurd split (Block.not_split_of_isLeaf still left right)
    · obtain ⟨order, above, left_half, right_half⟩ := forest.halves present split
      exact ⟨order, above, left_half.update_state found state,
        right_half.update_state found state⟩
  tiled unit below := by
    have same_leaves : ∀ other,
        LeafAt (Function.update blocks id (some { block with state })) other unit ↔
          LeafAt blocks other unit := by
      intro other
      rw [leafAt_update]
      by_cases same : other = id
      · subst same
        simp [LeafAt, found, leaf, still, Block.Covers, Block.span]
      · simp [same]
    simp only [same_leaves]
    exact forest.tiled unit below

/-- A new block at the end of a forest adds its units. -/
theorem plant (forest : Forest units maxOrder blocks) (fresh : blocks id = .none)
    (position : block.position = units) (aligned : block.position % block.span = 0)
    (capped : block.order ≤ maxOrder) (root : block.family = .none) (leaf : block.isLeaf = true) :
    Forest (units + block.span) maxOrder (Function.update blocks id (some block)) := by
  have used {other : BlockId} {held : Block} (under : blocks other = some held) : other ≠ id :=
    (ne_of_fresh under fresh).symm
  have kept {other : BlockId} {held : Block} (under : blocks other = some held) :
      Function.update blocks id (some block) other = some held := by
    rw [Function.update_of_ne (used under), under]
  constructor
  case fits =>
    intro other held present
    rcases update_eq_some_iff.mp present with ⟨-, same⟩ | ⟨-, present⟩
    · obtain rfl := Option.some.inj same
      exact ⟨by omega, aligned, capped⟩
    · have fits := forest.fits present
      exact ⟨Nat.le_trans fits.inside (Nat.le_add_right _ _), fits.aligned, fits.capped⟩
  case parent =>
    intro other held family present related
    rcases update_eq_some_iff.mp present with ⟨-, same⟩ | ⟨-, present⟩
    · obtain rfl := Option.some.inj same
      rw [root] at related
      cases related
    · obtain ⟨parent, above, divided⟩ := forest.parent present related
      exact ⟨parent, kept above, divided⟩
  case halves =>
    intro other held left right present split
    rcases update_eq_some_iff.mp present with ⟨-, same⟩ | ⟨-, present⟩
    · obtain rfl := Option.some.inj same
      exact absurd split (Block.not_split_of_isLeaf leaf left right)
    · obtain ⟨order, above, ⟨leftHalf, at_left, left_place⟩, rightHalf, at_right, right_place⟩ :=
        forest.halves present split
      exact ⟨order, above, ⟨leftHalf, kept at_left, left_place⟩, rightHalf, kept at_right,
        right_place⟩
  case tiled =>
    intro unit below
    simp only [leafAt_update]
    by_cases old : unit < units
    · obtain ⟨other, at_other, only⟩ := forest.tiled unit old
      have ⟨_, under, _⟩ := at_other
      refine ⟨other, .inr ⟨used under, at_other⟩, ?_⟩
      rintro another (⟨-, held, same, -, covers⟩ | ⟨-, at_another⟩)
      · obtain rfl := Option.some.inj same
        have := covers.1
        omega
      · exact only another at_another
    · refine ⟨id, .inl ⟨rfl, block, rfl, leaf, by omega, by omega⟩, ?_⟩
      rintro another (⟨same, -⟩ | ⟨-, held, under, -, covers⟩)
      · exact same
      · have := covers.2
        have := (forest.fits under).inside
        omega

end Forest

/-- Two blocks are the halves of a block. -/
structure AreHalves (id left right : BlockId) (block leftHalf rightHalf : Block) (order : Nat) :
    Prop where
  above : block.order = order + 1
  left_position : leftHalf.position = block.position
  left_order : leftHalf.order = order
  left_family : leftHalf.family = some ⟨id, right⟩
  right_position : rightHalf.position = block.position + twoPow order
  right_order : rightHalf.order = order
  right_family : rightHalf.family = some ⟨id, left⟩

namespace AreHalves

variable {id left right : BlockId} {block leftHalf rightHalf : Block} {order : Nat}

/-- A unit of a block lies in its left half or in its right one. -/
theorem covers_iff (halves : AreHalves id left right block leftHalf rightHalf order) {unit : Nat} :
    block.Covers unit ↔ leftHalf.Covers unit ∨ rightHalf.Covers unit := by
  unfold Block.Covers
  rw [Block.span_of_order_succ halves.above, halves.left_position, halves.right_position,
    Block.span, Block.span, halves.left_order, halves.right_order]
  omega

/-- No unit lies in both halves of a block. -/
theorem not_both (halves : AreHalves id left right block leftHalf rightHalf order) {unit : Nat}
    (first : leftHalf.Covers unit) : ¬ rightHalf.Covers unit := by
  unfold Block.Covers at first ⊢
  rw [halves.left_position, Block.span, halves.left_order] at first
  rw [halves.right_position]
  omega

/-- The halves of a block fit where the block fits. -/
theorem fits (halves : AreHalves id left right block leftHalf rightHalf order)
    {units maxOrder : Nat} (whole : block.Fits units maxOrder) :
    leftHalf.Fits units maxOrder ∧ rightHalf.Fits units maxOrder := by
  have span := Block.span_of_order_succ halves.above
  have inside := whole.inside
  have capped := whole.capped
  have multiple : block.position % twoPow order = 0 := by
    have aligned := Nat.dvd_of_mod_eq_zero whole.aligned
    rw [span, ← Nat.two_mul] at aligned
    exact Nat.mod_eq_zero_of_dvd (Nat.dvd_trans (Nat.dvd_mul_left _ 2) aligned)
  have left_span : leftHalf.span = twoPow order := by unfold Block.span; rw [halves.left_order]
  have right_span : rightHalf.span = twoPow order := by unfold Block.span; rw [halves.right_order]
  have above := halves.above
  refine ⟨⟨?_, ?_, ?_⟩, ⟨?_, ?_, ?_⟩⟩
  · rw [halves.left_position, left_span]
    omega
  · rw [halves.left_position, left_span, multiple]
  · rw [halves.left_order]
    omega
  · rw [halves.right_position, right_span]
    omega
  · rw [halves.right_position, right_span, Nat.add_mod_right, multiple]
  · rw [halves.right_order]
    omega

end AreHalves

/-- The blocks after a block got two halves. -/
def withHalves (blocks : BlockId → Option Block) (id left right : BlockId)
    (block leftHalf rightHalf : Block) : BlockId → Option Block :=
  Function.update (Function.update (Function.update blocks
    left (some leftHalf)) right (some rightHalf)) id
      (some { block with state := .split left right })

section Splitting

variable {units maxOrder order : Nat} {blocks : BlockId → Option Block}
  {id left right other : BlockId} {block leftHalf rightHalf held : Block}

/-- A block after a split is the divided one, one of the halves, or an old block. -/
theorem withHalves_eq_some_iff (left_apart : left ≠ id) (right_apart : right ≠ id)
    (distinct : left ≠ right) :
    withHalves blocks id left right block leftHalf rightHalf other = some held ↔
      other = id ∧ { block with state := .split left right } = held ∨
      other = right ∧ rightHalf = held ∨ other = left ∧ leftHalf = held ∨
      other ≠ id ∧ other ≠ right ∧ other ≠ left ∧ blocks other = some held := by
  unfold withHalves
  simp only [update_eq_some_iff, Option.some.injEq]
  by_cases at_id : other = id
  · simp [at_id, left_apart.symm, right_apart.symm]
  · by_cases at_right : other = right
    · simp [at_right, right_apart, distinct.symm]
    · simp [at_id, at_right]

/-- The left half stands under its handle. -/
theorem withHalves_left (left_apart : left ≠ id) (distinct : left ≠ right) :
    withHalves blocks id left right block leftHalf rightHalf left = some leftHalf := by
  unfold withHalves
  rw [Function.update_of_ne left_apart, Function.update_of_ne distinct, Function.update_self]

/-- The right half stands under its handle. -/
theorem withHalves_right (right_apart : right ≠ id) :
    withHalves blocks id left right block leftHalf rightHalf right = some rightHalf := by
  unfold withHalves
  rw [Function.update_of_ne right_apart, Function.update_self]

/-- Under the other handles nothing changes. -/
theorem withHalves_of_ne (not_id : other ≠ id) (not_left : other ≠ left)
    (not_right : other ≠ right) :
    withHalves blocks id left right block leftHalf rightHalf other = blocks other := by
  unfold withHalves
  rw [Function.update_of_ne not_id, Function.update_of_ne not_right, Function.update_of_ne not_left]

/-- The other blocks stay when a block gets two halves under new handles. -/
theorem withHalves_of_found (left_fresh : blocks left = none) (right_fresh : blocks right = none)
    (under : blocks other = some held) (apart : other ≠ id) :
    withHalves blocks id left right block leftHalf rightHalf other = some held := by
  rw [withHalves_of_ne apart (ne_of_fresh under left_fresh).symm
    (ne_of_fresh under right_fresh).symm, under]

/-- A block that gets halves of its own stays the half it is, and so do the others. -/
theorem HalfAt.withHalves {position lower : Nat} {family : Family}
    (half : HalfAt blocks other position lower family) (found : blocks id = some block)
    (left_fresh : blocks left = none) (right_fresh : blocks right = none) :
    HalfAt (withHalves blocks id left right block leftHalf rightHalf) other position lower
      family := by
  obtain ⟨held, under, place⟩ := half
  by_cases same : other = id
  · subst same
    rw [found, Option.some.injEq] at under
    subst under
    exact ⟨_, Function.update_self .., place⟩
  · exact ⟨held, withHalves_of_found left_fresh right_fresh under same, place⟩

/-- The leaves at a unit after a split are the halves that it lies in and the old leaves. -/
theorem leafAt_withHalves_iff (found : blocks id = some block) (left_fresh : blocks left = none)
    (right_fresh : blocks right = none) (distinct : left ≠ right)
    (left_leaf : leftHalf.isLeaf = true) (right_leaf : rightHalf.isLeaf = true) {unit : Nat} :
    LeafAt (withHalves blocks id left right block leftHalf rightHalf) other unit ↔
      other = right ∧ rightHalf.Covers unit ∨ other = left ∧ leftHalf.Covers unit ∨
        other ≠ id ∧ LeafAt blocks other unit := by
  have left_apart := ne_of_fresh found left_fresh
  have right_apart := ne_of_fresh found right_fresh
  constructor
  · rintro ⟨held, present, holds, covers⟩
    rcases (withHalves_eq_some_iff left_apart right_apart distinct).mp present with
      ⟨rfl, rfl⟩ | ⟨rfl, rfl⟩ | ⟨rfl, rfl⟩ | ⟨apart, -, -, present⟩
    · cases holds
    · exact .inl ⟨rfl, covers⟩
    · exact .inr (.inl ⟨rfl, covers⟩)
    · exact .inr (.inr ⟨apart, held, present, holds, covers⟩)
  · rintro (⟨rfl, covers⟩ | ⟨rfl, covers⟩ | ⟨apart, held, under, holds, covers⟩)
    · exact ⟨rightHalf, withHalves_right right_apart, right_leaf, covers⟩
    · exact ⟨leftHalf, withHalves_left left_apart distinct, left_leaf, covers⟩
    · exact ⟨held, withHalves_of_found left_fresh right_fresh under apart, holds, covers⟩

/-- After a split each unit lies in one leaf: a unit of the block in one of its halves, another one
where it was. -/
theorem Forest.tiled_withHalves (forest : Forest units maxOrder blocks)
    (found : blocks id = some block) (leaf : block.isLeaf = true)
    (left_fresh : blocks left = .none) (right_fresh : blocks right = .none)
    (distinct : left ≠ right) (halves : AreHalves id left right block leftHalf rightHalf order)
    (left_leaf : leftHalf.isLeaf = true) (right_leaf : rightHalf.isLeaf = true) {unit : Nat}
    (below : unit < units) :
    ∃! other, LeafAt (withHalves blocks id left right block leftHalf rightHalf) other unit := by
  have leaves {other : BlockId} :
      LeafAt (withHalves blocks id left right block leftHalf rightHalf) other unit ↔ _ :=
    leafAt_withHalves_iff found left_fresh right_fresh distinct left_leaf right_leaf
  obtain ⟨old, at_old, only⟩ := forest.tiled unit below
  by_cases covers : block.Covers unit
  · obtain rfl : id = old := only id ⟨block, found, leaf, covers⟩
    rcases halves.covers_iff.mp covers with on_left | on_right
    · refine ⟨left, leaves.mpr (.inr (.inl ⟨rfl, on_left⟩)), fun other at_other => ?_⟩
      rcases leaves.mp at_other with ⟨rfl, on_right⟩ | ⟨rfl, -⟩ | ⟨apart, at_other⟩
      · exact absurd on_right (halves.not_both on_left)
      · rfl
      · exact absurd (only other at_other) apart
    · refine ⟨right, leaves.mpr (.inl ⟨rfl, on_right⟩), fun other at_other => ?_⟩
      rcases leaves.mp at_other with ⟨rfl, -⟩ | ⟨rfl, on_left⟩ | ⟨apart, at_other⟩
      · rfl
      · exact absurd on_right (halves.not_both on_left)
      · exact absurd (only other at_other) apart
  · have apart : old ≠ id := by
      rintro rfl
      obtain ⟨held, under, -, holds⟩ := at_old
      rw [found, Option.some.injEq] at under
      exact covers (under ▸ holds)
    refine ⟨old, leaves.mpr (.inr (.inr ⟨apart, at_old⟩)), fun other at_other => ?_⟩
    rcases leaves.mp at_other with ⟨rfl, on_right⟩ | ⟨rfl, on_left⟩ | ⟨-, at_other⟩
    · exact absurd (halves.covers_iff.mpr (.inr on_right)) covers
    · exact absurd (halves.covers_iff.mpr (.inl on_left)) covers
    · exact only other at_other

/-- A leaf that is split leaves its units to its halves. -/
theorem Forest.split (forest : Forest units maxOrder blocks) (found : blocks id = some block)
    (leaf : block.isLeaf = true) (left_fresh : blocks left = .none)
    (right_fresh : blocks right = .none) (distinct : left ≠ right)
    (halves : AreHalves id left right block leftHalf rightHalf order)
    (left_leaf : leftHalf.isLeaf = true) (right_leaf : rightHalf.isLeaf = true) :
    Forest units maxOrder (withHalves blocks id left right block leftHalf rightHalf) := by
  have left_apart := ne_of_fresh found left_fresh
  have right_apart := ne_of_fresh found right_fresh
  have divided : withHalves blocks id left right block leftHalf rightHalf id =
      some { block with state := .split left right } := Function.update_self ..
  have blocks_after {other : BlockId} {held : Block} :
      withHalves blocks id left right block leftHalf rightHalf other = some held ↔ _ :=
    withHalves_eq_some_iff left_apart right_apart distinct
  have parent_kept {other : BlockId} {held : Block} {family : Family}
      (under : blocks other = some held) (related : held.family = some family) :
      ∃ parent, withHalves blocks id left right block leftHalf rightHalf family.parent =
          some parent ∧
        (parent.state = .split other family.buddy ∨ parent.state = .split family.buddy other) := by
    obtain ⟨parent, above, split⟩ := forest.parent under related
    have apart := forest.parent_ne under related found leaf
    exact ⟨parent, withHalves_of_found left_fresh right_fresh above apart, split⟩
  constructor
  case fits =>
    intro other held present
    have fits := forest.fits found
    rcases blocks_after.mp present with ⟨-, rfl⟩ | ⟨-, rfl⟩ | ⟨-, rfl⟩ | ⟨-, -, -, present⟩
    · exact fits.withState _
    · exact (halves.fits fits).2
    · exact (halves.fits fits).1
    · exact forest.fits present
  case parent =>
    intro other held family present related
    rcases blocks_after.mp present with ⟨rfl, rfl⟩ | ⟨rfl, rfl⟩ | ⟨rfl, rfl⟩ | ⟨-, -, -, present⟩
    · exact parent_kept found related
    · obtain rfl := Option.some.inj (halves.right_family.symm.trans related)
      exact ⟨_, divided, .inr rfl⟩
    · obtain rfl := Option.some.inj (halves.left_family.symm.trans related)
      exact ⟨_, divided, .inl rfl⟩
    · exact parent_kept present related
  case halves =>
    intro other held first second present split
    rcases blocks_after.mp present with ⟨rfl, rfl⟩ | ⟨rfl, rfl⟩ | ⟨rfl, rfl⟩ | ⟨-, -, -, present⟩
    · obtain ⟨rfl, rfl⟩ := BlockState.split.inj split
      exact ⟨order, halves.above, ⟨leftHalf, withHalves_left left_apart distinct,
        halves.left_position, halves.left_order, halves.left_family⟩, ⟨rightHalf,
        withHalves_right right_apart, halves.right_position, halves.right_order,
        halves.right_family⟩⟩
    · exact absurd split (Block.not_split_of_isLeaf right_leaf _ _)
    · exact absurd split (Block.not_split_of_isLeaf left_leaf _ _)
    · obtain ⟨lower, higher, first_half, second_half⟩ := forest.halves present split
      exact ⟨lower, higher, first_half.withHalves found left_fresh right_fresh,
        second_half.withHalves found left_fresh right_fresh⟩
  case tiled =>
    exact fun unit below => forest.tiled_withHalves found leaf left_fresh right_fresh distinct
      halves left_leaf right_leaf below

end Splitting

/-- The blocks after a block got rid of its halves. -/
def withoutHalves (blocks : BlockId → Option Block) (id left right : BlockId) (block : Block) :
    BlockId → Option Block :=
  Function.update (Function.update (Function.update blocks left none) right none) id
    (some { block with state := .loose })

section Joining

variable {units maxOrder : Nat} {blocks : BlockId → Option Block}
  {id left right other : BlockId} {block leftHalf rightHalf held : Block}

/-- A block after a join is the joined one or an old block other than the halves. -/
theorem withoutHalves_eq_some_iff :
    withoutHalves blocks id left right block other = some held ↔
      other = id ∧ { block with state := .loose } = held ∨
      other ≠ id ∧ other ≠ right ∧ other ≠ left ∧ blocks other = some held := by
  unfold withoutHalves
  simp only [update_eq_some_iff, Option.some.injEq]
  grind

/-- Under the other handles nothing changes. -/
theorem withoutHalves_of_ne (not_id : other ≠ id) (not_left : other ≠ left)
    (not_right : other ≠ right) :
    withoutHalves blocks id left right block other = blocks other := by
  unfold withoutHalves
  rw [Function.update_of_ne not_id, Function.update_of_ne not_right, Function.update_of_ne not_left]

/-- A block does not depend on which of its halves is named first when it gets rid of them. -/
theorem withoutHalves_comm :
    withoutHalves blocks id left right block = withoutHalves blocks id right left block := by
  funext other
  refine Option.ext fun held => ?_
  rw [withoutHalves_eq_some_iff, withoutHalves_eq_some_iff]
  grind

/-- The halves of a split block in a forest. -/
theorem Forest.areHalves (forest : Forest units maxOrder blocks) (found : blocks id = some block)
    (split : block.state = .split left right) (at_left : blocks left = some leftHalf)
    (at_right : blocks right = some rightHalf) :
    ∃ order, AreHalves id left right block leftHalf rightHalf order := by
  obtain ⟨order, above, ⟨held, under, position, same, family⟩,
    ⟨other, beside, next, equal, relation⟩⟩ := forest.halves found split
  rw [at_left, Option.some.injEq] at under
  rw [at_right, Option.some.injEq] at beside
  subst under beside
  exact ⟨order, above, position, same, family, next, equal, relation⟩

/-- A parent is split into the half and its buddy and has the next order. -/
theorem Forest.parent_above (forest : Forest units maxOrder blocks) {family : Family}
    (found : blocks id = some block) (related : block.family = some family) :
    ∃ parent, blocks family.parent = some parent ∧ parent.order = block.order + 1 ∧
      (parent.state = .split id family.buddy ∨ parent.state = .split family.buddy id) := by
  obtain ⟨parent, above, divided⟩ := forest.parent found related
  refine ⟨parent, above, ?_, divided⟩
  rcases divided with split | split
  · obtain ⟨order, higher, ⟨half, under, -, same, -⟩, -⟩ := forest.halves above split
    rw [found, Option.some.injEq] at under
    rw [higher, under, same]
  · obtain ⟨order, higher, -, half, under, -, same, -⟩ := forest.halves above split
    rw [found, Option.some.injEq] at under
    rw [higher, under, same]

/-- The blocks that are split stay when another one gets rid of halves that are leaves. -/
theorem withoutHalves_of_not_leaf (at_left : blocks left = some leftHalf)
    (at_right : blocks right = some rightHalf) (left_leaf : leftHalf.isLeaf = true)
    (right_leaf : rightHalf.isLeaf = true) (under : blocks other = some held)
    (no_leaf : held.isLeaf = false) (apart : other ≠ id) :
    withoutHalves blocks id left right block other = some held := by
  have not_left : other ≠ left := by
    rintro rfl
    rw [at_left, Option.some.injEq] at under
    rw [← under, left_leaf] at no_leaf
    cases no_leaf
  have not_right : other ≠ right := by
    rintro rfl
    rw [at_right, Option.some.injEq] at under
    rw [← under, right_leaf] at no_leaf
    cases no_leaf
  rw [withoutHalves_of_ne apart not_left not_right, under]

/-- The halves of other blocks stay when a block gets rid of its own. -/
theorem HalfAt.withoutHalves {order position lower : Nat} {parent sibling : BlockId}
    (half : HalfAt blocks other position lower ⟨parent, sibling⟩) (apart : parent ≠ id)
    (found : blocks id = some block) (at_left : blocks left = some leftHalf)
    (at_right : blocks right = some rightHalf)
    (halves : AreHalves id left right block leftHalf rightHalf order) :
    HalfAt (withoutHalves blocks id left right block) other position lower
      ⟨parent, sibling⟩ := by
  obtain ⟨held, under, at_position, of_order, family⟩ := half
  by_cases same : other = id
  · subst same
    rw [found, Option.some.injEq] at under
    subst under
    exact ⟨_, Function.update_self .., at_position, of_order, family⟩
  · have not_left : other ≠ left := by
      rintro rfl
      rw [at_left, Option.some.injEq] at under
      subst under
      rw [halves.left_family, Option.some.injEq, Family.mk.injEq] at family
      exact apart family.1.symm
    have not_right : other ≠ right := by
      rintro rfl
      rw [at_right, Option.some.injEq] at under
      subst under
      rw [halves.right_family, Option.some.injEq, Family.mk.injEq] at family
      exact apart family.1.symm
    exact ⟨held, (withoutHalves_of_ne same not_left not_right).trans under, at_position, of_order,
      family⟩

/-- The leaves at a unit after a join are the joined block and the old leaves but the halves. -/
theorem leafAt_withoutHalves_iff (found : blocks id = some block)
    (no_leaf : block.isLeaf = false) {unit : Nat} :
    LeafAt (withoutHalves blocks id left right block) other unit ↔
      other = id ∧ block.Covers unit ∨
        other ≠ left ∧ other ≠ right ∧ LeafAt blocks other unit := by
  constructor
  · rintro ⟨held, present, holds, covers⟩
    rcases withoutHalves_eq_some_iff.mp present with ⟨rfl, rfl⟩ |
      ⟨-, not_right, not_left, present⟩
    · exact .inl ⟨rfl, covers⟩
    · exact .inr ⟨not_left, not_right, held, present, holds, covers⟩
  · rintro (⟨rfl, covers⟩ | ⟨not_left, not_right, held, under, holds, covers⟩)
    · exact ⟨_, Function.update_self .., rfl, covers⟩
    · have apart : other ≠ id := by
        rintro rfl
        rw [found, Option.some.injEq] at under
        rw [← under, no_leaf] at holds
        cases holds
      exact ⟨held, (withoutHalves_of_ne apart not_left not_right).trans under, holds, covers⟩

/-- After a join each unit lies in one leaf: a unit of the halves in the joined block, another one
where it was. -/
theorem Forest.tiled_withoutHalves (forest : Forest units maxOrder blocks)
    (found : blocks id = some block) (no_leaf : block.isLeaf = false)
    (at_left : blocks left = some leftHalf) (at_right : blocks right = some rightHalf)
    (left_leaf : leftHalf.isLeaf = true) (right_leaf : rightHalf.isLeaf = true) {order : Nat}
    (halves : AreHalves id left right block leftHalf rightHalf order) {unit : Nat}
    (below : unit < units) :
    ∃! other, LeafAt (withoutHalves blocks id left right block) other unit := by
  have leaves {other : BlockId} :
      LeafAt (withoutHalves blocks id left right block) other unit ↔ _ :=
    leafAt_withoutHalves_iff found no_leaf
  obtain ⟨old, at_old, only⟩ := forest.tiled unit below
  by_cases covers : block.Covers unit
  · refine ⟨id, leaves.mpr (.inl ⟨rfl, covers⟩), fun other at_other => ?_⟩
    rcases leaves.mp at_other with ⟨rfl, -⟩ | ⟨not_left, not_right, at_other⟩
    · rfl
    · rcases halves.covers_iff.mp covers with on_left | on_right
      · exact absurd (forest.leafAt_unique at_other ⟨_, at_left, left_leaf, on_left⟩) not_left
      · exact absurd (forest.leafAt_unique at_other ⟨_, at_right, right_leaf, on_right⟩) not_right
  · have not_left : old ≠ left := by
      rintro rfl
      obtain ⟨held, under, -, holds⟩ := at_old
      rw [at_left, Option.some.injEq] at under
      exact covers (halves.covers_iff.mpr (.inl (under ▸ holds)))
    have not_right : old ≠ right := by
      rintro rfl
      obtain ⟨held, under, -, holds⟩ := at_old
      rw [at_right, Option.some.injEq] at under
      exact covers (halves.covers_iff.mpr (.inr (under ▸ holds)))
    refine ⟨old, leaves.mpr (.inr ⟨not_left, not_right, at_old⟩), fun other at_other => ?_⟩
    rcases leaves.mp at_other with ⟨-, holds⟩ | ⟨-, -, at_other⟩
    · exact absurd holds covers
    · exact only other at_other

/-- A block whose halves are leaves takes their units over. -/
theorem Forest.join_halves (forest : Forest units maxOrder blocks) (found : blocks id = some block)
    (split : block.state = .split left right) (at_left : blocks left = some leftHalf)
    (at_right : blocks right = some rightHalf) (left_leaf : leftHalf.isLeaf = true)
    (right_leaf : rightHalf.isLeaf = true) :
    Forest units maxOrder (withoutHalves blocks id left right block) := by
  obtain ⟨order, halves⟩ := forest.areHalves found split at_left at_right
  have kept {other : BlockId} {held : Block} (under : blocks other = some held)
      (no_leaf : held.isLeaf = false) (apart : other ≠ id) :
      withoutHalves blocks id left right block other = some held :=
    withoutHalves_of_not_leaf at_left at_right left_leaf right_leaf under no_leaf apart
  constructor
  case fits =>
    intro other held present
    rcases withoutHalves_eq_some_iff.mp present with ⟨-, rfl⟩ | ⟨-, -, -, present⟩
    · exact (forest.fits found).withState _
    · exact forest.fits present
  case parent =>
    intro other held family present related
    rcases withoutHalves_eq_some_iff.mp present with ⟨rfl, rfl⟩ | ⟨-, not_right, not_left, present⟩
    · obtain ⟨parent, above, of_order, halved⟩ := forest.parent_above found related
      have apart : family.parent ≠ other := by
        intro same
        rw [same, found, Option.some.injEq] at above
        rw [above] at of_order
        omega
      exact ⟨parent, kept above (Block.isLeaf_of_split halved) apart, halved⟩
    · obtain ⟨parent, above, halved⟩ := forest.parent present related
      have apart : family.parent ≠ id := by
        intro same
        rw [same, found, Option.some.injEq] at above
        subst above
        rw [split, BlockState.split.injEq, BlockState.split.injEq] at halved
        rcases halved with ⟨rfl, -⟩ | ⟨-, rfl⟩
        · exact not_left rfl
        · exact not_right rfl
      exact ⟨parent, kept above (Block.isLeaf_of_split halved) apart, halved⟩
  case halves =>
    intro other held first second present divided
    rcases withoutHalves_eq_some_iff.mp present with ⟨-, rfl⟩ | ⟨apart, -, -, present⟩
    · cases divided
    · obtain ⟨lower, higher, first_half, second_half⟩ := forest.halves present divided
      exact ⟨lower, higher, first_half.withoutHalves apart found at_left at_right halves,
        second_half.withoutHalves apart found at_left at_right halves⟩
  case tiled =>
    exact fun unit below => forest.tiled_withoutHalves found (Block.isLeaf_of_split (.inl split))
      at_left at_right left_leaf right_leaf halves below

/-- A leaf and its buddy, a leaf too, leave their units to their parent. -/
theorem Forest.join (forest : Forest units maxOrder blocks) {half buddy : Block} {family : Family}
    (found : blocks id = some half) (related : half.family = some family)
    (at_buddy : blocks family.buddy = some buddy) (leaf : half.isLeaf = true)
    (buddy_leaf : buddy.isLeaf = true) :
    ∃ parent, blocks family.parent = some parent ∧ parent.isLeaf = false ∧
      Forest units maxOrder (withoutHalves blocks family.parent id family.buddy parent) := by
  obtain ⟨parent, above, divided⟩ := forest.parent found related
  refine ⟨parent, above, Block.isLeaf_of_split divided, ?_⟩
  rcases divided with split | split
  · exact forest.join_halves above split found at_buddy leaf buddy_leaf
  · rw [withoutHalves_comm]
    exact forest.join_halves above split at_buddy found buddy_leaf leaf

end Joining

end GpuSched.Buddy
