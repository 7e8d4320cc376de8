import GpuSched.Buddy.Allocator
import GpuSched.Proofs.Buddy.Canonical
import GpuSched.Proofs.Buddy.Tally

/-!
# What the steps do to the blocks

The blocks of an allocator change in three ways: a leaf gets another use, a loose block gets two
halves, and a split block loses its two loose halves. Each of them keeps the roots of the forest,
changes what is handed out in the one place it is about, and moves the numbers of blocks by what the
allocator counts.
-/
namespace GpuSched.Buddy

/-- A block is handed out under a handle. -/
def HandedOut (blocks : BlockId → Option Block) (id : BlockId) (block : Block) : Prop :=
  blocks id = some block ∧ block.state = .allocated

/-- Two halves of one block that are both free include a given one. -/
def MergedBut (id : BlockId) (blocks : BlockId → Option Block) : Prop :=
  ∀ one other, FreePair blocks one other → one = id ∨ other = id

/-- The counts are the numbers of blocks that are handed out and of those that are split. -/
def Counted (blocks : BlockId → Option Block) (counts : Array OrderCount) : Prop :=
  ∀ order count, counts[order]? = some count →
    count.allocated = (handlesOf blocks Block.isAllocated order).ncard ∧
      count.split = (handlesOf blocks Block.isSplit order).ncard

section Counts

variable {blocks blocks' : BlockId → Option Block} {counts : Array OrderCount}

/-- Counts stay right when no number changes. -/
theorem Counted.congr (counted : Counted blocks counts)
    (allocated : ∀ order, (handlesOf blocks' Block.isAllocated order).ncard =
      (handlesOf blocks Block.isAllocated order).ncard)
    (split : ∀ order, (handlesOf blocks' Block.isSplit order).ncard =
      (handlesOf blocks Block.isSplit order).ncard) : Counted blocks' counts := by
  intro order count present
  rw [allocated, split]
  exact counted order count present

/-- Counts stay right when that of one order changes by as much as the numbers do. -/
theorem Counted.step (counted : Counted blocks counts) {order : Nat}
    {count changed : OrderCount} (present : counts[order]? = some count)
    (allocated : ∀ other, (handlesOf blocks' Block.isAllocated other).ncard +
        (if other = order then count.allocated else 0) =
      (handlesOf blocks Block.isAllocated other).ncard +
        (if other = order then changed.allocated else 0))
    (split : ∀ other, (handlesOf blocks' Block.isSplit other).ncard +
        (if other = order then count.split else 0) =
      (handlesOf blocks Block.isSplit other).ncard +
        (if other = order then changed.split else 0)) :
    Counted blocks' (counts.setIfInBounds order changed) := by
  intro other held under
  have more_allocated := allocated other
  have more_split := split other
  obtain ⟨old_allocated, old_split⟩ := counted order count present
  by_cases same : other = order
  · subst same
    obtain ⟨inside, -⟩ := Array.getElem?_eq_some_iff.mp present
    rw [Array.getElem?_setIfInBounds_self_of_lt inside, Option.some.injEq] at under
    subst under
    rw [if_pos rfl, if_pos rfl] at more_allocated more_split
    omega
  · rw [Array.getElem?_setIfInBounds_ne (Ne.symm same)] at under
    have ⟨kept_allocated, kept_split⟩ := counted other held under
    rw [if_neg same, if_neg same] at more_allocated more_split
    omega

/-- A change of weight under one handle keeps the numbers when the weights agree. -/
theorem ncard_update_of_weight_eq {kind : Block → Bool} {order : Nat} {id : BlockId}
    {changed : Option Block} (finite : FinitelyMany blocks)
    (same : weight kind order (blocks id) = weight kind order changed) :
    (handlesOf (Function.update blocks id changed) kind order).ncard =
      (handlesOf blocks kind order).ncard := by
  have moved := ncard_handlesOf_update finite kind order id changed
  omega

end Counts

section Relabelling

variable {blocks : BlockId → Option Block} {id : BlockId} {block : Block} {state : BlockState}
  {units maxOrder : Nat}

/-- Another use of a block leaves the blocks of a kind that its use has no part in. -/
theorem holdsAt_relabel {kind : Block → Bool} (found : blocks id = some block)
    (state : BlockState) (tile : Tile) (same : kind { block with state } = kind block) :
    HoldsAt (Function.update blocks id (some { block with state })) kind tile ↔
      HoldsAt blocks kind tile := by
  constructor
  · rintro ⟨other, held, present, of_kind, place⟩
    rcases update_eq_some_iff.mp present with ⟨rfl, changed⟩ | ⟨-, present⟩
    · obtain rfl := Option.some.inj changed
      exact ⟨other, block, found, same ▸ of_kind, place⟩
    · exact ⟨other, held, present, of_kind, place⟩
  · rintro ⟨other, held, present, of_kind, place⟩
    by_cases here : other = id
    · subst here
      obtain rfl : block = held := Option.some.inj (found.symm.trans present)
      exact ⟨other, { block with state }, Function.update_self .., by rw [same, of_kind], place⟩
    · exact ⟨other, held, by rw [Function.update_of_ne here, present], of_kind, place⟩

/-- What is handed out elsewhere stays when the use of a block changes. -/
theorem handedOut_update_iff {changed : Block} {other : BlockId} {held : Block} :
    HandedOut (Function.update blocks id (some changed)) other held ↔
      other = id ∧ held = changed ∧ changed.state = .allocated ∨
        other ≠ id ∧ HandedOut blocks other held := by
  unfold HandedOut
  rw [update_eq_some_iff]
  constructor
  · rintro ⟨⟨same, changed⟩ | ⟨apart, present⟩, allocated⟩
    · obtain rfl := Option.some.inj changed
      exact .inl ⟨same, rfl, allocated⟩
    · exact .inr ⟨apart, present, allocated⟩
  · rintro (⟨same, rfl, allocated⟩ | ⟨apart, present, allocated⟩)
    · exact ⟨.inl ⟨same, rfl⟩, allocated⟩
    · exact ⟨.inr ⟨apart, present⟩, allocated⟩

/-- Nothing is handed out or taken back when a leaf changes between other uses. -/
theorem handedOut_relabel (found : blocks id = some block) (before : block.state ≠ .allocated)
    (after : state ≠ .allocated) {other : BlockId} {held : Block} :
    HandedOut (Function.update blocks id (some { block with state })) other held ↔
      HandedOut blocks other held := by
  rw [handedOut_update_iff]
  constructor
  · rintro (⟨-, -, allocated⟩ | ⟨-, handed⟩)
    · exact absurd allocated after
    · exact handed
  · rintro ⟨present, allocated⟩
    refine .inr ⟨?_, present, allocated⟩
    rintro rfl
    obtain rfl : block = held := Option.some.inj (found.symm.trans present)
    exact before allocated

/-- A use of a leaf other than being free makes no new pair of free halves. -/
theorem FreePair.of_relabel {one other : BlockId}
    (unlisted : ({ block with state } : Block).isListed = false)
    (pair : FreePair (Function.update blocks id (some { block with state })) one other) :
    FreePair blocks one other := by
  obtain ⟨half, buddy, family, at_half, half_listed, related, same, at_buddy, listed⟩ := pair
  have old : ∀ {handle : BlockId} {held : Block}, Function.update blocks id
      (some { block with state }) handle = some held → held.isListed = true →
        blocks handle = some held := by
    intro handle held present is_listed
    rcases update_eq_some_iff.mp present with ⟨-, changed⟩ | ⟨-, present⟩
    · obtain rfl := Option.some.inj changed
      rw [unlisted] at is_listed
      cases is_listed
    · exact present
  exact ⟨half, buddy, family, old at_half half_listed, half_listed, related, same,
    old at_buddy listed, listed⟩

/-- A use of a leaf other than being free leaves no pair of free halves unjoined. -/
theorem Merged.relabel {after : BlockId → Option Block} (merged : Merged blocks)
    (unlisted : ({ block with state } : Block).isListed = false)
    (outline : after = Function.update blocks id (some { block with state })) : Merged after := by
  intro one other pair
  rw [outline] at pair
  exact merged one other (pair.of_relabel unlisted)

/-- A leaf that becomes free is in every new pair of free halves. -/
theorem FreePair.of_list {one other : BlockId} (merged : Merged blocks)
    (pair : FreePair (Function.update blocks id (some block)) one other) :
    one = id ∨ other = id := by
  by_contra apart
  rw [not_or] at apart
  obtain ⟨half, buddy, family, at_half, half_listed, related, same, at_buddy, listed⟩ := pair
  rw [Function.update_of_ne apart.1] at at_half
  rw [Function.update_of_ne apart.2] at at_buddy
  exact merged one other ⟨half, buddy, family, at_half, half_listed, related, same, at_buddy,
    listed⟩

/-- When the buddy of a block is not free, or there is none, the exception is void. -/
theorem MergedBut.merged (merged : MergedBut id blocks) (forest : Forest units maxOrder blocks)
    (found : blocks id = some block)
    (alone : ∀ family buddy, block.family = some family → blocks family.buddy = some buddy →
      block.isListed = true → buddy.isListed = false) : Merged blocks := by
  intro one other pair
  have ⟨half, buddy, family, at_half, half_listed, related, same, at_buddy, listed⟩ := pair
  subst same
  rcases merged one family.buddy pair with rfl | rfl
  · obtain rfl : half = block := Option.some.inj (at_half.symm.trans found)
    rw [alone family buddy related at_buddy half_listed] at listed
    cases listed
  · obtain rfl : buddy = block := Option.some.inj (at_buddy.symm.trans found)
    obtain ⟨held, under, back⟩ := forest.exists_buddy at_half related
    obtain rfl : buddy = held := Option.some.inj (at_buddy.symm.trans under)
    rw [alone _ half back at_half listed] at half_listed
    cases half_listed

end Relabelling

section Halving

variable {blocks : BlockId → Option Block} {units maxOrder order : Nat}
  {id left right other : BlockId} {block leftHalf rightHalf held : Block}

/-- The use of the right half of a block may change. -/
theorem AreHalves.withRightState
    (halves : AreHalves id left right block leftHalf rightHalf order) (state : BlockState) :
    AreHalves id left right block leftHalf { rightHalf with state } order :=
  ⟨halves.above, halves.left_position, halves.left_order, halves.left_family,
    halves.right_position, halves.right_order, halves.right_family⟩

/-- The use of the left half of a block may change. -/
theorem AreHalves.withLeftState
    (halves : AreHalves id left right block leftHalf rightHalf order) (state : BlockState) :
    AreHalves id left right block { leftHalf with state } rightHalf order :=
  ⟨halves.above, halves.left_position, halves.left_order, halves.left_family,
    halves.right_position, halves.right_order, halves.right_family⟩

/-- Another right half takes the place of the one that a block got. -/
theorem withHalves_update_right {changed : Block} (right_apart : right ≠ id) :
    Function.update (withHalves blocks id left right block leftHalf rightHalf) right
      (some changed) = withHalves blocks id left right block leftHalf changed := by
  unfold withHalves
  rw [Function.update_comm right_apart.symm, Function.update_idem]

/-- Another left half takes the place of the one that a block got. -/
theorem withHalves_update_left {changed : Block} (left_apart : left ≠ id)
    (distinct : left ≠ right) :
    Function.update (withHalves blocks id left right block leftHalf rightHalf) left
      (some changed) = withHalves blocks id left right block changed rightHalf := by
  unfold withHalves
  rw [Function.update_comm left_apart.symm, Function.update_comm distinct.symm,
    Function.update_idem]

/-- A loose block got two halves, of which one is loose and the other one free. -/
structure Halved (blocks : BlockId → Option Block) (id left right : BlockId)
    (block leftHalf rightHalf : Block) (order : Nat) : Prop where
  found : blocks id = some block
  loose : block.state = .loose
  left_fresh : blocks left = none
  right_fresh : blocks right = none
  distinct : left ≠ right
  halves : AreHalves id left right block leftHalf rightHalf order
  left_state : leftHalf.state = .loose ∨ leftHalf.state = .listed none none
  right_state : rightHalf.state = .loose ∨ rightHalf.state = .listed none none

/-- A half that is loose or free is a leaf and not handed out. -/
theorem of_half_state {half : Block}
    (state : half.state = .loose ∨ half.state = .listed none none) :
    half.isLeaf = true ∧ half.isAllocated = false ∧ half.isSplit = false := by
  unfold Block.isSplit Block.isLeaf Block.isAllocated
  rcases state with state | state <;> simp [state]

namespace Halved

/-- The block is not one of its halves. -/
theorem apart (halved : Halved blocks id left right block leftHalf rightHalf order) :
    left ≠ id ∧ right ≠ id :=
  ⟨ne_of_fresh halved.found halved.left_fresh, ne_of_fresh halved.found halved.right_fresh⟩

/-- The blocks after a block was halved. -/
theorem eq_some_iff (halved : Halved blocks id left right block leftHalf rightHalf order) :
    withHalves blocks id left right block leftHalf rightHalf other = some held ↔
      other = id ∧ { block with state := .split left right } = held ∨
      other = right ∧ rightHalf = held ∨ other = left ∧ leftHalf = held ∨
      other ≠ id ∧ other ≠ right ∧ other ≠ left ∧ blocks other = some held :=
  withHalves_eq_some_iff halved.apart.1 halved.apart.2 halved.distinct

/-- Halving keeps a forest. -/
theorem forest (halved : Halved blocks id left right block leftHalf rightHalf order)
    (forest : Forest units maxOrder blocks) :
    Forest units maxOrder (withHalves blocks id left right block leftHalf rightHalf) := by
  have leaf : block.isLeaf = true := (of_half_state (.inl halved.loose)).1
  exact forest.split halved.found leaf halved.left_fresh halved.right_fresh halved.distinct
    halved.halves (of_half_state halved.left_state).1 (of_half_state halved.right_state).1

/-- A block that was there and is not the halved one is there still. -/
theorem kept (halved : Halved blocks id left right block leftHalf rightHalf order)
    (found : blocks other = some held) (apart : other ≠ id) :
    withHalves blocks id left right block leftHalf rightHalf other = some held :=
  withHalves_of_found halved.left_fresh halved.right_fresh found apart

/-- Halving hands nothing out and takes nothing back. -/
theorem handedOut_iff (halved : Halved blocks id left right block leftHalf rightHalf order) :
    HandedOut (withHalves blocks id left right block leftHalf rightHalf) other held ↔
      HandedOut blocks other held := by
  constructor
  · rintro ⟨present, allocated⟩
    rcases halved.eq_some_iff.mp present with ⟨-, rfl⟩ | ⟨-, rfl⟩ | ⟨-, rfl⟩ | ⟨-, -, -, present⟩
    · cases allocated
    · rcases halved.right_state with state | state <;> rw [state] at allocated <;> cases allocated
    · rcases halved.left_state with state | state <;> rw [state] at allocated <;> cases allocated
    · exact ⟨present, allocated⟩
  · rintro ⟨present, allocated⟩
    refine ⟨halved.kept present ?_, allocated⟩
    rintro rfl
    obtain rfl : block = held := Option.some.inj (halved.found.symm.trans present)
    rw [halved.loose] at allocated
    cases allocated

/-- Halving leaves the roots. -/
theorem roots_iff (halved : Halved blocks id left right block leftHalf rightHalf order)
    {tile : Tile} :
    HoldsAt (withHalves blocks id left right block leftHalf rightHalf) Block.isRoot tile ↔
      HoldsAt blocks Block.isRoot tile := by
  constructor
  · rintro ⟨other, held, present, root, place⟩
    rcases halved.eq_some_iff.mp present with ⟨-, rfl⟩ | ⟨-, rfl⟩ | ⟨-, rfl⟩ | ⟨-, -, -, present⟩
    · exact ⟨id, block, halved.found, root, place⟩
    · rw [Block.isRoot, halved.halves.right_family] at root
      cases root
    · rw [Block.isRoot, halved.halves.left_family] at root
      cases root
    · exact ⟨other, held, present, root, place⟩
  · rintro ⟨other, held, present, root, place⟩
    by_cases here : other = id
    · subst here
      obtain rfl : block = held := Option.some.inj (halved.found.symm.trans present)
      exact ⟨other, _, halved.eq_some_iff.mpr (.inl ⟨rfl, rfl⟩), root, place⟩
    · exact ⟨other, held, halved.kept present here, root, place⟩

/-- A free block after halving was free before, or it is one of the halves. -/
theorem listed_cases (halved : Halved blocks id left right block leftHalf rightHalf order)
    (present : withHalves blocks id left right block leftHalf rightHalf other = some held)
    (listed : held.isListed = true) :
    blocks other = some held ∨
      other = left ∧ held = leftHalf ∨ other = right ∧ held = rightHalf := by
  rcases halved.eq_some_iff.mp present with ⟨-, rfl⟩ | ⟨rfl, rfl⟩ | ⟨rfl, rfl⟩ | ⟨-, -, -, present⟩
  · cases listed
  · exact .inr (.inr ⟨rfl, rfl⟩)
  · exact .inr (.inl ⟨rfl, rfl⟩)
  · exact .inl present

/-- Halving a block of which one half stays loose makes no pair of free halves. -/
theorem merged (halved : Halved blocks id left right block leftHalf rightHalf order)
    (forest : Forest units maxOrder blocks) (merged : Merged blocks)
    (one_loose : leftHalf.isListed = false ∨ rightHalf.isListed = false) :
    Merged (withHalves blocks id left right block leftHalf rightHalf) := by
  have after := halved.forest forest
  have both : ∀ one two, FreePair (withHalves blocks id left right block leftHalf rightHalf)
      one two → one ≠ left ∧ one ≠ right := by
    rintro one two ⟨half, buddy, family, at_half, half_listed, related, rfl, at_buddy, listed⟩
    have at_left : withHalves blocks id left right block leftHalf rightHalf left =
        some leftHalf := halved.eq_some_iff.mpr (.inr (.inr (.inl ⟨rfl, rfl⟩)))
    have at_right : withHalves blocks id left right block leftHalf rightHalf right =
        some rightHalf := halved.eq_some_iff.mpr (.inr (.inl ⟨rfl, rfl⟩))
    constructor
    · rintro rfl
      obtain rfl : half = leftHalf := Option.some.inj (at_half.symm.trans at_left)
      obtain rfl : family = ⟨id, right⟩ :=
        Option.some.inj (related.symm.trans halved.halves.left_family)
      obtain rfl : buddy = rightHalf := Option.some.inj (at_buddy.symm.trans at_right)
      rcases one_loose with unlisted | unlisted
      · rw [unlisted] at half_listed
        cases half_listed
      · rw [unlisted] at listed
        cases listed
    · rintro rfl
      obtain rfl : half = rightHalf := Option.some.inj (at_half.symm.trans at_right)
      obtain rfl : family = ⟨id, left⟩ :=
        Option.some.inj (related.symm.trans halved.halves.right_family)
      obtain rfl : buddy = leftHalf := Option.some.inj (at_buddy.symm.trans at_left)
      rcases one_loose with unlisted | unlisted
      · rw [unlisted] at listed
        cases listed
      · rw [unlisted] at half_listed
        cases half_listed
  rintro one two pair
  have ⟨half, buddy, family, at_half, half_listed, related, same, at_buddy, listed⟩ := pair
  subst same
  obtain ⟨held, under, back⟩ := after.exists_buddy at_half related
  obtain rfl : buddy = held := Option.some.inj (at_buddy.symm.trans under)
  have turned : FreePair (withHalves blocks id left right block leftHalf rightHalf)
      family.buddy one := ⟨buddy, half, _, at_buddy, listed, back, rfl, at_half, half_listed⟩
  have old : ∀ {handle : BlockId} {held : Block}, handle ≠ left ∧ handle ≠ right →
      withHalves blocks id left right block leftHalf rightHalf handle = some held →
        held.isListed = true → blocks handle = some held := by
    intro handle held apart present is_listed
    rcases halved.listed_cases present is_listed with old | ⟨rfl, -⟩ | ⟨rfl, -⟩
    · exact old
    · exact absurd rfl apart.1
    · exact absurd rfl apart.2
  exact merged one family.buddy ⟨half, buddy, family,
    old (both one _ pair) at_half half_listed, half_listed, related, rfl,
    old (both _ one turned) at_buddy listed, listed⟩

/-- Halving changes no number of blocks handed out, and one of blocks split. -/
theorem ncard (halved : Halved blocks id left right block leftHalf rightHalf order)
    (finite : FinitelyMany blocks) (other : Nat) :
    (handlesOf (withHalves blocks id left right block leftHalf rightHalf)
        Block.isAllocated other).ncard = (handlesOf blocks Block.isAllocated other).ncard ∧
      (handlesOf (withHalves blocks id left right block leftHalf rightHalf)
        Block.isSplit other).ncard =
          (handlesOf blocks Block.isSplit other).ncard + if other = block.order then 1 else 0 := by
  obtain ⟨-, left_unused, left_whole⟩ := of_half_state halved.left_state
  obtain ⟨-, right_unused, right_whole⟩ := of_half_state halved.right_state
  obtain ⟨-, unused, whole⟩ := of_half_state (.inl halved.loose)
  obtain ⟨left_apart, right_apart⟩ := halved.apart
  have weightless : ∀ (kind : Block → Bool) (half : Block), kind half = false →
      weight kind other (some half) = 0 := by
    intro kind half not_kind
    simp [weight, not_kind]
  have first_finite := finite.update left (some leftHalf)
  have second_finite := first_finite.update right (some rightHalf)
  have placed : ∀ kind : Block → Bool, kind leftHalf = false → kind rightHalf = false →
      (handlesOf (Function.update (Function.update blocks left (some leftHalf)) right
        (some rightHalf)) kind other).ncard = (handlesOf blocks kind other).ncard := by
    intro kind not_left not_right
    rw [ncard_update_of_weight_eq first_finite, ncard_update_of_weight_eq finite]
    · rw [halved.left_fresh, weightless kind leftHalf not_left]
      rfl
    · rw [Function.update_of_ne halved.distinct.symm, halved.right_fresh,
        weightless kind rightHalf not_right]
      rfl
  have under : Function.update (Function.update blocks left (some leftHalf)) right
      (some rightHalf) id = some block := by
    rw [Function.update_of_ne right_apart.symm, Function.update_of_ne left_apart.symm,
      halved.found]
  constructor
  · unfold withHalves
    rw [ncard_update_of_weight_eq second_finite, placed _ left_unused right_unused]
    rw [under, weightless _ block unused]
    simp [weight, Block.isAllocated]
  · have moved := ncard_handlesOf_update second_finite Block.isSplit other id
      (some { block with state := .split left right })
    have old_weight : weight Block.isSplit other (some block) = 0 := weightless _ block whole
    have new_weight : weight Block.isSplit other
        (some { block with state := .split left right }) =
          if other = block.order then 1 else 0 := by
      simp [weight, Block.isSplit, Block.isLeaf, eq_comm]
    rw [under, old_weight, new_weight, placed _ left_whole right_whole] at moved
    exact moved

end Halved

end Halving

section Joining

variable {blocks : BlockId → Option Block} {units maxOrder : Nat} {id other : BlockId}
  {half buddy parent held : Block} {family : Family}

/-- Joining makes no pair of free halves. -/
theorem Merged.withoutHalves {left right : BlockId} (merged : Merged blocks) :
    Merged (Buddy.withoutHalves blocks id left right parent) := by
  rintro one two ⟨first, second, relation, at_first, first_listed, related, same, at_second,
    listed⟩
  have old : ∀ {handle : BlockId} {held : Block},
      Buddy.withoutHalves blocks id left right parent handle = some held →
        held.isListed = true → blocks handle = some held := by
    intro handle held present is_listed
    rcases withoutHalves_eq_some_iff.mp present with ⟨-, rfl⟩ | ⟨-, -, -, present⟩
    · cases is_listed
    · exact present
  exact merged one two ⟨first, second, relation, old at_first first_listed, first_listed, related,
    same, old at_second listed, listed⟩

/-- Two loose halves and their parent, which is split into them. -/
structure Joined (blocks : BlockId → Option Block) (id : BlockId) (half buddy parent : Block)
    (family : Family) : Prop where
  at_half : blocks id = some half
  half_loose : half.state = .loose
  related : half.family = some family
  at_buddy : blocks family.buddy = some buddy
  buddy_loose : buddy.state = .loose
  buddy_family : buddy.family = some ⟨family.parent, id⟩
  at_parent : blocks family.parent = some parent
  no_leaf : parent.isLeaf = false
  distinct : id ≠ family.buddy

namespace Joined

/-- The parent is none of its halves. -/
theorem apart (joined : Joined blocks id half buddy parent family) :
    family.parent ≠ id ∧ family.parent ≠ family.buddy := by
  have no_leaf := joined.no_leaf
  constructor
  · intro same
    have at_parent := joined.at_parent
    rw [same, joined.at_half, Option.some.injEq] at at_parent
    rw [← at_parent, (of_half_state (.inl joined.half_loose)).1] at no_leaf
    cases no_leaf
  · intro same
    have at_parent := joined.at_parent
    rw [same, joined.at_buddy, Option.some.injEq] at at_parent
    rw [← at_parent, (of_half_state (.inl joined.buddy_loose)).1] at no_leaf
    cases no_leaf

/-- Joining keeps a forest. -/
theorem forest (joined : Joined blocks id half buddy parent family)
    (forest : Forest units maxOrder blocks) :
    Forest units maxOrder (withoutHalves blocks family.parent id family.buddy parent) := by
  obtain ⟨above, at_above, -, after⟩ := forest.join joined.at_half joined.related joined.at_buddy
    (of_half_state (.inl joined.half_loose)).1 (of_half_state (.inl joined.buddy_loose)).1
  obtain rfl : parent = above := Option.some.inj (joined.at_parent.symm.trans at_above)
  exact after

/-- A block that was there and is none of the three is there still. -/
theorem kept (joined : Joined blocks id half buddy parent family)
    (found : blocks other = some held) (unlike : held.state ≠ .loose) (leaf : held.isLeaf = true) :
    withoutHalves blocks family.parent id family.buddy parent other = some held := by
  refine withoutHalves_eq_some_iff.mpr (.inr ⟨?_, ?_, ?_, found⟩)
  · rintro rfl
    obtain rfl : parent = held := Option.some.inj (joined.at_parent.symm.trans found)
    have no_leaf := joined.no_leaf
    rw [leaf] at no_leaf
    cases no_leaf
  · rintro rfl
    obtain rfl : buddy = held := Option.some.inj (joined.at_buddy.symm.trans found)
    exact unlike joined.buddy_loose
  · rintro rfl
    obtain rfl : half = held := Option.some.inj (joined.at_half.symm.trans found)
    exact unlike joined.half_loose

/-- Joining hands nothing out and takes nothing back. -/
theorem handedOut_iff (joined : Joined blocks id half buddy parent family) :
    HandedOut (withoutHalves blocks family.parent id family.buddy parent) other held ↔
      HandedOut blocks other held := by
  constructor
  · rintro ⟨present, allocated⟩
    rcases withoutHalves_eq_some_iff.mp present with ⟨-, rfl⟩ | ⟨-, -, -, present⟩
    · cases allocated
    · exact ⟨present, allocated⟩
  · rintro ⟨present, allocated⟩
    refine ⟨joined.kept present ?_ ?_, allocated⟩
    · rw [allocated]
      exact BlockState.noConfusion
    · unfold Block.isLeaf
      rw [allocated]

/-- Joining leaves the roots. -/
theorem roots_iff (joined : Joined blocks id half buddy parent family) {tile : Tile} :
    HoldsAt (withoutHalves blocks family.parent id family.buddy parent) Block.isRoot tile ↔
      HoldsAt blocks Block.isRoot tile := by
  constructor
  · rintro ⟨other, held, present, root, place⟩
    rcases withoutHalves_eq_some_iff.mp present with ⟨-, rfl⟩ | ⟨-, -, -, present⟩
    · exact ⟨family.parent, parent, joined.at_parent, root, place⟩
    · exact ⟨other, held, present, root, place⟩
  · rintro ⟨other, held, present, root, place⟩
    by_cases here : other = family.parent
    · subst here
      obtain rfl : parent = held := Option.some.inj (joined.at_parent.symm.trans present)
      exact ⟨family.parent, _, withoutHalves_eq_some_iff.mpr (.inl ⟨rfl, rfl⟩), root, place⟩
    · refine ⟨other, held, withoutHalves_eq_some_iff.mpr (.inr ⟨here, ?_, ?_, present⟩), root,
        place⟩
      · rintro rfl
        obtain rfl : buddy = held := Option.some.inj (joined.at_buddy.symm.trans present)
        rw [Block.isRoot, joined.buddy_family] at root
        cases root
      · rintro rfl
        obtain rfl : half = held := Option.some.inj (joined.at_half.symm.trans present)
        rw [Block.isRoot, joined.related] at root
        cases root

/-- Joining changes no number of blocks handed out, and one of blocks split. -/
theorem ncard (joined : Joined blocks id half buddy parent family) (finite : FinitelyMany blocks)
    (other : Nat) :
    (handlesOf (withoutHalves blocks family.parent id family.buddy parent)
        Block.isAllocated other).ncard = (handlesOf blocks Block.isAllocated other).ncard ∧
      (handlesOf (withoutHalves blocks family.parent id family.buddy parent)
          Block.isSplit other).ncard + (if other = parent.order then 1 else 0) =
        (handlesOf blocks Block.isSplit other).ncard := by
  obtain ⟨-, half_unused, half_whole⟩ := of_half_state (.inl joined.half_loose)
  obtain ⟨-, buddy_unused, buddy_whole⟩ := of_half_state (.inl joined.buddy_loose)
  obtain ⟨not_half, not_buddy⟩ := joined.apart
  have weightless : ∀ (kind : Block → Bool) (half : Block), kind half = false →
      weight kind other (some half) = 0 := by
    intro kind half not_kind
    simp [weight, not_kind]
  have first_finite := finite.update id none
  have second_finite := first_finite.update family.buddy none
  have cleared : ∀ kind : Block → Bool, kind half = false → kind buddy = false →
      (handlesOf (Function.update (Function.update blocks id none) family.buddy none)
        kind other).ncard = (handlesOf blocks kind other).ncard := by
    intro kind not_half not_buddy
    rw [ncard_update_of_weight_eq first_finite, ncard_update_of_weight_eq finite]
    · rw [joined.at_half, weightless kind half not_half]
      rfl
    · rw [Function.update_of_ne joined.distinct.symm, joined.at_buddy,
        weightless kind buddy not_buddy]
      rfl
  have under : Function.update (Function.update blocks id none) family.buddy none family.parent =
      some parent := by
    rw [Function.update_of_ne not_buddy, Function.update_of_ne not_half, joined.at_parent]
  have whole : parent.isSplit = true := by unfold Block.isSplit; rw [joined.no_leaf]; rfl
  have unused : parent.isAllocated = false := by
    by_contra allocated
    have leaf := Block.isLeaf_of_isAllocated (Bool.not_eq_false _ ▸ allocated)
    rw [joined.no_leaf] at leaf
    cases leaf
  constructor
  · unfold withoutHalves
    rw [ncard_update_of_weight_eq second_finite, cleared _ half_unused buddy_unused]
    rw [under, weightless _ parent unused]
    simp [weight, Block.isAllocated]
  · have moved := ncard_handlesOf_update second_finite Block.isSplit other family.parent
      (some { parent with state := .loose })
    have old_weight : weight Block.isSplit other (some parent) =
        if other = parent.order then 1 else 0 := by
      simp [weight, whole, eq_comm]
    have new_weight : weight Block.isSplit other (some { parent with state := .loose }) = 0 := by
      simp [weight, Block.isSplit, Block.isLeaf]
    rw [under, old_weight, new_weight, cleared _ half_whole buddy_whole, Nat.add_zero] at moved
    exact moved

end Joined

end Joining

end GpuSched.Buddy
