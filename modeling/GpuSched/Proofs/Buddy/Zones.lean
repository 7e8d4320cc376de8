import GpuSched.Proofs.Buddy.Canonical
import GpuSched.Proofs.Buddy.Settled
import GpuSched.Proofs.Respects

/-!
# Page sizes of blocks

A block that is split for a page size passes it on to its halves, when these are no larger than a
page directory entry. So below such a block all blocks are for one page size: `Zoned` says this
between a half, its buddy and their parent, and `Zoned.same_class` for all blocks of one cell.
Blocks that only go or change their states leave it so (`Sheds`), which covers every step but a
split. What all of these steps respect is respected by joining, releasing and handing out
(`Upholds`).
-/
namespace GpuSched.Buddy

open Operation (bind_eq_ok_iff pure_eq_ok_iff)

namespace Allocator

open Operation

variable {related : Allocator → Allocator → Prop}

/-- Every step on blocks but a split respects a relation. -/
structure Upholds (related : Allocator → Allocator → Prop) : Prop where
  unlink : ∀ id, Respects related (changeArena (·.unlink id))
  remove : ∀ id, Respects related (withArena (·.remove id))
  relabel : ∀ id state, (∀ previous next, state ≠ .listed previous next) →
    Respects related (changeArena (·.update id ({ · with state })))
  changeCount : ∀ order change, Respects related (changeCount order change)
  list : ∀ id, Respects related (list id)

/-- Looking up a block. -/
theorem respects_block [Std.Refl related] [IsTrans Allocator related] (id : BlockId) :
    Respects related (block id) :=
  respects_get.bind fun _ => respects_lift _

namespace Upholds

variable [Std.Refl related] [IsTrans Allocator related]

/-- Joining free halves upward. -/
theorem coalesce (upholds : Upholds related) (levels : Nat) (id : BlockId) :
    Respects related (coalesce levels id) := by
  induction levels generalizing id with
  | zero =>
    refine (respects_block id).bind fun half => ?_
    split
    · refine (respects_block _).bind fun buddy => ?_
      split
      · exact Std.Refl.refl
      · exact respects_pure _
    · exact respects_pure _
  | succ levels ih =>
    refine (respects_block id).bind fun half => ?_
    split
    · refine (respects_block _).bind fun buddy => ?_
      split
      · refine (upholds.unlink _).bind fun _ => (upholds.unlink _).bind fun _ => ?_
        refine (upholds.remove _).bind fun _ => (upholds.remove _).bind fun _ => ?_
        refine (respects_block _).bind fun parent => ?_
        refine (upholds.relabel _ _ fun _ _ => BlockState.noConfusion).bind fun _ => ?_
        refine (upholds.changeCount _ _).bind fun _ => ?_
        exact (upholds.list _).bind fun _ => ih _
      · exact respects_pure _
    · exact respects_pure _

/-- Taking a block back. -/
theorem release (upholds : Upholds related) (id : BlockId) : Respects related (release id) := by
  refine (respects_block id).bind fun block => ?_
  dsimp only
  split
  · exact respects_abort_bind _ _
  · refine (upholds.relabel id _ fun _ _ => BlockState.noConfusion).bind fun _ => ?_
    refine (upholds.changeCount _ _).bind fun _ => (upholds.list id).bind fun _ => ?_
    exact respects_get.bind fun _ => upholds.coalesce _ _

/-- Handing a block out. -/
theorem markAllocated (upholds : Upholds related) (id : BlockId) :
    Respects related (markAllocated id) := by
  refine (respects_block id).bind fun block => ?_
  dsimp only
  split
  · exact respects_abort_bind _ _
  · refine (upholds.relabel id _ fun _ _ => BlockState.noConfusion).bind fun _ => ?_
    exact upholds.changeCount _ _

end Upholds

end Allocator

/-- A block but for its state. -/
def Block.shape (block : Block) : Block := { block with state := .loose }

namespace Block

@[simp] theorem shape_withState (block : Block) (state : BlockState) :
    ({ block with state } : Block).shape = block.shape := rfl

@[simp] theorem shape_outline (block : Block) : block.outline.shape = block.shape := by
  unfold outline
  split <;> rfl

@[simp] theorem shape_withPrevious (block : Block) (previous : Option BlockId) :
    (block.withPrevious previous).shape = block.shape := by
  unfold withPrevious
  split <;> rfl

@[simp] theorem shape_withNext (block : Block) (next : Option BlockId) :
    (block.withNext next).shape = block.shape := by
  unfold withNext
  split <;> rfl

variable {one other : Block}

theorem order_of_shape (same : one.shape = other.shape) : one.order = other.order :=
  (congrArg Block.order same :)

theorem pageClass_of_shape (same : one.shape = other.shape) : one.pageClass = other.pageClass :=
  (congrArg Block.pageClass same :)

theorem family_of_shape (same : one.shape = other.shape) : one.family = other.family :=
  (congrArg Block.family same :)

end Block

/-- Every block was there before, perhaps in another state. -/
def Sheds (before after : BlockId → Option Block) : Prop :=
  ∀ id block, after id = some block → ∃ held, before id = some held ∧ held.shape = block.shape

section Sheds

variable {before middle after : BlockId → Option Block} {id : BlockId} {block : Block}

theorem Sheds.refl (blocks : BlockId → Option Block) : Sheds blocks blocks :=
  fun _ _ found => ⟨_, found, rfl⟩

/-- What sheds blocks twice sheds them. -/
theorem Sheds.trans (one : Sheds before middle) (two : Sheds middle after) :
    Sheds before after := by
  intro id block found
  obtain ⟨held, under, same⟩ := two id block found
  obtain ⟨first, earlier, also_same⟩ := one id held under
  exact ⟨first, earlier, also_same.trans same⟩

/-- A block that gets another state. -/
theorem sheds_relabel (found : before id = some block) (state : BlockState) :
    Sheds before (Function.update before id (some { block with state })) := by
  intro other held present
  rcases update_eq_some_iff.mp present with ⟨rfl, changed⟩ | ⟨-, present⟩
  · obtain rfl := Option.some.inj changed
    exact ⟨block, found, rfl⟩
  · exact ⟨held, present, rfl⟩

end Sheds

namespace Arena

variable {arena changed : Arena} {id : BlockId} {block held : Block}

/-- The links of the free lists make no difference. -/
theorem sheds_outline (sheds : Sheds arena.block? changed.block?) :
    Sheds arena.outline changed.outline := by
  intro id drawn found
  obtain ⟨block, under, rfl⟩ := block?_of_outline found
  obtain ⟨held, earlier, same⟩ := sheds id block under
  exact ⟨held.outline, outline_of_block? earlier, by simpa using same⟩

/-- A block is put in place of one that differs in its state only. -/
theorem sheds_put (found : arena.block? id = some block) (same : block.shape = held.shape) :
    Sheds arena.block? (arena.put id held).block? := by
  intro other under present
  rw [block?_put (lt_size_of_block? found)] at present
  split at present
  · rename_i here
    obtain rfl := Option.some.inj present
    exact ⟨block, here ▸ found, same⟩
  · exact ⟨under, present, rfl⟩

/-- A block changes in its state only. -/
theorem sheds_update {change : Block → Block} (same : ∀ block, (change block).shape = block.shape)
    (run : arena.update id change = .ok changed) : Sheds arena.block? changed.block? := by
  obtain ⟨block, found, rfl⟩ := update_eq_ok_iff.mp run
  exact sheds_put found (same block).symm

/-- A neighbour in a free list changes in its links only, if there is one. -/
theorem sheds_updateAt {handle : Option BlockId} {change : Block → Block}
    (same : ∀ block, (change block).shape = block.shape)
    (run : arena.updateAt handle change = .ok changed) : Sheds arena.block? changed.block? := by
  cases handle with
  | none => exact pure_eq_ok_iff.mp run ▸ .refl _
  | some neighbour => exact sheds_update same run

/-- A block that joins a list changes in its state only, and its neighbour in its links. -/
theorem Joins.sheds {state : BlockState} {neighbour : Option BlockId} {link : Block → Block}
    {list : FreeList} (joins : arena.Joins id block state neighbour link list changed)
    (links : ∀ block, (link block).shape = block.shape) : Sheds arena.block? changed.block? := by
  obtain ⟨linked, run, rfl⟩ := joins.linked
  have listed := sheds_put joins.found (block.shape_withState state).symm
  have linking := sheds_updateAt links run
  exact listed.trans linking

/-- A block joins a free list at its front. -/
theorem sheds_pushFront (run : arena.pushFront id = .ok changed) :
    Sheds arena.block? changed.block? := by
  obtain ⟨block, list, -, joins⟩ := pushFront_eq_ok_iff.mp run
  exact joins.sheds (Block.shape_withPrevious · _)

/-- A block joins a free list at its back. -/
theorem sheds_pushBack (run : arena.pushBack id = .ok changed) :
    Sheds arena.block? changed.block? := by
  obtain ⟨block, list, -, joins⟩ := pushBack_eq_ok_iff.mp run
  exact joins.sheds (Block.shape_withNext · _)

/-- A block leaves its free list. -/
theorem sheds_unlink (run : arena.unlink id = .ok changed) :
    Sheds arena.block? changed.block? := by
  have ran := run
  simp only [unlink, bind_eq_ok_iff, block_eq_ok_iff] at ran
  obtain ⟨block, found, ran⟩ := ran
  split at ran
  case h_4 previous next listed =>
    rw [unlink_of_listed found listed] at run
    simp only [bind_eq_ok_iff, pure_eq_ok_iff] at run
    obtain ⟨list, -, first, back, second, forth, length, -, rfl⟩ := run
    have loose := sheds_put found (block.shape_withState .loose).symm
    have backward := sheds_updateAt (fun block => block.shape_withNext next) back
    have forward := sheds_updateAt (fun block => block.shape_withPrevious previous) forth
    exact (loose.trans backward).trans forward
  all_goals cases ran

/-- A block goes. -/
theorem sheds_remove (run : arena.remove id = .ok (block, changed)) :
    Sheds arena.block? changed.block? := by
  unfold remove at run
  split at run
  · cases run
  · split at run
    · cases run
    · obtain ⟨-, rfl⟩ := Prod.mk.inj (Except.ok.inj run)
      intro other held present
      refine ⟨held, ?_, rfl⟩
      unfold block? at present ⊢
      rw [Array.getElem?_setIfInBounds] at present
      split at present
      · split at present <;> cases present
      · exact present

end Arena

namespace Allocator

open Operation

/-- The space stays, and of the blocks nothing changes but that some go and states change. -/
def Shed (before after : Allocator) : Prop :=
  after.space = before.space ∧ Sheds before.arena.block? after.arena.block?

instance : IsPreorder Allocator Shed where
  refl _ := ⟨rfl, .refl _⟩
  trans _ _ _ one two := ⟨two.1.trans one.1, one.2.trans two.2⟩

/-- A step of the arena that answers a value. -/
theorem respects_withArena {α : Type} {step : Arena → Except Failure (α × Arena)}
    (each : ∀ arena value changed, step arena = .ok (value, changed) →
      Sheds arena.block? changed.block?) : Respects Shed (withArena step) :=
  respects_iff_yields.mpr fun allocator => yields_withArena
    (fun value changed run => ⟨rfl, each _ value changed run⟩) fun _ _ => Std.Refl.refl allocator

/-- A step of the arena. -/
theorem respects_changeArena {step : Arena → Except Failure Arena}
    (each : ∀ arena changed, step arena = .ok changed → Sheds arena.block? changed.block?) :
    Respects Shed (changeArena step) :=
  respects_iff_yields.mpr fun allocator => yields_changeArena
    (fun changed run => ⟨rfl, each _ changed run⟩) fun _ _ => Std.Refl.refl allocator

/-- A change of counts. -/
theorem respects_changeCount (order : Nat) (change : OrderCount → Except Failure OrderCount) :
    Respects Shed (changeCount order change) :=
  respects_iff_yields.mpr fun allocator => yields_changeCount (fun _ => ⟨rfl, .refl _⟩)
    fun _ => Std.Refl.refl allocator

/-- Another state of a block. -/
theorem respects_relabel (id : BlockId) (state : BlockState) :
    Respects Shed (changeArena (·.update id ({ · with state }))) :=
  respects_changeArena fun _ _ => Arena.sheds_update fun _ => rfl

/-- Listing a block as free. -/
theorem respects_list (id : BlockId) : Respects Shed (list id) := by
  refine (respects_block id).bind fun block => respects_get.bind fun allocator => ?_
  split
  · exact respects_changeArena fun _ _ => Arena.sheds_pushBack
  · exact respects_changeArena fun _ _ => Arena.sheds_pushFront

/-- No step on blocks but a split brings new blocks. -/
theorem upholds_shed : Upholds Shed where
  unlink _ := respects_changeArena fun _ _ => Arena.sheds_unlink
  remove _ := respects_withArena fun _ _ _ => Arena.sheds_remove
  relabel id state _ := respects_relabel id state
  changeCount := respects_changeCount
  list := respects_list

/-- Taking a block back. -/
theorem respects_release (id : BlockId) : Respects Shed (release id) := upholds_shed.release id

end Allocator

/-- Two page sizes of which one serves the other are the same. -/
theorem eq_of_accepts {held wanted : PageClass} (serves : held.accepts wanted = true)
    (sized : held ≠ .any) (also_sized : wanted ≠ .any) : held = wanted := by
  simpa [PageClass.accepts, sized, also_sized] using serves

/-- Below an order that is set aside for one page size all are. -/
theorem Space.tags_of_le {space : Space} {lower order : Nat} (tagged : space.tags order = true)
    (le : lower ≤ order) : space.tags lower = true := by
  unfold Space.tags at tagged ⊢
  split at tagged
  · rw [decide_eq_true_eq] at tagged ⊢
    exact Nat.le_trans le tagged
  · cases tagged

/-- Halves of the orders of a directory entry are for the page size that they are split for. -/
theorem halfClass_ne_any {space : Space} {order : Nat} {pageClass : PageClass}
    (sized : pageClass ≠ .any) (tagged : space.tags order = true) :
    Allocator.halfClass space order pageClass ≠ .any := by
  unfold Allocator.halfClass
  rwa [if_pos tagged]

/-- A block that serves a page size serves that of its halves. -/
theorem serves_halfClass {space : Space} {order : Nat} {own pageClass : PageClass}
    (serves : own.accepts pageClass = true) :
    own.accepts (Allocator.halfClass space order pageClass) = true := by
  unfold Allocator.halfClass
  split
  · exact serves
  · simp [PageClass.accepts]

section Halves

variable {blocks : BlockId → Option Block} {id left right other : BlockId}
  {block leftHalf rightHalf first held : Block} {order : Nat}

/-- After a split a block is one from before, but for its state, or one of the halves. -/
theorem Halved.source (halved : Halved blocks id left right block leftHalf rightHalf order)
    (found : withHalves blocks id left right block leftHalf rightHalf other = some held) :
    (∃ old, blocks other = some old ∧ old.shape = held.shape) ∨
      other = left ∧ leftHalf = held ∨ other = right ∧ rightHalf = held := by
  rcases halved.eq_some_iff.mp found with ⟨rfl, rfl⟩ | at_right | at_left | ⟨-, -, -, old⟩
  · exact .inl ⟨block, halved.found, rfl⟩
  · exact .inr (.inr at_right)
  · exact .inr (.inl at_left)
  · exact .inl ⟨held, old, rfl⟩

/-- A split changes at most the state of a block from before. -/
theorem Halved.same_shape (halved : Halved blocks id left right block leftHalf rightHalf order)
    (was : blocks other = some first)
    (found : withHalves blocks id left right block leftHalf rightHalf other = some held) :
    first.shape = held.shape := by
  rcases halved.source found with ⟨old, still, same⟩ | ⟨rfl, -⟩ | ⟨rfl, -⟩
  · rwa [← Option.some.inj (was.symm.trans still)] at same
  · exact absurd rfl (ne_of_fresh was halved.left_fresh)
  · exact absurd rfl (ne_of_fresh was halved.right_fresh)

end Halves

/-- Halves of the orders of a directory entry are for a page size, which is that of their buddies
and of their parents, if these have one. -/
structure Zoned (space : Space) (blocks : BlockId → Option Block) : Prop where
  sized : ∀ {id half family}, blocks id = some half → half.family = some family →
    space.tags half.order = true → half.pageClass ≠ .any
  alike : ∀ {id half family buddy}, blocks id = some half → half.family = some family →
    blocks family.buddy = some buddy → buddy.pageClass = half.pageClass
  inherited : ∀ {id half family parent}, blocks id = some half → half.family = some family →
    blocks family.parent = some parent → parent.pageClass.accepts half.pageClass = true

namespace Zoned

variable {space : Space} {blocks : BlockId → Option Block} {units maxOrder : Nat} {id : BlockId}
  {block : Block}

/-- Where there are only roots there is nothing to say. -/
theorem of_roots (roots : ∀ id block, blocks id = some block → block.family = none) :
    Zoned space blocks where
  sized found related := by
    rw [roots _ _ found] at related
    cases related
  alike found related := by
    rw [roots _ _ found] at related
    cases related
  inherited found related := by
    rw [roots _ _ found] at related
    cases related

/-- Blocks that go and change their states leave the others for their page sizes. -/
theorem shed {before after : BlockId → Option Block} (zoned : Zoned space before)
    (sheds : Sheds before after) : Zoned space after where
  sized found related tagged := by
    obtain ⟨held, earlier, same⟩ := sheds _ _ found
    rw [← Block.family_of_shape same] at related
    rw [← Block.order_of_shape same] at tagged
    rw [← Block.pageClass_of_shape same]
    exact zoned.sized earlier related tagged
  alike found related at_buddy := by
    obtain ⟨held, earlier, same⟩ := sheds _ _ found
    obtain ⟨held_buddy, earlier_buddy, same_buddy⟩ := sheds _ _ at_buddy
    rw [← Block.family_of_shape same] at related
    rw [← Block.pageClass_of_shape same, ← Block.pageClass_of_shape same_buddy]
    exact zoned.alike earlier related earlier_buddy
  inherited found related above := by
    obtain ⟨held, earlier, same⟩ := sheds _ _ found
    obtain ⟨held_parent, earlier_parent, same_parent⟩ := sheds _ _ above
    rw [← Block.family_of_shape same] at related
    rw [← Block.pageClass_of_shape same, ← Block.pageClass_of_shape same_parent]
    exact zoned.inherited earlier related earlier_parent

/-- A block is split into halves for a page size that it serves. -/
theorem halved (zoned : Zoned space blocks) (forest : Forest units maxOrder blocks)
    {left right : BlockId} {leftHalf rightHalf : Block} {order : Nat} {pageClass : PageClass}
    (halved : Halved blocks id left right block leftHalf rightHalf order)
    (left_class : leftHalf.pageClass = Allocator.halfClass space order pageClass)
    (right_class : rightHalf.pageClass = Allocator.halfClass space order pageClass)
    (serves : block.pageClass.accepts pageClass = true) (sized : pageClass ≠ .any) :
    Zoned space (withHalves blocks id left right block leftHalf rightHalf) := by
  obtain ⟨left_apart, right_apart⟩ := halved.apart
  have at_id : withHalves blocks id left right block leftHalf rightHalf id =
      some { block with state := .split left right } := Function.update_self ..
  refine ⟨?_, ?_, ?_⟩
  · intro other half family found related tagged
    rcases halved.source found with ⟨old, was, same⟩ | ⟨rfl, rfl⟩ | ⟨rfl, rfl⟩
    · rw [← Block.family_of_shape same] at related
      rw [← Block.order_of_shape same] at tagged
      rw [← Block.pageClass_of_shape same]
      exact zoned.sized was related tagged
    · rw [halved.halves.left_order] at tagged
      exact left_class ▸ halfClass_ne_any sized tagged
    · rw [halved.halves.right_order] at tagged
      exact right_class ▸ halfClass_ne_any sized tagged
  · intro other half family buddy found related at_buddy
    rcases halved.source found with ⟨old, was, same⟩ | ⟨rfl, rfl⟩ | ⟨rfl, rfl⟩
    · rw [← Block.family_of_shape same] at related
      obtain ⟨first, was_buddy, -⟩ := forest.exists_buddy was related
      rw [← Block.pageClass_of_shape same,
        ← Block.pageClass_of_shape (halved.same_shape was_buddy at_buddy)]
      exact zoned.alike was related was_buddy
    · obtain rfl := Option.some.inj (halved.halves.left_family.symm.trans related)
      rw [withHalves_right right_apart] at at_buddy
      rw [← Option.some.inj at_buddy, left_class, right_class]
    · obtain rfl := Option.some.inj (halved.halves.right_family.symm.trans related)
      rw [withHalves_left left_apart halved.distinct] at at_buddy
      rw [← Option.some.inj at_buddy, left_class, right_class]
  · intro other half family parent found related above
    rcases halved.source found with ⟨old, was, same⟩ | ⟨rfl, rfl⟩ | ⟨rfl, rfl⟩
    · rw [← Block.family_of_shape same] at related
      obtain ⟨first, was_above, -⟩ := forest.exists_parent was related
      rw [← Block.pageClass_of_shape same,
        ← Block.pageClass_of_shape (halved.same_shape was_above above)]
      exact zoned.inherited was related was_above
    · obtain rfl := Option.some.inj (halved.halves.left_family.symm.trans related)
      obtain rfl := Option.some.inj (at_id.symm.trans above)
      exact left_class ▸ serves_halfClass serves
    · obtain rfl := Option.some.inj (halved.halves.right_family.symm.trans related)
      obtain rfl := Option.some.inj (at_id.symm.trans above)
      exact right_class ▸ serves_halfClass serves

/-- Up to an order that is set aside for one page size the blocks around a block are for the same
one, unless there is a root among them. -/
theorem class_above (zoned : Zoned space blocks) (forest : Forest units maxOrder blocks)
    (found : blocks id = some block) {order : Nat} (le : block.order ≤ order)
    (tagged : space.tags order = true) :
    (∃ top held, blocks top = some held ∧ held.isRoot = true ∧ held.order ≤ order ∧
        block.tile.Within held.tile) ∨
      ∃ node held family, blocks node = some held ∧ held.family = some family ∧
        held.order = order ∧ block.tile.Within held.tile ∧ held.pageClass = block.pageClass := by
  induction le with
  | refl =>
    have itself : block.tile.Within block.tile := ⟨Nat.le_refl _, Nat.le_refl _⟩
    cases related : block.family with
    | none =>
      have root : block.isRoot = true := by
        unfold Block.isRoot
        rw [related]
        rfl
      exact .inl ⟨id, block, found, root, Nat.le_refl _, itself⟩
    | some family => exact .inr ⟨id, block, family, found, related, rfl, itself, rfl⟩
  | @step order le ih =>
    have lower_tagged := Space.tags_of_le tagged (Nat.le_succ order)
    rcases ih lower_tagged with ⟨top, held, at_top, root, lower, within⟩ |
      ⟨node, held, family, at_node, related, rfl, within, same⟩
    · exact .inl ⟨top, held, at_top, root, by omega, within⟩
    · obtain ⟨parent, above, -, next, inside⟩ := forest.exists_parent at_node related
      have around : block.tile.Within parent.tile :=
        ⟨Nat.le_trans inside.1 within.1, Nat.le_trans within.2 inside.2⟩
      cases grand : parent.family with
      | none =>
        have root : parent.isRoot = true := by
          unfold Block.isRoot
          rw [grand]
          rfl
        exact .inl ⟨family.parent, parent, above, root, by omega, around⟩
      | some grand_family =>
        refine .inr ⟨family.parent, parent, grand_family, above, grand, by omega, around, ?_⟩
        have above_tagged : space.tags parent.order = true := by rwa [next]
        rw [← same]
        exact eq_of_accepts (zoned.inherited at_node related above)
          (zoned.sized above grand above_tagged) (zoned.sized at_node related lower_tagged)

end Zoned

/-- Of two leaves that meet a cell each is smaller than the cell. -/
theorem Forest.order_lt_of_meets {units maxOrder : Nat} {blocks : BlockId → Option Block}
    (forest : Forest units maxOrder blocks) {cell : Tile} (aligned : cell.Aligned)
    {id other : BlockId} {block held : Block} (found : blocks id = some block)
    (leaf : block.isLeaf = true) (meets : cell.Meets block.tile)
    (present : blocks other = some held) (other_leaf : held.isLeaf = true)
    (also_meets : cell.Meets held.tile) (apart : id ≠ other) : block.order < cell.order := by
  by_contra large
  have within : cell.Within block.tile := aligned.within (forest.aligned found)
    (Nat.le_of_not_lt large) meets.2 meets.1
  have unit_in_cell : max cell.position held.position < cell.stop :=
    Nat.max_lt.mpr ⟨cell.position_lt_stop, also_meets.2⟩
  have unit_in_held : max cell.position held.position < held.tile.stop :=
    Nat.max_lt.mpr ⟨also_meets.1, held.tile.position_lt_stop⟩
  have covers : block.Covers (max cell.position held.position) :=
    ⟨Nat.le_trans within.1 (Nat.le_max_left ..), Nat.lt_of_lt_of_le unit_in_cell within.2⟩
  have also_covers : held.Covers (max cell.position held.position) :=
    ⟨Nat.le_max_right .., unit_in_held⟩
  exact apart (forest.leafAt_unique ⟨block, found, leaf, covers⟩
    ⟨held, present, other_leaf, also_covers⟩)

namespace Tidy

variable {space : Space} {units maxOrder : Nat} {blocks : BlockId → Option Block} {cell : Tile}

/-- A block in a cell of a directory entry lies in a half of the cell, which is for the page size of
the block. -/
theorem exists_half (tidy : Tidy units maxOrder blocks) (zoned : Zoned space blocks)
    (is_cell : cell.IsCell units maxOrder) (tagged : space.tags cell.order = true) {id : BlockId}
    {block : Block} (found : blocks id = some block) (meets : cell.Meets block.tile)
    (smaller : block.order < cell.order) :
    ∃ node half family parent, blocks node = some half ∧ half.family = some family ∧
      space.tags half.order = true ∧ half.pageClass = block.pageClass ∧
      blocks family.parent = some parent ∧ parent.tile = cell := by
  obtain ⟨lower, next⟩ : ∃ lower, cell.order = lower + 1 := ⟨cell.order - 1, by omega⟩
  have lower_tagged : space.tags lower = true := Space.tags_of_le tagged (by omega)
  rcases zoned.class_above tidy.forest found (by omega : block.order ≤ lower) lower_tagged with
    ⟨top, held, at_top, root, small, within⟩ |
    ⟨node, half, family, at_node, related, rfl, within, same⟩
  · have meets_top : cell.Meets held.tile :=
      ⟨Nat.lt_of_lt_of_le meets.1 within.2, Nat.lt_of_le_of_lt within.1 meets.2⟩
    have := tidy.le_order_of_root is_cell at_top root meets_top
    omega
  · obtain ⟨parent, above, -, order, inside⟩ := tidy.forest.exists_parent at_node related
    refine ⟨node, half, family, parent, at_node, related, lower_tagged, same, above, ?_⟩
    refine (tidy.forest.aligned above).eq is_cell.aligned (order.trans next.symm) ?_ ?_
    · exact Nat.lt_of_lt_of_le meets.1 (Nat.le_trans within.2 inside.2)
    · exact Nat.lt_of_le_of_lt (Nat.le_trans inside.1 within.1) meets.2

/-- All smaller blocks in a cell of a directory entry are for one page size. -/
theorem same_class (tidy : Tidy units maxOrder blocks) (zoned : Zoned space blocks)
    (is_cell : cell.IsCell units maxOrder) (tagged : space.tags cell.order = true)
    {one other : BlockId} {first second : Block} (found : blocks one = some first)
    (present : blocks other = some second) (meets : cell.Meets first.tile)
    (also_meets : cell.Meets second.tile) (smaller : first.order < cell.order)
    (also_smaller : second.order < cell.order) :
    first.pageClass = second.pageClass ∧ first.pageClass ≠ .any := by
  obtain ⟨node, half, family, parent, at_node, related, half_tagged, same, above, place⟩ :=
    tidy.exists_half zoned is_cell tagged found meets smaller
  obtain ⟨node', half', family', parent', at_node', related', -, same', above', place'⟩ :=
    tidy.exists_half zoned is_cell tagged present also_meets also_smaller
  refine ⟨?_, same ▸ zoned.sized at_node related half_tagged⟩
  have same_parent : family.parent = family'.parent :=
    tidy.forest.eq_of_tile above above' (place.trans place'.symm)
  obtain ⟨whole, at_whole, split⟩ := tidy.forest.parent at_node related
  obtain ⟨whole', at_whole', split'⟩ := tidy.forest.parent at_node' related'
  rw [← same_parent, at_whole, Option.some.injEq] at at_whole'
  subst at_whole'
  have sides : node' = node ∨ node' = family.buddy := by
    rcases split with split | split <;> rcases split' with split' | split' <;>
      rw [split, BlockState.split.injEq] at split'
    · exact .inl split'.1.symm
    · exact .inr split'.2.symm
    · exact .inr split'.1.symm
    · exact .inl split'.2.symm
  rw [← same, ← same']
  rcases sides with rfl | rfl
  · rw [at_node, Option.some.injEq] at at_node'
    rw [at_node']
  · exact (zoned.alike at_node related at_node').symm

end Tidy

end GpuSched.Buddy
