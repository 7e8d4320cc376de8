import GpuSched.Proofs.Buddy.History
import GpuSched.Proofs.Buddy.Zoning

/-!
# Calls that are taken back

What a call splits off and what a release joins belong to one forest: splitting only adds blocks to
it, and joining only takes them away. Where the same blocks are handed out before and after, the
free ones are then the same too, under the same handles and for the same page sizes
(`Allocator.Settled.outline_eq`). So a call that is refused leaves the allocator as it was
(`refused_call_changes_nothing`).
-/
namespace GpuSched.Buddy

section Growth

variable {blocks : BlockId → Option Block} {id left right : BlockId}
  {block leftHalf rightHalf firstHalf secondHalf : Block} {order : Nat}

/-- Every block is still there after a split. -/
theorem Halved.sheds (halved : Halved blocks id left right block leftHalf rightHalf order) :
    Sheds (withHalves blocks id left right block firstHalf secondHalf) blocks := by
  intro other held found
  by_cases same : other = id
  · subst same
    obtain rfl := Option.some.inj (halved.found.symm.trans found)
    exact ⟨_, Function.update_self .., rfl⟩
  · exact ⟨held, withHalves_of_found halved.left_fresh halved.right_fresh found same, rfl⟩

/-- Every block is still there when one of them gets another state. -/
theorem sheds_of_relabel (found : blocks id = some block) (state : BlockState) :
    Sheds (Function.update blocks id (some { block with state })) blocks := by
  intro other held present
  by_cases same : other = id
  · subst same
    obtain rfl := Option.some.inj (found.symm.trans present)
    exact ⟨_, Function.update_self .., rfl⟩
  · exact ⟨held, by rw [Function.update_of_ne same, present], rfl⟩

end Growth

namespace Block

variable {one other : Block}

/-- A block without links has none to leave out. -/
@[simp] theorem outline_outline (block : Block) : block.outline.outline = block.outline := by
  obtain ⟨position, order, pageClass, state, family⟩ := block
  cases state <;> rfl

/-- The place of a block does not depend on its state. -/
theorem tile_of_shape (same : one.shape = other.shape) : one.tile = other.tile :=
  (congrArg Block.tile same :)

/-- Blocks of one shape and state are the same. -/
theorem eq_of_shape (same : one.shape = other.shape) (states : one.state = other.state) :
    one = other := by
  cases one
  cases other
  simp only [shape, mk.injEq] at same states ⊢
  exact ⟨same.1, same.2.1, same.2.2.1, states, same.2.2.2.2⟩

/-- A free block without links. -/
theorem state_of_drawn {block : Block} (drawn : block.outline = block)
    (listed : block.isListed = true) : block.state = .listed none none := by
  obtain ⟨previous, next, state⟩ := isListed_iff.mp listed
  unfold outline at drawn
  rw [state] at drawn
  rw [← drawn]

end Block

section Parts

variable {units maxOrder : Nat} {whole before after : BlockId → Option Block} {id other : BlockId}
  {block held : Block}

/-- Two parts of a forest have the same block at a place. -/
theorem Forest.same_of_parts (forest : Forest units maxOrder whole) (part : Sheds whole before)
    (part' : Sheds whole after) (found : before id = some block) (present : after other = some held)
    (place : block.tile = held.tile) : id = other ∧ block.shape = held.shape := by
  obtain ⟨first, at_first, same⟩ := part id block found
  obtain ⟨second, at_second, same'⟩ := part' other held present
  have places : first.tile = second.tile := by
    rw [Block.tile_of_shape same, Block.tile_of_shape same', place]
  obtain rfl := forest.eq_of_tile at_first at_second places
  obtain rfl := Option.some.inj (at_first.symm.trans at_second)
  exact ⟨rfl, same.symm.trans same'⟩

/-- The block at a place is of every kind that the place holds. -/
theorem Forest.of_holdsAt (forest : Forest units maxOrder before) {kind : Block → Bool}
    (found : before id = some block) (holds : HoldsAt before kind block.tile) :
    kind block = true := by
  obtain ⟨other, held, present, of_kind, place⟩ := holds
  obtain rfl := forest.eq_of_tile present found place
  rwa [← Option.some.inj (present.symm.trans found)]

/-- Tidy parts of one forest that have the same places handed out split a block in the same way. -/
theorem Forest.same_halves (forest : Forest units maxOrder whole)
    (one : Forest units maxOrder before) (two : Forest units maxOrder after)
    (part : Sheds whole before) (part' : Sheds whole after) (found : before id = some block)
    (present : after id = some held) (place : block.tile = held.tile)
    (split : block.isLeaf = false) (also_split : held.isLeaf = false) :
    block.state = held.state := by
  obtain ⟨left, right, leftHalf, rightHalf, order, divided, at_left, at_right, halves⟩ :=
    one.exists_halves found split
  obtain ⟨left', right', leftHalf', rightHalf', order', divided', at_left', at_right', halves'⟩ :=
    two.exists_halves present also_split
  have positions : block.position = held.position := congrArg Tile.position place
  have orders : order = order' := by
    have same : block.order = held.order := congrArg Tile.order place
    have above := halves.above
    have above' := halves'.above
    omega
  have left_place : leftHalf.tile = leftHalf'.tile := by
    unfold Block.tile
    rw [halves.left_position, halves'.left_position, halves.left_order, halves'.left_order,
      positions, orders]
  have right_place : rightHalf.tile = rightHalf'.tile := by
    unfold Block.tile
    rw [halves.right_position, halves'.right_position, halves.right_order, halves'.right_order,
      positions, orders]
  rw [divided, divided', (forest.same_of_parts part part' at_left at_left' left_place).1,
    (forest.same_of_parts part part' at_right at_right' right_place).1]

/-- Of two tidy parts of one forest that have the same places handed out, one has the blocks of the
other. -/
theorem Tidy.found_of_parts (forest : Forest units maxOrder whole)
    (one : Tidy units maxOrder before) (two : Tidy units maxOrder after)
    (part : Sheds whole before) (part' : Sheds whole after)
    (drawn : ∀ id block, before id = some block → block.outline = block)
    (drawn' : ∀ id block, after id = some block → block.outline = block)
    (same : ∀ cell, HoldsAt before Block.isAllocated cell ↔ HoldsAt after Block.isAllocated cell)
    (found : before id = some block) : after id = some block := by
  have splits := one.splitAt_congr two same
  have frees := one.listedAt_congr two same
  have here : HoldsAt before (fun _ => true) block.tile := ⟨id, block, found, rfl, rfl⟩
  rw [one.placeAt_iff] at here
  simp only [splits] at here
  obtain ⟨other, held, present, -, place⟩ := two.placeAt_iff.mpr here
  obtain ⟨rfl, shape⟩ := forest.same_of_parts part part' found present place.symm
  have also {kind : Block → Bool} (congr : HoldsAt before kind block.tile →
      HoldsAt after kind block.tile) (of_kind : kind block = true) : kind held = true :=
    two.forest.of_holdsAt present (place ▸ congr ⟨id, block, found, of_kind, rfl⟩)
  suffices states : block.state = held.state by rw [present, Block.eq_of_shape shape states]
  cases leaf : block.isLeaf with
  | false =>
    have also_split : held.isSplit = true := by
      refine also (splits block.tile).mp ?_
      rw [Block.isSplit, leaf]
      rfl
    exact forest.same_halves one.forest two.forest part part' found present place.symm leaf
      (by simpa [Block.isSplit] using also_split)
  | true =>
    cases allocated : block.isAllocated with
    | true =>
      have also_allocated := also (same block.tile).mp allocated
      exact (of_decide_eq_true allocated).trans (of_decide_eq_true also_allocated).symm
    | false =>
      have listed := Block.isListed_of_leaf leaf (one.not_loose found) allocated
      have also_listed := also (frees block.tile).mp listed
      rw [Block.state_of_drawn (drawn id block found) listed,
        Block.state_of_drawn (drawn' id held present) also_listed]

/-- Two tidy parts of one forest that have the same places handed out are the same. -/
theorem Tidy.eq_of_parts (forest : Forest units maxOrder whole)
    (one : Tidy units maxOrder before) (two : Tidy units maxOrder after)
    (part : Sheds whole before) (part' : Sheds whole after)
    (drawn : ∀ id block, before id = some block → block.outline = block)
    (drawn' : ∀ id block, after id = some block → block.outline = block)
    (same : ∀ cell, HoldsAt before Block.isAllocated cell ↔ HoldsAt after Block.isAllocated cell) :
    after = before := by
  funext id
  refine Option.ext fun block => ⟨fun found => ?_, fun found => ?_⟩
  · exact two.found_of_parts forest one part' part drawn' drawn (fun cell => (same cell).symm) found
  · exact one.found_of_parts forest two part part' drawn drawn' same found

end Parts

namespace Allocator

open Operation

/-- Every block is still there, perhaps in another state. -/
def Grows (before after : Allocator) : Prop := Sheds after.arena.outline before.arena.outline

section Growing

variable {allocator before middle after : Allocator} {id : BlockId} {block : Block}
  {hand : List BlockId} {pageClass : PageClass}

theorem Grows.trans (one : before.Grows middle) (two : middle.Grows after) : before.Grows after :=
  Sheds.trans two one

/-- Every block is still there when one of them gets another state. -/
theorem grows_of_relabel {state : BlockState} (found : before.arena.outline id = some block)
    (shown : after.arena.outline =
      Function.update before.arena.outline id (some { block with state })) :
    before.Grows after := by
  unfold Grows
  rw [shown]
  exact sheds_of_relabel found state

/-- A descent keeps every block. -/
theorem Descends.grows {part : BlockId} {half : Block}
    (descends : Descends pageClass hand before id block after part half) : before.Grows after := by
  induction descends with
  | stays => exact Sheds.refl _
  | cuts one _ ih =>
    obtain ⟨left, right, leftHalf, rightHalf, order, halved, -, -, outline, -⟩ := one.halves
    refine Grows.trans ?_ ih
    unfold Grows
    rw [outline]
    exact halved.sheds

/-- Cutting a part out of a free block keeps every block. -/
theorem Extracts.grows {part : BlockId} {half : Block}
    (extracts : Extracts pageClass hand before id block part half after) : before.Grows after := by
  obtain ⟨first, -, -, -, shown, descends⟩ := extracts.descends
  exact (grows_of_relabel extracts.found shown).trans descends.grows

/-- Handing out a part of a free block keeps every block. -/
theorem grows_handOut (settled : allocator.Settled hand) (merged : Merged allocator.arena.outline)
    {levels : Nat} (found : allocator.arena.outline id = some block)
    (listed : block.isListed = true) (deep : levels ≤ block.order) :
    (handOut pageClass levels id).Yields allocator (fun _ after => allocator.Grows after)
      fun _ _ => True := by
  refine (extracts_handOut settled merged found listed deep).mono ?_ fun _ _ _ => trivial
  rintro part after ⟨half, middle, extracts, -, -, marked⟩
  exact extracts.grows.trans (grows_of_relabel extracts.ends.1 marked)

/-- Claiming a tile keeps every block. -/
theorem grows_claim (settled : allocator.Settled hand) (merged : Merged allocator.arena.outline)
    (tile : Tile) :
    (claim tile pageClass).Yields allocator (fun _ after => allocator.Grows after)
      fun _ _ => True := by
  refine (extracts_claim settled merged tile).mono ?_ fun _ _ _ => trivial
  rintro result after (⟨-, rfl, -⟩ | ⟨part, whole, block, half, -, extracts, -⟩)
  · exact Sheds.refl _
  · exact extracts.grows

/-- What is refused for want of a tile was split off and joined again. -/
theorem retraces_claimAll (settled : allocator.Settled []) (merged : Merged allocator.arena.outline)
    {tiles : List Tile} (aligned : ∀ tile ∈ tiles, tile.Aligned) {claimed : List BlockId} :
    (claimAll pageClass tiles claimed).Yields allocator (fun _ _ => True)
      (fun failure after => allocator.Crowded failure ∨ ∃ middle, middle.Settled [] ∧
        SameBooks allocator middle ∧ allocator.Grows middle ∧
        Sheds middle.arena.outline after.arena.outline) := by
  induction tiles generalizing allocator claimed with
  | nil => trivial
  | cons tile tiles ih =>
    obtain ⟨place, places⟩ := List.forall_mem_cons.mp aligned
    unfold claimAll
    rw [yields_bind]
    refine ((settles_claim settled merged place).and (grows_claim settled merged tile)).mono ?_
      fun _ _ crowded => .inl crowded.1
    rintro result middle ⟨⟨rfl, rfl, -⟩ | ⟨id, rfl, claim⟩, grows⟩
    · dsimp only
      rw [yields_bind]
      have releases := respects_forM respects_release claimed.reverse
      refine (respects_iff_yields.mp releases middle).mono ?_ ?_
      · exact fun _ after shed => .inr ⟨middle, settled, .refl middle, .refl _,
          Arena.sheds_outline shed.2⟩
      · exact fun _ after shed => .inr ⟨middle, settled, .refl middle, .refl _,
          Arena.sheds_outline shed.2⟩
    · obtain ⟨part, at_part, loose, -⟩ := claim.part
      dsimp only
      rw [yields_bind]
      refine (settles_markAllocated claim.settled at_part loose).mono ?_ fun _ _ => False.elim
      rintro _ second ⟨settled_second, books_second, shown⟩
      have books := claim.books.trans books_second
      have grown := grows.trans (grows_of_relabel at_part shown)
      refine (ih settled_second (claim.merged.relabel rfl shown) places).mono
        (fun _ _ _ => trivial) ?_
      rintro failure after (crowded | ⟨top, settled_top, books_top, grows_top, sheds⟩)
      · exact .inl (books.crowded crowded)
      · exact .inr ⟨top, settled_top, books.trans books_top, grown.trans grows_top, sheds⟩

/-- Where the blocks that were split off are joined again and the same ones are handed out, all
blocks are as before. -/
theorem Settled.outline_eq (settled : before.Settled []) (merged : Merged before.arena.outline)
    (settled_middle : middle.Settled []) (settled_after : after.Settled [])
    (merged_after : Merged after.arena.outline) (space_middle : middle.space = before.space)
    (space_after : after.space = before.space) (grows : before.Grows middle)
    (sheds : Sheds middle.arena.outline after.arena.outline)
    (handed : ∀ id block,
      HandedOut after.arena.outline id block ↔ HandedOut before.arena.outline id block) :
    after.arena.outline = before.arena.outline := by
  have forest := settled_middle.forest
  have tidy_after := settled_after.tidy merged_after
  rw [space_middle] at forest
  rw [space_after] at tidy_after
  have drawn (arena : Arena) : ∀ id block, arena.outline id = some block →
      block.outline = block := by
    intro id block found
    obtain ⟨held, -, rfl⟩ := Arena.block?_of_outline found
    exact Block.outline_outline held
  refine Tidy.eq_of_parts forest (settled.tidy merged) tidy_after grows sheds (drawn _) (drawn _)
    fun cell => ?_
  constructor
  · rintro ⟨id, block, found, allocated, place⟩
    exact ⟨id, block, ((handed id block).mpr ⟨found, of_decide_eq_true allocated⟩).1, allocated,
      place⟩
  · rintro ⟨id, block, found, allocated, place⟩
    exact ⟨id, block, ((handed id block).mp ⟨found, of_decide_eq_true allocated⟩).1, allocated,
      place⟩

/-- Allocators with the same blocks have the same counts. -/
theorem Settled.counts_eq {other_hand : List BlockId} (settled : before.Settled hand)
    (settled_after : after.Settled other_hand) (space : after.space = before.space)
    (outline : after.arena.outline = before.arena.outline) : after.counts = before.counts := by
  refine Array.ext ?_ fun order inside inside' => ?_
  · rw [settled.sized, settled_after.sized, space]
  · obtain ⟨allocated, split⟩ := settled.counted order _ (Array.getElem?_eq_getElem inside')
    obtain ⟨allocated', split'⟩ := settled_after.counted order _ (Array.getElem?_eq_getElem inside)
    rw [outline, ← allocated] at allocated'
    rw [outline, ← split] at split'
    have parts : ∀ one other : OrderCount, one.allocated = other.allocated →
        one.split = other.split → one = other := by
      rintro ⟨_, _⟩ ⟨_, _⟩ rfl rfl
      rfl
    exact parts _ _ allocated' split'

/-- Allocators of one space with the same blocks have the same counts of blocks. -/
theorem Settled.orders_eq {other_hand : List BlockId} (settled : before.Settled hand)
    (settled_after : after.Settled other_hand) (space : after.space = before.space)
    (outline : after.arena.outline = before.arena.outline) :
    after.stats.orders = before.stats.orders := by
  have counts := settled.counts_eq settled_after space outline
  unfold stats
  dsimp only
  rw [space]
  refine List.map_congr_left fun order mem => ?_
  have capped : order ≤ before.space.maxOrder := Nat.le_of_lt_succ (List.mem_range.mp mem)
  unfold orderStats
  rw [listLength_eq settled capped, listLength_eq settled_after (space ▸ capped), outline, counts,
    space]

/-- Allocators with the same blocks and books have the same statistics. -/
theorem Settled.stats_eq {other_hand : List BlockId} (settled : before.Settled hand)
    (settled_after : after.Settled other_hand) (books : SameBooks before after)
    (outline : after.arena.outline = before.arena.outline) : after.stats = before.stats := by
  have orders := settled.orders_eq settled_after books.space outline
  unfold stats at orders ⊢
  dsimp only at orders
  rw [orders, books.space, books.ordinary, books.fixed, books.requested, books.reserved,
    books.freed]

/-- A tile is the place of a block on the free list of its order that is set aside for a page
size. -/
def Offers (allocator : Allocator) (tile : Tile) (pageClass : PageClass) : Prop :=
  ∃ blocks, allocator.arena.listed tile.order false = .ok blocks ∧
    ∃ entry ∈ blocks, entry.2.position = tile.position ∧ entry.2.pageClass = pageClass

/-- The blocks on the free lists are the free blocks. -/
theorem offers_iff (settled : allocator.Settled hand) (tile : Tile) :
    allocator.Offers tile pageClass ↔ ∃ id block, allocator.arena.outline id = some block ∧
      block.isListed = true ∧ block.tile = tile ∧ block.pageClass = pageClass :=
  exists_listed_iff settled tile (· = pageClass)

/-- What a call that is taken back leaves: all blocks and books are as before. -/
structure Restores (before after : Allocator) : Prop where
  settled : after.Settled []
  books : SameBooks before after
  outline : after.arena.outline = before.arena.outline

/-- What a fixed request that is refused has split off is joined again. -/
theorem retraces_allocateFixed (settled : allocator.Settled [])
    (merged : Merged allocator.arena.outline) (base len : Nat) (wanted : PageClass) :
    (allocateFixed base len wanted).Yields allocator (fun _ _ => True)
      (fun failure after => (∃ reason, failure = .aborted reason) ∨ ∃ middle, middle.Settled [] ∧
        SameBooks allocator middle ∧ allocator.Grows middle ∧
        Sheds middle.arena.outline after.arena.outline) := by
  have unchanged : ∃ middle, middle.Settled [] ∧ SameBooks allocator middle ∧
      allocator.Grows middle ∧ Sheds middle.arena.outline allocator.arena.outline :=
    ⟨allocator, settled, .refl allocator, .refl _, .refl _⟩
  unfold allocateFixed
  simp only [yields_bind, yields_get]
  split
  · exact .inr unchanged
  simp only [yields_bind, yields_get]
  refine yields_lift_of (fun busy _ => ?_) fun _ _ => .inr unchanged
  split
  · exact .inr unchanged
  simp only [yields_bind, yields_modify]
  refine (retraces_claimAll settled merged fun tile mem => (of_mem_tiling mem).2.2.1).mono
    (fun ids after _ => ?_) fun _ _ => Or.imp_left fun crowded => ⟨_, crowded.1⟩
  exact settles_account (fun _ _ => trivial) fun _ _ => .inl ⟨_, rfl⟩

/-- A fixed request that is refused leaves all as it was, or for want of a tile all but the order of
the free lists. -/
theorem restores_allocateFixed (settled : allocator.Settled [])
    (merged : Merged allocator.arena.outline)
    (aligned : allocator.space.start % allocator.space.blockSize = 0) {base len : Nat}
    {wanted : PageClass} {busy : Bool} (checked : allocator.overlaps base len = .ok busy) :
    (allocateFixed base len wanted).Yields allocator (fun _ _ => True)
      (fun failure after => (∃ reason, failure = .aborted reason) ∨ after = allocator ∨
        failure = .refused .exhausted ∧ allocator.Restores after) := by
  refine ((settles_allocateFixed settled merged aligned checked).and
    (retraces_allocateFixed settled merged base len wanted)).mono (fun _ _ _ => trivial) ?_
  rintro failure after ⟨⟨-, -, same⟩ | ⟨-, ⟨-, -, same⟩ | ⟨-, crowded | ⟨refused, denies, -⟩ |
    ⟨stopped, -⟩⟩⟩, retraced⟩
  · exact .inr (.inl same)
  · exact .inr (.inl same)
  · exact .inl ⟨_, crowded.1⟩
  · rcases retraced with ⟨reason, stopped⟩ | ⟨middle, settled_middle, books, grows, sheds⟩
    · exact .inl ⟨reason, stopped⟩
    · exact .inr (.inr ⟨refused, denies.settled, denies.books, settled.outline_eq merged
        settled_middle denies.settled denies.merged books.space denies.books.space grows sheds
        denies.handed⟩)
  · exact .inl ⟨_, stopped⟩

end Growing

section Refusals

variable {request : SpaceRequest} {start allocator after : Allocator} {ledger : List Holding}
  {calls : List Request} {call : Request} {error : Error}

/-- What is restored looks the same. -/
theorem Restores.same {before : Allocator} (restores : before.Restores after)
    (settled : before.Settled []) :
    after.ordinary = before.ordinary ∧ after.fixed = before.fixed ∧ after.stats = before.stats ∧
      ∀ tile pageClass, after.Offers tile pageClass ↔ before.Offers tile pageClass := by
  refine ⟨restores.books.ordinary, restores.books.fixed,
    settled.stats_eq restores.settled restores.books restores.outline, fun tile pageClass => ?_⟩
  rw [offers_iff restores.settled, offers_iff settled, restores.outline]

/-- A call that is refused leaves all as it was, or all but the order of the free lists. -/
theorem Ready.restores (ready : allocator.Ready request ledger) (call : Request) :
    (Allocator.perform call).Yields allocator (fun _ _ => True)
      (fun failure after => (∃ reason, failure = .aborted reason) ∨ after = allocator ∨
        (failure = .refused .exhausted ∧
          ∃ base len pageClass, call = .allocateFixed base len pageClass) ∧
        allocator.Restores after) := by
  have tended := ready.tended
  cases call with
  | allocate len pageClass =>
    refine (settles_allocate tended.settled tended.merged len pageClass).mono
      (fun _ _ _ => trivial) ?_
    rintro failure after (⟨_, -, same, -⟩ | ⟨-, -, -, crowded | ⟨stopped, -⟩⟩)
    · exact .inr (.inl same)
    · exact .inl ⟨_, crowded.1⟩
    · exact .inl ⟨_, stopped⟩
  | allocateFixed base len pageClass =>
    obtain ⟨busy, checked, -⟩ := exists_overlaps ready.kept tended base len
    refine (restores_allocateFixed tended.settled tended.merged
      (Space.start_mod_blockSize ready.kept.space) checked).mono (fun _ _ _ => trivial) ?_
    rintro failure after (stopped | same | ⟨refused, restores⟩)
    · exact .inl stopped
    · exact .inr (.inl same)
    · exact .inr (.inr ⟨⟨refused, base, len, pageClass, rfl⟩, restores⟩)
  | free address =>
    unfold Allocator.perform
    rw [yields_bind]
    exact (ready.free address).mono (fun _ _ _ => trivial) fun _ _ => False.elim

/-- After a run of calls that return, a call that is refused leaves the live allocations, the totals
of bytes, the counts of every order and all blocks with their page sizes as they were. Unless it is
a fixed request that is refused for want of a tile, it leaves the allocator as it was altogether. -/
theorem refused_call_changes_nothing (created : create request = .ok start)
    (run : start.carryOut [] calls = some (allocator, ledger))
    (refused : perform call allocator = (.error (.refused error), after)) :
    after.ordinary = allocator.ordinary ∧ after.fixed = allocator.fixed ∧
      after.stats = allocator.stats ∧
      (∀ tile pageClass, after.Offers tile pageClass ↔ allocator.Offers tile pageClass) ∧
      after.arena.outline = allocator.arena.outline ∧
      ((error = .exhausted → ∀ base len pageClass, call ≠ .allocateFixed base len pageClass) →
        after = allocator) := by
  have ready := ready_of_run created run
  rcases (ready.restores call).of_error refused with ⟨reason, stopped⟩ | rfl |
    ⟨⟨exhausted, base, len, pageClass, fixed⟩, restores⟩
  · cases stopped
  · exact ⟨rfl, rfl, rfl, fun _ _ => Iff.rfl, rfl, fun _ => rfl⟩
  · obtain ⟨ordinary, ranges, stats, offers⟩ := restores.same ready.tended.settled
    have same : error = .exhausted := Failure.refused.inj exhausted
    exact ⟨ordinary, ranges, stats, offers, restores.outline,
      fun other => absurd fixed (other same base len pageClass)⟩

/-- A range for big pages is refused at its fourth tile, which is set aside for small pages, when
the three before it are handed out. -/
theorem refused_call_changes_nothing_of_calls : ∃ start allocator after : Allocator,
    (after.ordinary = allocator.ordinary ∧ after.fixed = allocator.fixed ∧
      after.stats = allocator.stats ∧
      (∀ tile pageClass, after.Offers tile pageClass ↔ allocator.Offers tile pageClass) ∧
      after.arena.outline = allocator.arena.outline) ∧
    create
      { name := "gva", base := 0, length := 0x10000, blockSize := 0x1000,
        directoryLength := some 0x4000 } = .ok start ∧
    start.carryOut [] [.allocateFixed 0xf000 0x1000 .small] =
      some (allocator, [.fixed 0xf000 0x1000]) ∧
    perform (.allocateFixed 0x1000 0xc000 .big) allocator =
      (.error (.refused .exhausted), after) := by
  have outcome : ((create
      { name := "gva", base := 0, length := 0x10000, blockSize := 0x1000,
        directoryLength := some 0x4000 }).toOption.bind fun start =>
        (start.carryOut [] [.allocateFixed 0xf000 0x1000 .small]).map fun (allocator, ledger) =>
          (ledger, (perform (.allocateFixed 0x1000 0xc000 .big) allocator).1)) =
      some ([.fixed 0xf000 0x1000], .error (.refused .exhausted)) := by decide +kernel
  obtain ⟨start, created, ran⟩ := Option.bind_eq_some_iff.mp outcome
  obtain ⟨⟨allocator, ledger⟩, run, all⟩ := Option.map_eq_some_iff.mp ran
  obtain ⟨rfl, answer⟩ := Prod.mk.inj all
  have started := eq_ok_of_toOption created
  have refused : perform (.allocateFixed 0x1000 0xc000 .big) allocator =
      (.error (.refused .exhausted), _) := Prod.ext answer rfl
  obtain ⟨ordinary, fixed, stats, offers, outline, -⟩ :=
    refused_call_changes_nothing started run refused
  exact ⟨start, allocator, _, ⟨ordinary, fixed, stats, offers, outline⟩, started, run, refused⟩

end Refusals

end Allocator

end GpuSched.Buddy
