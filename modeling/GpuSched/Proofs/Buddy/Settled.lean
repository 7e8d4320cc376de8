import GpuSched.Proofs.Buddy.Progress
import GpuSched.Proofs.Buddy.Steps
import GpuSched.Proofs.Buddy.Transitions

/-!
# Settled allocators

An allocator is settled when, besides being tiled, its counts are the numbers of its blocks, its
roots are the tiles of its space, its handles suffice, and only blocks in hand are loose. From a
settled allocator every step on blocks answers, unless all handles are taken, and this takes a space
of two thousand million units. Each step is shown with what it leaves: a settled allocator with the
same records, and the blocks it started from changed in one place.
-/
namespace GpuSched.Buddy.Allocator

open Operation

/-- There is no handle left, in a space with half as many units as there are handles. -/
def Crowded (allocator : Allocator) (failure : Failure) : Prop :=
  failure = .aborted (.block .arenaFull) ∧ Arena.capacity < 2 * allocator.space.units

/-- Only the blocks and the counts differ. -/
def SameBooks (before after : Allocator) : Prop :=
  after = { before with arena := after.arena, counts := after.counts }

/-- The blocks fill the space, are counted, and are loose only while they are in hand. -/
structure Settled (allocator : Allocator) (hand : List BlockId) : Prop where
  sound : allocator.arena.Sound
  forest : Forest allocator.space.units allocator.space.maxOrder allocator.arena.outline
  housed : allocator.arena.Housed (allocator.space.maxOrder + 1) (2 * allocator.space.units - 1)
  sized : allocator.counts.size = allocator.space.maxOrder + 1
  counted : Counted allocator.arena.outline allocator.counts
  roots : ∀ tile, HoldsAt allocator.arena.outline Block.isRoot tile ↔
    tile ∈ allocator.space.tiles
  in_hand : ∀ {id block}, allocator.arena.outline id = some block → block.state = .loose → id ∈ hand

/-- Nothing differs. -/
theorem SameBooks.refl (allocator : Allocator) : SameBooks allocator allocator := rfl

/-- One step after another leaves the records that both leave. -/
theorem SameBooks.trans {before middle after : Allocator} (one : SameBooks before middle)
    (two : SameBooks middle after) : SameBooks before after := by
  unfold SameBooks at one two ⊢
  rw [one] at two
  exact two

/-- The space stays. -/
theorem SameBooks.space {before after : Allocator} (same : SameBooks before after) :
    after.space = before.space := by
  unfold SameBooks at same
  have spaces := congrArg Allocator.space same
  exact spaces

/-- What cannot go on for lack of handles after a step could not before. -/
theorem SameBooks.crowded {before after : Allocator} (same : SameBooks before after)
    {failure : Failure} (crowded : after.Crowded failure) : before.Crowded failure := by
  unfold Crowded at crowded ⊢
  rwa [same.space] at crowded

/-- The blocks of an arena are finitely many. -/
theorem finitelyMany_outline (arena : Arena) : FinitelyMany arena.outline := by
  refine (Set.finite_lt_nat arena.nodes.size).subset ?_
  intro id present
  obtain ⟨drawn, found⟩ := Option.ne_none_iff_exists'.mp present
  obtain ⟨block, under, -⟩ := Arena.block?_of_outline found
  exact Arena.lt_size_of_block? under

section Parts

variable {α : Type} {allocator : Allocator} {bad : Failure → Allocator → Prop}

/-- The block under a handle is answered where there is one. -/
theorem yields_block_of {id : BlockId} {held : Block} {good : Block → Allocator → Prop}
    (found : allocator.arena.block? id = some held) :
    (block id).Yields allocator good bad = good held allocator := by
  unfold Allocator.block
  simp only [yields_bind, yields_get]
  rw [Arena.block_eq_ok_iff.mpr found]
  exact yields_lift_ok

/-- A step of the arena that answers is taken. -/
theorem yields_changeArena_of {step : Arena → Except Failure Arena} {arena : Arena}
    {good : Unit → Allocator → Prop} (run : step allocator.arena = .ok arena) :
    (changeArena step).Yields allocator good bad = good () { allocator with arena } := by
  unfold changeArena
  simp only [yields_bind, yields_get]
  rw [run]
  exact yields_lift_ok

/-- A step of the arena that answers a value is taken. -/
theorem yields_withArena_of {step : Arena → Except Failure (α × Arena)} {value : α} {arena : Arena}
    {good : α → Allocator → Prop} (run : step allocator.arena = .ok (value, arena)) :
    (withArena step).Yields allocator good bad = good value { allocator with arena } := by
  unfold withArena
  simp only [yields_bind, yields_get]
  rw [run]
  exact yields_lift_ok

/-- A step of the arena that fails ends the operation. -/
theorem yields_withArena_error {step : Arena → Except Failure (α × Arena)} {failure : Failure}
    {good : α → Allocator → Prop} (run : step allocator.arena = .error failure) :
    (withArena step).Yields allocator good bad = bad failure allocator := by
  unfold withArena
  simp only [yields_bind, yields_get]
  rw [run]
  rfl

/-- A change of the counts of an order that answers is made. -/
theorem yields_changeCount_of {order : Nat} {change : OrderCount → Except Failure OrderCount}
    {count changed : OrderCount} {good : Unit → Allocator → Prop}
    (present : allocator.counts[order]? = some count) (run : change count = .ok changed)
    (holds :
      good () { allocator with counts := allocator.counts.setIfInBounds order changed }) :
    (changeCount order change).Yields allocator good bad := by
  unfold changeCount
  simp only [yields_bind, yields_get, yields_entry present]
  rw [run]
  exact yields_lift_ok.mpr holds

end Parts

section Blocks

variable {allocator : Allocator} {id : BlockId} {block : Block} {hand : List BlockId}

/-- A settled allocator is tiled. -/
theorem Settled.tiled (settled : allocator.Settled hand) : allocator.Tiled :=
  ⟨settled.sound, settled.forest⟩

/-- The order in which blocks are in hand plays no part. -/
theorem Settled.perm {other : List BlockId} (settled : allocator.Settled hand)
    (same : other.Perm hand) : allocator.Settled other :=
  ⟨settled.sound, settled.forest, settled.housed, settled.sized, settled.counted, settled.roots,
    fun found loose => same.mem_iff.mpr (settled.in_hand found loose)⟩

/-- There is a free list for the order of a block. -/
theorem Settled.has_list (settled : allocator.Settled hand)
    (found : allocator.arena.outline id = some block) :
    block.order < allocator.arena.lists.size := by
  rw [settled.housed.lists]
  exact Nat.lt_succ_of_le (settled.forest.fits found).capped

/-- There are counts for the order of a block. -/
theorem Settled.has_count (settled : allocator.Settled hand)
    (found : allocator.arena.outline id = some block) :
    ∃ count, allocator.counts[block.order]? = some count := by
  have inside : block.order < allocator.counts.size := by
    rw [settled.sized]
    exact Nat.lt_succ_of_le (settled.forest.fits found).capped
  exact ⟨_, Array.getElem?_eq_getElem inside⟩

/-- Another use of a leaf, counted as it should be, leaves a settled allocator. -/
theorem Settled.relabel (settled : allocator.Settled hand) {arena : Arena}
    {counts : Array OrderCount} {state : BlockState} (left : List BlockId)
    (found : allocator.arena.outline id = some block) (leaf : block.isLeaf = true)
    (still : ({ block with state } : Block).isLeaf = true) (sound : arena.Sound)
    (room : allocator.arena.SameRoom arena)
    (outline : arena.outline =
      Function.update allocator.arena.outline id (some { block with state }))
    (sized : counts.size = allocator.counts.size) (counted : Counted arena.outline counts)
    (loose : state = .loose → id ∈ left) (others : ∀ other ∈ hand, other ≠ id → other ∈ left) :
    ({ allocator with arena, counts } : Allocator).Settled left where
  sound := sound
  forest := by
    rw [outline]
    exact settled.forest.relabel found leaf still
  housed := by
    exact settled.housed.sameRoom room outline
  sized := sized.trans settled.sized
  counted := counted
  roots tile := by
    dsimp only
    rw [outline]
    exact (holdsAt_relabel found state tile rfl).trans (settled.roots tile)
  in_hand {other held} present is_loose := by
    dsimp only at present
    rw [outline] at present
    rcases update_eq_some_iff.mp present with ⟨rfl, changed⟩ | ⟨apart, present⟩
    · obtain rfl := Option.some.inj changed
      exact loose is_loose
    · exact others other (settled.in_hand present is_loose) apart

/-- A change between uses that are not counted leaves the counts right. -/
theorem Settled.counted_relabel (settled : allocator.Settled hand) {arena : Arena}
    {state : BlockState} (found : allocator.arena.outline id = some block)
    (outline : arena.outline =
      Function.update allocator.arena.outline id (some { block with state }))
    (allocated : ({ block with state } : Block).isAllocated = block.isAllocated)
    (split : ({ block with state } : Block).isSplit = block.isSplit) :
    Counted arena.outline allocator.counts := by
  have finite := finitelyMany_outline allocator.arena
  rw [outline]
  refine settled.counted.congr (fun order => ?_) fun order => ?_
  · refine ncard_update_of_weight_eq finite ?_
    rw [found]
    simp [weight, allocated]
  · refine ncard_update_of_weight_eq finite ?_
    rw [found]
    simp [weight, split]

/-- A leaf that is handed out or taken back leaves the counts right when the number of its order
changes with it. -/
theorem Settled.counted_handed (settled : allocator.Settled hand) {arena : Arena}
    {state : BlockState} {count : OrderCount} {number : Nat}
    (found : allocator.arena.outline id = some block) (leaf : block.isLeaf = true)
    (still : ({ block with state } : Block).isLeaf = true)
    (outline : arena.outline =
      Function.update allocator.arena.outline id (some { block with state }))
    (present : allocator.counts[block.order]? = some count)
    (changes : number + block.isAllocated.toNat =
      count.allocated + ({ block with state } : Block).isAllocated.toNat) :
    Counted arena.outline
      (allocator.counts.setIfInBounds block.order { count with allocated := number }) := by
  have finite := finitelyMany_outline allocator.arena
  have weighs : ∀ (held : Block) (order : Nat), weight Block.isAllocated order (some held) =
      if held.order = order then held.isAllocated.toNat else 0 := by
    intro held order
    cases handed : held.isAllocated <;> simp [weight, handed]
  rw [outline]
  refine settled.counted.step present (fun other => ?_) fun other => ?_
  · have moved := ncard_handlesOf_update finite Block.isAllocated other id
      (some { block with state })
    rw [found, weighs, weighs] at moved
    by_cases same : other = block.order
    · simp only [same, if_true] at moved ⊢
      omega
    · simp only [if_neg same, if_neg (Ne.symm same)] at moved ⊢
      omega
  · rw [ncard_update_of_weight_eq finite]
    rw [found]
    simp [weight, Block.isSplit, leaf, still]

/-- A loose block in hand can be put on its free list. -/
theorem settles_list (settled : allocator.Settled (id :: hand))
    (found : allocator.arena.outline id = some block) (loose : block.state = .loose) :
    (list id).Yields allocator
      (fun _ after => after.Settled hand ∧ SameBooks allocator after ∧
        after.arena.outline = Function.update allocator.arena.outline id
          (some { block with state := .listed none none }))
      (fun _ _ => False) := by
  have unlisted : block.isListed = false := Block.isListed_of_loose loose
  obtain ⟨leaf, unused, whole⟩ := of_half_state (.inl loose)
  have at_id := Arena.block?_of_unlisted_outline found unlisted
  have placed : ∀ {result : Except Failure Arena}, allocator.arena.Answers result
      (Function.update allocator.arena.outline id
        (some { block with state := .listed none none })) →
      ∃ arena, result = .ok arena ∧ ({ allocator with arena } : Allocator).Settled hand ∧
        arena.outline = Function.update allocator.arena.outline id
          (some { block with state := .listed none none }) := by
    rintro result ⟨arena, run, sound, room, outline⟩
    have counted : Counted arena.outline allocator.counts :=
      settled.counted_relabel found outline (by rw [unused]; rfl) (by rw [whole]; rfl)
    have after := settled.relabel hand found leaf rfl sound room outline rfl counted
      (fun same => by cases same)
      fun other mem apart => (List.mem_cons.mp mem).resolve_left apart
    exact ⟨arena, run, after, outline⟩
  unfold list
  simp only [yields_bind, yields_get, yields_block_of at_id]
  split
  · obtain ⟨arena, run, after, outline⟩ :=
      placed (Arena.answers_pushBack settled.sound found loose (settled.has_list found))
    exact (yields_changeArena_of run).mpr ⟨after, rfl, outline⟩
  · obtain ⟨arena, run, after, outline⟩ :=
      placed (Arena.answers_pushFront settled.sound found loose (settled.has_list found))
    exact (yields_changeArena_of run).mpr ⟨after, rfl, outline⟩

/-- A free block can be taken off its free list. -/
theorem settles_unlink (settled : allocator.Settled hand)
    (found : allocator.arena.outline id = some block) (listed : block.isListed = true) :
    (changeArena (·.unlink id)).Yields allocator
      (fun _ after => after.Settled (id :: hand) ∧ SameBooks allocator after ∧
        after.arena.outline = Function.update allocator.arena.outline id
          (some { block with state := .loose }))
      (fun _ _ => False) := by
  obtain ⟨arena, run, sound, room, outline⟩ :=
    Arena.answers_unlink settled.sound found listed (settled.has_list found)
  obtain ⟨_, _, state⟩ := Block.isListed_iff.mp listed
  have leaf := Block.isLeaf_of_isListed listed
  have counted : Counted arena.outline allocator.counts := by
    refine settled.counted_relabel found outline ?_ ?_
    · simp [Block.isAllocated, state]
    · simp [Block.isSplit, Block.isLeaf, state]
  have after := settled.relabel (id :: hand) found leaf rfl sound room outline rfl counted
    (fun _ => List.mem_cons_self) fun other mem _ => List.mem_cons_of_mem _ mem
  exact (yields_changeArena_of run).mpr ⟨after, rfl, outline⟩

/-- A loose block in hand can be handed out. -/
theorem settles_markAllocated (settled : allocator.Settled (id :: hand))
    (found : allocator.arena.outline id = some block) (loose : block.state = .loose) :
    (markAllocated id).Yields allocator
      (fun _ after => after.Settled hand ∧ SameBooks allocator after ∧
        after.arena.outline = Function.update allocator.arena.outline id
          (some { block with state := .allocated }))
      (fun _ _ => False) := by
  have unlisted : block.isListed = false := Block.isListed_of_loose loose
  obtain ⟨leaf, unused, -⟩ := of_half_state (.inl loose)
  have at_id := Arena.block?_of_unlisted_outline found unlisted
  obtain ⟨count, present⟩ := settled.has_count found
  obtain ⟨arena, run, sound, room, outline⟩ := Arena.answers_update settled.sound found unlisted
    ({ · with state := .allocated }) rfl
  have counted : Counted arena.outline (allocator.counts.setIfInBounds block.order
      { count with allocated := count.allocated + 1 }) :=
    settled.counted_handed found leaf rfl outline present (by rw [unused]; rfl)
  have after := settled.relabel hand found leaf rfl sound room outline
    (Array.size_setIfInBounds ..) counted (fun same => by cases same)
    fun other mem apart => (List.mem_cons.mp mem).resolve_left apart
  unfold markAllocated
  simp only [yields_bind, yields_block_of at_id]
  rw [if_neg (not_not.mpr loose)]
  simp only [yields_bind]
  refine (yields_changeArena_of run).mpr ?_
  exact yields_changeCount_of present rfl ⟨after, rfl, outline⟩

/-- As soon as a handle is new, none is vacant, so all of them have blocks of the forest. -/
theorem housed_of_growth {arena : Arena} {lists handles more units maxOrder : Nat}
    (housed : arena.Housed lists more) (forest : Forest units maxOrder arena.outline)
    (bound : handles ≤ 2 * units - 1)
    (growth : arena.nodes.size = handles ∨ arena.vacant = []) :
    arena.Housed lists (2 * units - 1) := by
  refine ⟨housed.lists, ?_, housed.vacant⟩
  rcases growth with same | empty
  · omega
  · refine forest.size_le fun id inside unused => ?_
    have mem := housed.vacant id inside unused
    rw [empty] at mem
    cases mem

/-- A loose block in hand that got two loose halves leaves these in hand. -/
theorem Settled.divide (settled : allocator.Settled (id :: hand)) {arena : Arena}
    {left right : BlockId} {leftHalf rightHalf : Block} {order : Nat} {count : OrderCount}
    (halved : Halved allocator.arena.outline id left right block leftHalf rightHalf order)
    (sound : arena.Sound)
    (outline : arena.outline =
      withHalves allocator.arena.outline id left right block leftHalf rightHalf)
    (housed : arena.Housed (allocator.space.maxOrder + 1) (2 * allocator.space.units - 1))
    (present : allocator.counts[block.order]? = some count) :
    ({ allocator with
      arena
      counts := allocator.counts.setIfInBounds block.order
        { count with split := count.split + 1 } } : Allocator).Settled
        (right :: left :: hand) where
  sound := sound
  forest := by
    rw [outline]
    exact halved.forest settled.forest
  housed := housed
  sized := (Array.size_setIfInBounds ..).trans settled.sized
  counted := by
    dsimp only
    rw [outline]
    refine settled.counted.step present (fun other => ?_) fun other => ?_
    · rw [(halved.ncard (finitelyMany_outline allocator.arena) other).1]
    · dsimp only
      rw [(halved.ncard (finitelyMany_outline allocator.arena) other).2]
      by_cases same : other = block.order
      · simp only [if_pos same]
        exact Nat.add_right_comm ..
      · simp only [if_neg same]
  roots tile := by
    dsimp only
    rw [outline, halved.roots_iff]
    exact settled.roots tile
  in_hand {other held} found loose := by
    dsimp only at found
    rw [outline] at found
    rcases halved.eq_some_iff.mp found with ⟨-, rfl⟩ | ⟨rfl, -⟩ | ⟨rfl, -⟩ | ⟨apart, -, -, found⟩
    · cases loose
    · exact List.mem_cons_self
    · exact List.mem_cons_of_mem _ List.mem_cons_self
    · have mem := (List.mem_cons.mp (settled.in_hand found loose)).resolve_left apart
      exact List.mem_cons_of_mem _ (List.mem_cons_of_mem _ mem)

/-- The class of the halves of an order, when a block is split for a class. -/
def halfClass (space : Space) (order : Nat) (pageClass : PageClass) : PageClass :=
  if space.tags order then pageClass else .any

/-- The class of a half serves whom the block was split for. -/
theorem accepts_halfClass (space : Space) (order : Nat) (pageClass : PageClass) :
    (halfClass space order pageClass).accepts pageClass = true := by
  unfold halfClass PageClass.accepts
  split <;> simp

/-- There is no handle for one of the halves of a block. -/
def NoHalf (arena : Arena) (block : Block) (order : Nat) (pageClass : PageClass) (id : BlockId) :
    Prop :=
  arena.insert { position := block.position, order, pageClass } =
      .error (.aborted (.block .arenaFull)) ∨
    ∃ left first, arena.insert { position := block.position, order, pageClass } =
        .ok (left, first) ∧
      first.insert {
          position := block.position + twoPow order, order, pageClass,
          family := some { parent := id, buddy := left } } =
        .error (.aborted (.block .arenaFull))

/-- An arena gives a block two halves, unless all handles are taken. New handles are used only when
none is vacant. -/
theorem exists_divides_or_full {arena : Arena} {lists handles : Nat} (sound : arena.Sound)
    (housed : arena.Housed lists handles) (found : arena.outline id = some block)
    (unlisted : block.isListed = false) (order : Nat) (pageClass : PageClass) :
    (∃ left right first second third fourth,
      Divides arena id block order pageClass left right first second third fourth ∧
      fourth.Housed lists (handles + 2) ∧
      (fourth.nodes.size = arena.nodes.size ∨ fourth.vacant = [])) ∨
    NoHalf arena block order pageClass id ∧ Arena.capacity ≤ arena.nodes.size + 1 := by
  have handles_le := housed.handles
  let leftBlock : Block := { position := block.position, order, pageClass }
  rcases Arena.insert_cases sound housed leftBlock rfl with
    ⟨left, first, insert_left, left_fresh, first_sound, first_outline, first_lists, first_vacant,
      first_growth⟩ | ⟨full, -, taken⟩
  on_goal 2 => exact .inr ⟨.inl full, by omega⟩
  have first_housed : first.Housed lists (handles + 1) := ⟨first_lists, by omega, first_vacant⟩
  rcases Arena.insert_cases first_sound first_housed {
      position := block.position + twoPow order, order, pageClass,
      family := some { parent := id, buddy := left } } rfl with
    ⟨right, second, insert_right, right_fresh, second_sound, second_outline, second_lists,
      second_vacant, second_growth⟩ | ⟨full, -, taken⟩
  on_goal 2 => exact .inr ⟨.inr ⟨left, first, insert_left, full⟩, by omega⟩
  have second_housed : second.Housed lists (handles + 2) :=
    ⟨second_lists, by omega, second_vacant⟩
  have at_left : first.outline left = some leftBlock := by
    rw [first_outline, Function.update_self]
  have left_apart : left ≠ id := ne_of_fresh found left_fresh
  have still_found : first.outline id = some block := by
    rw [first_outline, Function.update_of_ne left_apart.symm, found]
  have still_left : second.outline left = some leftBlock := by
    rw [second_outline, Function.update_of_ne (ne_of_fresh at_left right_fresh).symm, at_left]
  obtain ⟨third, relate, third_sound, third_room, third_outline⟩ :=
    Arena.answers_update second_sound still_left rfl
      ({ · with family := some { parent := id, buddy := right } }) rfl
  have still_id : third.outline id = some block := by
    rw [third_outline, Function.update_of_ne left_apart.symm, second_outline,
      Function.update_of_ne (ne_of_fresh still_found right_fresh).symm, still_found]
  obtain ⟨fourth, divide, -, fourth_room, fourth_outline⟩ :=
    Arena.answers_update third_sound still_id unlisted
      ({ · with state := .split left right }) rfl
  refine .inl ⟨left, right, first, second, third, fourth,
    ⟨insert_left, insert_right, relate, divide⟩,
    (second_housed.sameRoom third_room third_outline).sameRoom fourth_room fourth_outline, ?_⟩
  rw [fourth_room.size, third_room.size, fourth_room.vacant, third_room.vacant]
  rcases second_growth with ⟨kept, some_vacant⟩ | ⟨-, empty, -⟩
  · rcases first_growth with ⟨also_kept, -⟩ | ⟨-, empty, -⟩
    · exact .inl (kept.trans also_kept)
    · exact absurd empty some_vacant
  · exact .inr empty

/-- A split comes down to listing the right half, once there are two halves. -/
theorem yields_split_of {order : Nat} {pageClass : PageClass} {left right : BlockId}
    {first second third fourth : Arena} {count : OrderCount}
    {good : BlockId × BlockId → Allocator → Prop} {bad : Failure → Allocator → Prop}
    (at_id : allocator.arena.block? id = some block) (loose : block.state = .loose)
    (above : block.order = order + 1) (present : allocator.counts[block.order]? = some count)
    (divides : Divides allocator.arena id block order (halfClass allocator.space order pageClass)
      left right first second third fourth)
    (listing : (list right).Yields
      { allocator with
        arena := fourth
        counts := allocator.counts.setIfInBounds block.order
          { count with split := count.split + 1 } }
      (fun _ after => good (left, right) after) bad) :
    (split id pageClass).Yields allocator good bad := by
  unfold halfClass at divides
  unfold split
  simp only [yields_bind, yields_block_of at_id]
  rw [if_neg (not_not.mpr loose)]
  simp only [above, yields_bind, yields_get]
  rw [← above, yields_withArena_of divides.insert_left, yields_withArena_of divides.insert_right]
  refine (yields_changeArena_of divides.relate).mpr ?_
  refine (yields_changeArena_of divides.divide).mpr ?_
  exact yields_changeCount_of present rfl listing

/-- A split stops when there is no handle for one of the halves. -/
theorem yields_split_full {order : Nat} {pageClass : PageClass}
    {good : BlockId × BlockId → Allocator → Prop} {bad : Failure → Allocator → Prop}
    (at_id : allocator.arena.block? id = some block) (loose : block.state = .loose)
    (above : block.order = order + 1)
    (full : NoHalf allocator.arena block order (halfClass allocator.space order pageClass) id)
    (stops : ∀ after, bad (.aborted (.block .arenaFull)) after) :
    (split id pageClass).Yields allocator good bad := by
  unfold NoHalf halfClass at full
  unfold split
  simp only [yields_bind, yields_block_of at_id]
  rw [if_neg (not_not.mpr loose)]
  simp only [above, yields_bind, yields_get]
  rcases full with full | ⟨left, first, insert_left, full⟩
  · exact (yields_withArena_error full).mpr (stops _)
  · rw [yields_withArena_of insert_left]
    exact (yields_withArena_error full).mpr (stops _)

/-- A loose block in hand gets two loose halves, unless all handles are taken. -/
theorem Settled.divides_or_full (settled : allocator.Settled (id :: hand))
    (found : allocator.arena.outline id = some block) (loose : block.state = .loose) {order : Nat}
    (above : block.order = order + 1) (pageClass : PageClass) {count : OrderCount}
    (present : allocator.counts[block.order]? = some count) :
    (∃ left right first second third fourth leftHalf rightHalf,
      Divides allocator.arena id block order pageClass left right first second third fourth ∧
      Halved allocator.arena.outline id left right block leftHalf rightHalf order ∧
      leftHalf.state = .loose ∧ rightHalf.state = .loose ∧ leftHalf.pageClass = pageClass ∧
      rightHalf.pageClass = pageClass ∧ fourth.outline =
        withHalves allocator.arena.outline id left right block leftHalf rightHalf ∧
      ({ allocator with
        arena := fourth
        counts := allocator.counts.setIfInBounds block.order
          { count with split := count.split + 1 } } : Allocator).Settled (right :: left :: hand)) ∨
    NoHalf allocator.arena block order pageClass id ∧
      Arena.capacity < 2 * allocator.space.units := by
  have unlisted : block.isListed = false := Block.isListed_of_loose loose
  have handles := settled.housed.handles
  -- The number of handles is odd, so it is not twice a number of units.
  have odd : Arena.capacity = 2 * 0x7fffffff + 1 := by decide
  rcases exists_divides_or_full settled.sound settled.housed found unlisted order pageClass with
    ⟨left, right, first, second, third, fourth, divides, wide, growth⟩ | ⟨full, taken⟩
  on_goal 2 => exact .inr ⟨full, by omega⟩
  obtain ⟨left_fresh, right_fresh, -, right_apart, distinct, sound, leftHalf, rightHalf, halves,
    left_loose, right_loose, left_class, right_class, outline⟩ :=
      sound_divide settled.sound found unlisted above divides
  have halved : Halved allocator.arena.outline id left right block leftHalf rightHalf order :=
    ⟨found, loose, left_fresh, right_fresh, distinct, halves, .inl left_loose, .inl right_loose⟩
  have forest : Forest allocator.space.units allocator.space.maxOrder fourth.outline := by
    rw [outline]
    exact halved.forest settled.forest
  have housed := housed_of_growth wide forest handles growth
  exact .inl ⟨left, right, first, second, third, fourth, leftHalf, rightHalf, divides, halved,
    left_loose, right_loose, left_class, right_class, outline,
    settled.divide halved sound outline housed present⟩

/-- A loose block in hand can be split, unless all handles are taken. -/
theorem settles_split (settled : allocator.Settled (id :: hand))
    (found : allocator.arena.outline id = some block) (loose : block.state = .loose) {order : Nat}
    (above : block.order = order + 1) (pageClass : PageClass) :
    (split id pageClass).Yields allocator
      (fun halves after => after.Settled (halves.1 :: hand) ∧ SameBooks allocator after ∧
        ∃ leftHalf rightHalf,
          Halved allocator.arena.outline id halves.1 halves.2 block leftHalf rightHalf order ∧
          leftHalf.state = .loose ∧ rightHalf.state = .listed none none ∧
          leftHalf.pageClass = halfClass allocator.space order pageClass ∧
          rightHalf.pageClass = halfClass allocator.space order pageClass ∧
          after.arena.outline =
            withHalves allocator.arena.outline id halves.1 halves.2 block leftHalf rightHalf)
      (fun failure _ => allocator.Crowded failure) := by
  have at_id := Arena.block?_of_unlisted_outline found (Block.isListed_of_loose loose)
  obtain ⟨count, present⟩ := settled.has_count found
  rcases settled.divides_or_full found loose above (halfClass allocator.space order pageClass)
      present with
    ⟨left, right, _, _, _, fourth, leftHalf, rightHalf, divides, halved, left_loose, right_loose,
      left_class, right_class, outline, divided⟩ | ⟨full, crowded⟩
  on_goal 2 => exact yields_split_full at_id loose above full fun _ => ⟨rfl, crowded⟩
  have right_apart := halved.apart.2
  have at_right : fourth.outline right = some rightHalf := by
    rw [outline, withHalves_right right_apart]
  refine yields_split_of at_id loose above present divides ?_
  refine (settles_list divided at_right right_loose).mono (fun _ after ⟨settled_after, books,
    shown⟩ => ?_) fun _ _ => False.elim
  have same_books : SameBooks allocator after := by
    have step : SameBooks allocator { allocator with
        arena := fourth
        counts := allocator.counts.setIfInBounds block.order
          { count with split := count.split + 1 } } := rfl
    exact step.trans books
  refine ⟨settled_after, same_books, leftHalf, { rightHalf with state := .listed none none }, ?_,
    left_loose, rfl, left_class, right_class, ?_⟩
  · exact ⟨found, loose, halved.left_fresh, halved.right_fresh, halved.distinct,
      halved.halves.withRightState _, .inl left_loose, .inr rfl⟩
  · rw [shown]
    dsimp only
    rw [outline, withHalves_update_right right_apart]

end Blocks

end GpuSched.Buddy.Allocator
