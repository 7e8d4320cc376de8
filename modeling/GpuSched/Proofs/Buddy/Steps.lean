import GpuSched.Buddy.Allocator
import GpuSched.Proofs.Buddy.Effects
import GpuSched.Proofs.Buddy.Forest

/-!
# Steps of an allocator

An allocator is tiled when its blocks form a forest over its space and its arena is sound. Every
step on blocks keeps an allocator tiled and spares the blocks that are handed out, except for those
that it takes back. Where a step does not answer, the allocator is just as well kept, unless a check
of a block failed.
-/
namespace GpuSched.Buddy.Allocator

open Operation

variable {α : Type}

/-- The blocks are a forest over the space, and the free lists represent sequences. -/
structure Tiled (allocator : Allocator) : Prop where
  sound : allocator.arena.Sound
  forest : Forest allocator.space.units allocator.space.maxOrder allocator.arena.outline

/-- The space, the live allocations and the blocks handed out stay, except for some blocks. -/
structure Spares (gone : List BlockId) (before after : Allocator) : Prop where
  space : after.space = before.space
  ordinary : after.ordinary = before.ordinary
  fixed : after.fixed = before.fixed
  allocated : ∀ {id block}, before.arena.outline id = some block → block.state = .allocated →
    id ∉ gone → after.arena.outline id = some block

/-- No block is handed out under a handle. -/
def Unused (allocator : Allocator) (id : BlockId) : Prop :=
  ∀ block, allocator.arena.outline id = some block → block.state ≠ .allocated

/-- The failed checks of blocks. -/
def Halts (failure : Failure) : Prop := ∃ check, failure = .aborted (.block check)

/-- After a failure the allocator is kept, unless a check of a block failed. -/
def Intact (gone : List BlockId) (before : Allocator) (failure : Failure) (after : Allocator) :
    Prop :=
  Halts failure ∨ after.Tiled ∧ Spares gone before after

/-- Nothing happened. -/
theorem Spares.refl (gone : List BlockId) (allocator : Allocator) :
    Spares gone allocator allocator :=
  ⟨rfl, rfl, rfl, fun found _ _ => found⟩

/-- One step after another spares what both spare. -/
theorem Spares.trans {first second : List BlockId} {before middle after : Allocator}
    (one : Spares first before middle) (two : Spares second middle after)
    (within : ∀ id ∈ second, id ∈ first ∨ before.Unused id) :
    Spares first before after where
  space := two.space.trans one.space
  ordinary := two.ordinary.trans one.ordinary
  fixed := two.fixed.trans one.fixed
  allocated {id block} found allocated spared := by
    refine two.allocated (one.allocated found allocated spared) allocated fun taken => ?_
    rcases within id taken with gone | unused
    · exact spared gone
    · exact unused block found allocated

/-- What spares more spares less. -/
theorem Spares.mono {first second : List BlockId} {before after : Allocator}
    (spares : Spares first before after) (within : first ⊆ second) : Spares second before after :=
  ⟨spares.space, spares.ordinary, spares.fixed,
    fun found allocated spared => spares.allocated found allocated fun gone => spared (within gone)⟩

/-- A step that spares everything comes before one that spares less. -/
theorem Spares.then {gone : List BlockId} {before middle after : Allocator}
    (one : Spares [] before middle) (two : Spares gone middle after) :
    Spares gone before after where
  space := two.space.trans one.space
  ordinary := two.ordinary.trans one.ordinary
  fixed := two.fixed.trans one.fixed
  allocated found allocated spared :=
    two.allocated (one.allocated found allocated List.not_mem_nil) allocated spared

/-- A step on one block spares all others. -/
theorem Spares.of_update {before after : Allocator} {id : BlockId} {changed : Option Block}
    {gone : List BlockId} (space : after.space = before.space)
    (ordinary : after.ordinary = before.ordinary) (fixed : after.fixed = before.fixed)
    (outline : after.arena.outline = Function.update before.arena.outline id changed)
    (free : id ∈ gone ∨ before.Unused id) :
    Spares gone before after := by
  refine ⟨space, ordinary, fixed, fun {other block} found allocated spared => ?_⟩
  have apart : other ≠ id := by
    rintro rfl
    rcases free with taken | unused
    · exact spared taken
    · exact unused block found allocated
  rw [outline, Function.update_of_ne apart, found]

/-- What is kept with fewer blocks gone is kept with more of them gone. -/
theorem Intact.mono {first second : List BlockId} {before after : Allocator} {failure : Failure}
    (intact : Intact first before failure after) (within : first ⊆ second) :
    Intact second before failure after :=
  intact.imp_right fun ⟨tiled, spares⟩ => ⟨tiled, spares.mono within⟩

/-- What is kept after a failure of the second of two steps is kept after both. -/
theorem Intact.after {gone : List BlockId} {before middle after : Allocator} {failure : Failure}
    (one : Spares [] before middle) (two : Intact gone middle failure after) :
    Intact gone before failure after :=
  two.imp_right fun ⟨tiled, spares⟩ => ⟨tiled, one.then spares⟩

/-- A failure of a step that spares everything, after one that does not. -/
theorem Spares.thenIntact {gone : List BlockId} {before middle after : Allocator}
    {failure : Failure} (one : Spares gone before middle) (two : Intact [] middle failure after) :
    Intact gone before failure after :=
  two.imp_right fun ⟨tiled, spares⟩ => ⟨tiled, one.trans spares (by simp)⟩

/-- A handle is unused when its block has another state than that of being handed out. -/
theorem unused_of_outline {allocator : Allocator} {id : BlockId} {block : Block}
    (found : allocator.arena.outline id = some block) (state : block.state ≠ .allocated) :
    allocator.Unused id := by
  intro held under
  rw [found, Option.some.injEq] at under
  exact under ▸ state

/-- What is unused after a step that spares everything was unused before. -/
theorem Spares.unused {before after : Allocator} (spares : Spares [] before after) {id : BlockId}
    (unused : after.Unused id) : before.Unused id := by
  intro block found allocated
  exact unused block (spares.allocated found allocated List.not_mem_nil) allocated

section Parts

variable {allocator : Allocator} {good : α → Allocator → Prop} {bad : Failure → Allocator → Prop}

/-- A step of the arena that answers a value. -/
theorem yields_withArena {step : Arena → Except Failure (α × Arena)}
    (works : ∀ value arena, step allocator.arena = .ok (value, arena) →
      good value { allocator with arena })
    (fails : ∀ failure, step allocator.arena = .error failure → bad failure allocator) :
    (withArena step).Yields allocator good bad := by
  unfold withArena
  simp only [yields_bind, yields_get]
  exact yields_lift_of (fun _ run => works _ _ run) fails

/-- A step of the arena. -/
theorem yields_changeArena {step : Arena → Except Failure Arena} {good : Unit → Allocator → Prop}
    (works : ∀ arena, step allocator.arena = .ok arena → good () { allocator with arena })
    (fails : ∀ failure, step allocator.arena = .error failure → bad failure allocator) :
    (changeArena step).Yields allocator good bad := by
  unfold changeArena
  simp only [yields_bind, yields_get]
  exact yields_lift_of (fun _ run => works _ run) fails

/-- The block under a handle is answered, unless there is none. -/
theorem yields_block {id : BlockId} {good : Block → Allocator → Prop}
    (works : ∀ block, allocator.arena.block? id = some block → good block allocator)
    (fails : ∀ failure, Halts failure → bad failure allocator) :
    (block id).Yields allocator good bad := by
  unfold Allocator.block
  simp only [yields_bind, yields_get]
  refine yields_lift_of (fun _ run => works _ (Arena.block_eq_ok_iff.mp run)) fun failure run => ?_
  unfold Arena.block at run
  split at run
  · cases run
  · exact fails failure ⟨_, (Except.error.inj run).symm⟩

/-- A change of counts changes nothing else. -/
theorem yields_changeCount {order : Nat} {change : OrderCount → Except Failure OrderCount}
    {good : Unit → Allocator → Prop} (works : ∀ counts, good () { allocator with counts })
    (fails : ∀ failure, bad failure allocator) :
    (changeCount order change).Yields allocator good bad := by
  unfold changeCount
  simp only [yields_bind, yields_get]
  unfold entry
  split
  · rw [yields_pure]
    exact yields_lift_of (fun _ _ => works _) fun failure _ => fails failure
  · exact fails _

end Parts

/-- A change of a block fails only without a block. -/
theorem halts_of_update {arena : Arena} {id : BlockId} {change : Block → Block} {failure : Failure}
    (run : arena.update id change = .error failure) : Halts failure := by
  unfold Arena.update Arena.block at run
  split at run
  · cases run
  · exact ⟨_, (Except.error.inj run).symm⟩

/-- A new block fails only without a handle. -/
theorem halts_of_insert {arena : Arena} {block : Block} {failure : Failure}
    (run : arena.insert block = .error failure) : Halts failure := by
  unfold Arena.insert at run
  split at run
  · cases run
  · split at run
    · cases run
    · exact ⟨_, (Except.error.inj run).symm⟩

/-- Giving a handle back fails only in a check. -/
theorem halts_of_remove {arena : Arena} {id : BlockId} {failure : Failure}
    (run : arena.remove id = .error failure) : Halts failure := by
  unfold Arena.remove at run
  split at run
  · exact ⟨_, (Except.error.inj run).symm⟩
  · split at run
    · exact ⟨_, (Except.error.inj run).symm⟩
    · cases run

section Blocks

variable {allocator : Allocator} {id : BlockId}

/-- Counts play no part in a tiling. -/
theorem Tiled.withCounts (tiled : allocator.Tiled) (counts : Array OrderCount) :
    ({ allocator with counts } : Allocator).Tiled :=
  ⟨tiled.sound, tiled.forest⟩

/-- Counts play no part in what is spared. -/
theorem Spares.withCounts {gone : List BlockId} {before after : Allocator}
    (spares : Spares gone before after) (counts : Array OrderCount) :
    Spares gone before { after with counts } :=
  ⟨spares.space, spares.ordinary, spares.fixed, spares.allocated⟩

/-- Listing a loose block keeps the tiling. -/
theorem yields_list (tiled : allocator.Tiled) :
    (list id).Yields allocator
      (fun _ after => after.Tiled ∧ Spares [] allocator after ∧ ∃ block,
        allocator.arena.outline id = some block ∧ block.state = .loose ∧
        after.arena.outline = Function.update allocator.arena.outline id
          (some { block with state := .listed none none }))
      (Intact [] allocator) := by
  have placed {changed : Arena} (moved : ∃ block, allocator.arena.block? id = some block ∧
      block.state = .loose ∧ changed.Sound ∧ changed.outline = Function.update
        allocator.arena.outline id (some { block with state := .listed none none })) :
      ({ allocator with arena := changed } : Allocator).Tiled ∧
      Spares [] allocator { allocator with arena := changed } ∧ ∃ block,
        allocator.arena.outline id = some block ∧ block.state = .loose ∧
        changed.outline = Function.update allocator.arena.outline id
          (some { block with state := .listed none none }) := by
    obtain ⟨block, found, loose, sound, outline⟩ := moved
    have unlisted : block.isListed = false := Block.isListed_of_loose loose
    have drawn : allocator.arena.outline id = some block := by
      rw [Arena.outline_of_block? found, Block.outline_of_not_listed unlisted]
    have leaf : block.isLeaf = true := Block.isLeaf_of_loose loose
    refine ⟨⟨sound, ?_⟩, ?_, block, drawn, loose, outline⟩
    · rw [outline]
      exact tiled.forest.relabel drawn leaf rfl
    · refine Spares.of_update rfl rfl rfl outline (.inr (unused_of_outline drawn ?_))
      rw [loose]
      exact BlockState.noConfusion
  have intact {failure : Failure} : Intact [] allocator failure allocator :=
    .inr ⟨tiled, .refl [] allocator⟩
  unfold list
  simp only [yields_bind, yields_get]
  refine yields_block (fun block _ => ?_) fun _ halts => .inl halts
  split
  · exact yields_changeArena (fun _ run => placed (Arena.sound_pushBack tiled.sound run))
      fun _ _ => intact
  · exact yields_changeArena (fun _ run => placed (Arena.sound_pushFront tiled.sound run))
      fun _ _ => intact

/-- Taking a listed block off its list keeps the tiling. -/
theorem yields_unlink (tiled : allocator.Tiled) :
    (changeArena (·.unlink id)).Yields allocator
      (fun _ after => after.Tiled ∧ Spares [] allocator after ∧ ∃ block,
        allocator.arena.block? id = some block ∧ block.isListed = true ∧
        after.arena.outline = Function.update allocator.arena.outline id
          (some { block with state := .loose }))
      (Intact [] allocator) := by
  refine yields_changeArena (fun arena run => ?_) fun _ _ => .inr ⟨tiled, .refl [] allocator⟩
  obtain ⟨block, found, listed, sound, outline⟩ := Arena.sound_unlink tiled.sound run
  obtain ⟨previous, next, state⟩ := Block.isListed_iff.mp listed
  have drawn : allocator.arena.outline id = some { block with state := .listed none none } := by
    rw [Arena.outline_of_block? found]
    unfold Block.outline
    rw [state]
  refine ⟨⟨sound, ?_⟩, ?_, block, found, listed, outline⟩
  · rw [outline]
    exact tiled.forest.relabel drawn rfl rfl
  · refine Spares.of_update rfl rfl rfl outline (.inr (unused_of_outline drawn ?_))
    exact BlockState.noConfusion

/-- Another use of an unlisted leaf keeps the tiling. -/
theorem yields_relabel (tiled : allocator.Tiled) {block : Block} {state : BlockState}
    {gone : List BlockId} (found : allocator.arena.block? id = some block)
    (before : block.isListed = false) (leaf : block.isLeaf = true)
    (after : ({ block with state } : Block).isListed = false)
    (still : ({ block with state } : Block).isLeaf = true)
    (free : id ∈ gone ∨ block.state ≠ .allocated) :
    (changeArena (·.update id ({ · with state }))).Yields allocator
      (fun _ after => after.Tiled ∧ Spares gone allocator after ∧
        after.arena.outline = Function.update allocator.arena.outline id
          (some { block with state }))
      (Intact gone allocator) := by
  refine yields_changeArena (fun arena run => ?_) fun _ run => .inl (halts_of_update run)
  obtain ⟨sound, outline⟩ := Arena.sound_update tiled.sound found before after run
  have drawn : allocator.arena.outline id = some block := by
    rw [Arena.outline_of_block? found, Block.outline_of_not_listed before]
  refine ⟨⟨sound, ?_⟩, Spares.of_update rfl rfl rfl outline ?_, outline⟩
  · rw [outline]
    exact tiled.forest.relabel drawn leaf still
  · exact free.imp_right (unused_of_outline drawn)

/-- Handing a loose block out keeps the tiling. -/
theorem yields_markAllocated (tiled : allocator.Tiled) :
    (markAllocated id).Yields allocator
      (fun _ after => after.Tiled ∧ Spares [] allocator after ∧ ∃ block,
        allocator.arena.outline id = some block ∧ block.state = .loose ∧
        after.arena.outline = Function.update allocator.arena.outline id
          (some { block with state := .allocated }))
      (Intact [] allocator) := by
  unfold markAllocated
  rw [yields_bind]
  refine yields_block (fun block found => ?_) fun _ halts => .inl halts
  dsimp only
  split
  · exact .inl ⟨_, rfl⟩
  · rename_i loose
    rw [not_not] at loose
    have unlisted : block.isListed = false := Block.isListed_of_loose loose
    have leaf : block.isLeaf = true := Block.isLeaf_of_loose loose
    rw [yields_bind]
    refine (yields_relabel tiled found unlisted leaf rfl rfl (.inr ?_)).imp
      fun _ after ⟨tiled, spares, outline⟩ => ?_
    · rw [loose]
      exact BlockState.noConfusion
    · refine yields_changeCount (fun counts => ?_) fun _ => .inr ⟨tiled, spares⟩
      refine ⟨tiled.withCounts counts, spares.withCounts counts, block, ?_, loose, outline⟩
      rw [Arena.outline_of_block? found, Block.outline_of_not_listed unlisted]

/-- The four steps in which a block gets two halves. -/
structure Divides (arena : Arena) (id : BlockId) (block : Block) (order : Nat)
    (pageClass : PageClass) (left right : BlockId) (first second third fourth : Arena) : Prop where
  insert_left : arena.insert { position := block.position, order, pageClass } = .ok (left, first)
  insert_right : first.insert {
      position := block.position + twoPow order, order, pageClass,
      family := some { parent := id, buddy := left } } = .ok (right, second)
  relate :
    second.update left ({ · with family := some { parent := id, buddy := right } }) = .ok third
  divide : third.update id ({ · with state := .split left right }) = .ok fourth

/-- Both halves of a block get handles of their own, and the block and its left half are changed
as they were. -/
theorem Divides.blocks {arena first second third fourth : Arena} {left right : BlockId}
    {block : Block} {order : Nat} {pageClass : PageClass} (sound : arena.Sound)
    (drawn : arena.outline id = some block) (unlisted : block.isListed = false)
    (divides : Divides arena id block order pageClass left right first second third fourth) :
    arena.outline left = none ∧ arena.outline right = none ∧ left ≠ id ∧ right ≠ id ∧
      left ≠ right ∧ first.Sound ∧ second.Sound ∧ third.Sound ∧
      second.block? left = some { position := block.position, order, pageClass } ∧
      third.block? id = some block ∧
      third.outline = Function.update (Function.update (Function.update arena.outline
        left (some { position := block.position, order, pageClass }))
        right (some {
          position := block.position + twoPow order, order, pageClass,
          family := some { parent := id, buddy := left } }))
        left (some {
          position := block.position, order, pageClass,
          family := some { parent := id, buddy := right } }) := by
  obtain ⟨insert_left, insert_right, relate, divide⟩ := divides
  obtain ⟨left_fresh, sound_first, outline_left⟩ := Arena.sound_insert sound rfl insert_left
  obtain ⟨right_fresh, sound_second, outline_right⟩ :=
    Arena.sound_insert sound_first rfl insert_right
  rw [← Arena.outline_eq_none_iff] at left_fresh right_fresh
  have present : first.outline left = some { position := block.position, order, pageClass } := by
    rw [outline_left, Function.update_self]
  have distinct : left ≠ right := (ne_of_fresh present right_fresh).symm
  rw [outline_left, Function.update_of_ne distinct.symm] at right_fresh
  have left_apart : left ≠ id := ne_of_fresh drawn left_fresh
  have right_apart : right ≠ id := ne_of_fresh drawn right_fresh
  have at_left : second.block? left = some { position := block.position, order, pageClass } := by
    refine Arena.block?_of_unlisted_outline ?_ rfl
    rw [outline_right, Function.update_of_ne distinct, present]
  obtain ⟨sound_third, outline_related⟩ := Arena.sound_update sound_second at_left rfl rfl relate
  have at_id : third.block? id = some block := by
    refine Arena.block?_of_unlisted_outline ?_ unlisted
    rw [outline_related, Function.update_of_ne left_apart.symm, outline_right,
      Function.update_of_ne right_apart.symm, outline_left, Function.update_of_ne left_apart.symm,
      drawn]
  refine ⟨left_fresh, right_fresh, left_apart, right_apart, distinct, sound_first, sound_second,
    sound_third, at_left, at_id, ?_⟩
  rw [outline_related, outline_right, outline_left]

/-- Two new blocks become the halves of a loose one. -/
theorem sound_divide {arena first second third fourth : Arena} {left right : BlockId}
    {block : Block} {order : Nat} {pageClass : PageClass} (sound : arena.Sound)
    (drawn : arena.outline id = some block) (unlisted : block.isListed = false)
    (above : block.order = order + 1)
    (divides : Divides arena id block order pageClass left right first second third fourth) :
    arena.outline left = none ∧ arena.outline right = none ∧ left ≠ id ∧ right ≠ id ∧
      left ≠ right ∧ fourth.Sound ∧ ∃ leftHalf rightHalf,
        AreHalves id left right block leftHalf rightHalf order ∧ leftHalf.state = .loose ∧
        rightHalf.state = .loose ∧ leftHalf.pageClass = pageClass ∧
        rightHalf.pageClass = pageClass ∧
        fourth.outline = withHalves arena.outline id left right block leftHalf rightHalf := by
  obtain ⟨left_fresh, right_fresh, left_apart, right_apart, distinct, -, -, sound_third, -, at_id,
    outline⟩ := divides.blocks sound drawn unlisted
  obtain ⟨sound_fourth, outline_divided⟩ :=
    Arena.sound_update sound_third at_id unlisted rfl divides.divide
  refine ⟨left_fresh, right_fresh, left_apart, right_apart, distinct, sound_fourth,
    { position := block.position, order, pageClass, family := some ⟨id, right⟩ },
    { position := block.position + twoPow order, order, pageClass, family := some ⟨id, left⟩ },
    ⟨above, rfl, rfl, rfl, rfl, rfl, rfl⟩, rfl, rfl, rfl, rfl, ?_⟩
  unfold withHalves
  rw [outline_divided, outline, Function.update_comm distinct, Function.update_idem,
    Function.update_comm distinct.symm]

/-- A split lists the right half and answers the left one loose. -/
theorem yields_split (tiled : allocator.Tiled) {pageClass : PageClass} :
    (split id pageClass).Yields allocator
      (fun halves after => after.Tiled ∧ Spares [] allocator after ∧
        ∃ block order leftHalf rightHalf, allocator.arena.outline id = some block ∧
          block.state = .loose ∧
          AreHalves id halves.1 halves.2 block leftHalf rightHalf order ∧
          after.arena.outline halves.1 = some leftHalf ∧ leftHalf.state = .loose ∧
          after.arena.outline halves.2 =
            some { rightHalf with state := .listed none none })
      (Intact [] allocator) := by
  unfold split
  rw [yields_bind]
  refine yields_block (fun block found => ?_) fun _ halts => .inl halts
  dsimp only
  split
  · exact .inl ⟨_, rfl⟩
  · rename_i loose
    rw [not_not] at loose
    split
    · exact .inl ⟨_, rfl⟩
    · rename_i order above
      simp only [yields_bind, yields_get]
      have unlisted : block.isListed = false := Block.isListed_of_loose loose
      have leaf : block.isLeaf = true := Block.isLeaf_of_loose loose
      have drawn : allocator.arena.outline id = some block := by
        rw [Arena.outline_of_block? found, Block.outline_of_not_listed unlisted]
      refine yields_withArena (fun left first insert_left => ?_)
        fun _ run => .inl (halts_of_insert run)
      refine yields_withArena (fun right second insert_right => ?_)
        fun _ run => .inl (halts_of_insert run)
      refine yields_changeArena (fun third relate => ?_) fun _ run => .inl (halts_of_update run)
      refine yields_changeArena (fun fourth divide => ?_) fun _ run => .inl (halts_of_update run)
      obtain ⟨left_fresh, right_fresh, left_apart, right_apart, distinct, sound, leftHalf,
        rightHalf, halves, left_loose, right_loose, -, -, outline⟩ := sound_divide tiled.sound drawn
          unlisted above ⟨insert_left, insert_right, relate, divide⟩
      clear insert_left insert_right relate divide
      have left_leaf : leftHalf.isLeaf = true := Block.isLeaf_of_loose left_loose
      have right_leaf : rightHalf.isLeaf = true := Block.isLeaf_of_loose right_loose
      have forest := tiled.forest.split drawn leaf left_fresh right_fresh distinct halves left_leaf
        right_leaf
      rw [← outline] at forest
      have spares : Spares [] allocator { allocator with arena := fourth } := by
        refine ⟨rfl, rfl, rfl, fun {other held} under allocated _ => ?_⟩
        have not_id : other ≠ id := by
          rintro rfl
          rw [drawn, Option.some.injEq] at under
          rw [← under, loose] at allocated
          cases allocated
        have not_left : other ≠ left := (ne_of_fresh under left_fresh).symm
        have not_right : other ≠ right := (ne_of_fresh under right_fresh).symm
        rw [outline, withHalves_of_ne not_id not_left not_right, under]
      refine yields_changeCount (fun counts => ?_) fun _ => .inr ⟨⟨sound, forest⟩, spares⟩
      have middle : ({ allocator with arena := fourth, counts } : Allocator).Tiled :=
        ⟨sound, forest⟩
      refine (yields_list middle).mono (fun _ after ⟨tiled, listed, held, under, _, shown⟩ => ?_)
        fun _ _ => .after (spares.withCounts counts)
      dsimp only at under shown
      rw [outline, withHalves_right right_apart, Option.some.injEq] at under
      subst under
      rw [yields_pure]
      refine ⟨tiled, (spares.withCounts counts).then listed, block, order, leftHalf, rightHalf,
        drawn, loose, halves, ?_, left_loose, ?_⟩
      · rw [shown, Function.update_of_ne distinct, outline, withHalves_left left_apart distinct]
      · rw [shown, Function.update_self]

/-- Two loose halves are given back and their parent is loose. -/
theorem sound_merge {arena first second third : Arena} {one other parent : BlockId}
    {gone also_gone block : Block} (sound : arena.Sound)
    (at_parent : arena.outline parent = some block) (unlisted : block.isListed = false)
    (not_one : parent ≠ one) (not_other : parent ≠ other)
    (remove_one : arena.remove one = .ok (gone, first))
    (remove_other : first.remove other = .ok (also_gone, second))
    (free_parent : second.update parent ({ · with state := .loose }) = .ok third) :
    third.Sound ∧ third.outline = withoutHalves arena.outline parent one other block := by
  obtain ⟨-, -, sound, outline_one⟩ := Arena.sound_remove sound remove_one
  obtain ⟨-, -, sound, outline_other⟩ := Arena.sound_remove sound remove_other
  have found : second.block? parent = some block := by
    refine Arena.block?_of_unlisted_outline ?_ unlisted
    rw [outline_other, Function.update_of_ne not_other, outline_one, Function.update_of_ne not_one,
      at_parent]
  obtain ⟨sound, outline_parent⟩ := Arena.sound_update sound found unlisted rfl free_parent
  refine ⟨sound, ?_⟩
  unfold withoutHalves
  rw [outline_parent, outline_other, outline_one]

/-- Join a free half and its free buddy, and list their parent. -/
def joinHalves (id : BlockId) (family : Family) : Operation Allocator Unit := do
  changeArena (·.unlink id)
  changeArena (·.unlink family.buddy)
  let _ ← withArena (·.remove id)
  let _ ← withArena (·.remove family.buddy)
  let parent ← block family.parent
  changeArena (·.update family.parent ({ · with state := .loose }))
  changeCount parent.order fun count => do
    return { count with split := ← Checked.sub count.split 1 }
  list family.parent

/-- Loose halves that are given back were not handed out, and neither was their parent. -/
theorem spares_withoutHalves {arena : Arena} {half buddy parent : Block} {family : Family}
    (at_half : allocator.arena.outline id = some half) (half_loose : half.state = .loose)
    (at_buddy : allocator.arena.outline family.buddy = some buddy)
    (buddy_loose : buddy.state = .loose)
    (above : allocator.arena.outline family.parent = some parent) (no_leaf : parent.isLeaf = false)
    (outline : arena.outline =
      withoutHalves allocator.arena.outline family.parent id family.buddy parent) :
    Spares [] allocator { allocator with arena } := by
  refine ⟨rfl, rfl, rfl, fun {other held} under allocated _ => ?_⟩
  have not_parent : other ≠ family.parent := by
    rintro rfl
    rw [above, Option.some.injEq] at under
    rw [under, Block.isLeaf_of_allocated allocated] at no_leaf
    cases no_leaf
  have not_half : other ≠ id := by
    rintro rfl
    rw [at_half, Option.some.injEq] at under
    rw [← under, half_loose] at allocated
    cases allocated
  have not_buddy : other ≠ family.buddy := by
    rintro rfl
    rw [at_buddy, Option.some.injEq] at under
    rw [← under, buddy_loose] at allocated
    cases allocated
  rw [outline, withoutHalves_of_ne not_parent not_half not_buddy, under]

/-- Joining two free halves keeps the tiling. -/
theorem yields_joinHalves (tiled : allocator.Tiled) {half : Block} {family : Family}
    (found : allocator.arena.block? id = some half) (related : half.family = some family) :
    (joinHalves id family).Yields allocator
      (fun _ after => after.Tiled ∧ Spares [] allocator after) (Intact [] allocator) := by
  unfold joinHalves
  simp only [yields_bind]
  refine (yields_unlink tiled).imp fun _ first ⟨tiled_first, spares_first, _, same, _, shown⟩ => ?_
  rw [found, Option.some.injEq] at same
  subst same
  refine (yields_unlink tiled_first).mono (fun _ second ⟨tiled_second, spares_second, buddy,
    at_buddy, listed, also_shown⟩ => ?_) fun _ _ => .after spares_first
  have distinct : id ≠ family.buddy := by
    intro same
    have loose : first.arena.block? id = some { half with state := .loose } := by
      refine Arena.block?_of_unlisted_outline ?_ rfl
      rw [shown, Function.update_self]
    rw [← same, loose, Option.some.injEq] at at_buddy
    rw [← at_buddy] at listed
    cases listed
  have at_half : second.arena.outline id = some { half with state := .loose } := by
    rw [also_shown, Function.update_of_ne distinct, shown, Function.update_self]
  have at_other : second.arena.outline family.buddy = some { buddy with state := .loose } := by
    rw [also_shown, Function.update_self]
  obtain ⟨parent, above, no_leaf, forest⟩ :=
    tiled_second.forest.join at_half related at_other rfl rfl
  have not_half := tiled_second.forest.parent_ne at_half related at_half rfl
  have not_buddy := tiled_second.forest.parent_ne at_half related at_other rfl
  refine yields_withArena (fun gone third remove_half => ?_)
    fun _ run => .inl (halts_of_remove run)
  refine yields_withArena (fun also_gone fourth remove_buddy => ?_)
    fun _ run => .inl (halts_of_remove run)
  refine yields_block (fun block _ => ?_) fun _ halts => .inl halts
  refine yields_changeArena (fun fifth free_parent => ?_)
    fun _ run => .inl (halts_of_update run)
  obtain ⟨sound, outline⟩ := sound_merge tiled_second.sound above
    (Block.isListed_of_not_leaf no_leaf) not_half not_buddy remove_half remove_buddy free_parent
  have merged : Spares [] second { second with arena := fifth } :=
    spares_withoutHalves at_half rfl at_other rfl above no_leaf outline
  have spares := (spares_first.then spares_second).then merged
  have joined : ({ second with arena := fifth } : Allocator).Tiled := by
    refine ⟨sound, ?_⟩
    rw [outline]
    exact forest
  refine yields_changeCount (fun counts => ?_) fun _ => .inr ⟨joined, spares⟩
  exact (yields_list (joined.withCounts counts)).mono
    (fun _ after ⟨tiled_after, listed, _⟩ =>
      ⟨tiled_after, (spares.withCounts counts).then listed⟩)
    fun _ _ => .after (spares.withCounts counts)

/-- Joining free halves upward keeps the tiling. -/
theorem yields_coalesce {levels : Nat} (tiled : allocator.Tiled) :
    (coalesce levels id).Yields allocator (fun _ after => after.Tiled ∧ Spares [] allocator after)
      (Intact [] allocator) := by
  induction levels generalizing allocator id with
  | zero =>
    unfold coalesce
    rw [yields_bind]
    refine yields_block (fun half found => ?_) fun _ halts => .inl halts
    split
    · rw [yields_bind]
      refine yields_block (fun buddy found_buddy => ?_) fun _ halts => .inl halts
      split
      · exact .inl ⟨_, rfl⟩
      · exact ⟨tiled, .refl [] allocator⟩
    · exact ⟨tiled, .refl [] allocator⟩
  | succ levels ih =>
    unfold coalesce
    rw [yields_bind]
    refine yields_block (fun half found => ?_) fun _ halts => .inl halts
    split
    · rename_i family related
      rw [yields_bind]
      refine yields_block (fun buddy found_buddy => ?_) fun _ halts => .inl halts
      split
      · suffices goes_on : (do joinHalves id family; coalesce levels family.parent).Yields allocator
            (fun _ after => after.Tiled ∧ Spares [] allocator after) (Intact [] allocator) by
          simpa only [joinHalves, yields_bind] using goes_on
        rw [yields_bind]
        refine (yields_joinHalves tiled found related).imp fun _ joined ⟨tiled_joined, spares⟩ => ?_
        exact (ih tiled_joined).mono (fun _ _ ⟨tiled, rest⟩ => ⟨tiled, spares.then rest⟩)
          fun _ _ => .after spares
      · exact ⟨tiled, .refl [] allocator⟩
    · exact ⟨tiled, .refl [] allocator⟩

/-- Taking a block back keeps the tiling and spares the blocks of the others. -/
theorem yields_release (tiled : allocator.Tiled) :
    (release id).Yields allocator (fun _ after => after.Tiled ∧ Spares [id] allocator after)
      (Intact [id] allocator) := by
  unfold release
  rw [yields_bind]
  refine yields_block (fun block found => ?_) fun _ halts => .inl halts
  dsimp only
  split
  · exact .inl ⟨_, rfl⟩
  · rename_i allocated
    rw [not_not] at allocated
    have unlisted : block.isListed = false := Block.isListed_of_allocated allocated
    have leaf : block.isLeaf = true := Block.isLeaf_of_allocated allocated
    simp only [yields_bind, yields_get]
    refine (yields_relabel tiled found unlisted leaf rfl rfl (.inl List.mem_cons_self)).imp
      fun _ first ⟨tiled_first, spares, _⟩ => ?_
    refine yields_changeCount (fun counts => ?_) fun _ => .inr ⟨tiled_first, spares⟩
    have counted := spares.withCounts counts
    refine (yields_list (tiled_first.withCounts counts)).mono (fun _ second ⟨tiled_second, listed,
      _⟩ => ?_) fun _ _ => counted.thenIntact
    have so_far := counted.trans listed (by simp)
    exact (yields_coalesce tiled_second).mono (fun _ _ ⟨tiled, rest⟩ =>
      ⟨tiled, so_far.trans rest (by simp)⟩) fun _ _ => so_far.thenIntact

end Blocks

end GpuSched.Buddy.Allocator
