import GpuSched.Proofs.Buddy.FreeList

/-!
# Effects of the steps of an arena

An arena is sound when its free lists represent sequences and a handle that was given back has no
block. Every step keeps a sound arena sound and changes the outline under one handle only, so what
the steps do to the blocks reads as updates of a function.
-/
namespace GpuSched.Buddy.Arena

open Operation (bind_eq_ok_iff pure_eq_ok_iff)

/-- The free lists represent sequences, and handles that were given back have no blocks. -/
structure Sound (arena : Arena) : Prop where
  queued : ∃ queue, arena.Queued queue
  vacant_nodup : arena.vacant.Nodup
  vacant : ∀ id ∈ arena.vacant, id < arena.nodes.size ∧ arena.block? id = none

section Steps

variable {arena changed : Arena} {id : BlockId} {block : Block}

/-- The outline of a handle with a block. -/
theorem outline_of_block? (found : arena.block? id = some block) :
    arena.outline id = some block.outline := by
  unfold outline
  rw [found]
  rfl

/-- A handle with an outline has the block of it. -/
theorem block?_of_outline {drawn : Block} (found : arena.outline id = some drawn) :
    ∃ block, arena.block? id = some block ∧ block.outline = drawn :=
  Option.map_eq_some_iff.mp found

/-- A handle without an outline has no block. -/
theorem outline_eq_none_iff : arena.outline id = none ↔ arena.block? id = none :=
  Option.map_eq_none_iff

/-- The block with an unlisted outline is the outline itself. -/
theorem block?_of_unlisted_outline (found : arena.outline id = some block)
    (unlisted : block.isListed = false) : arena.block? id = some block := by
  obtain ⟨held, under, rfl⟩ := block?_of_outline found
  rw [Block.isListed_outline] at unlisted
  rw [under, Block.outline_of_not_listed unlisted]

/-- A change of the links of a block leaves its outline. -/
theorem map_outline_of_links {link : Block → Block}
    (links : ∀ block, (link block).outline = block.outline) (block? : Option Block) :
    (block?.map link).map Block.outline = block?.map Block.outline := by
  rw [Option.map_map]
  exact congrArg (Option.map · block?) (funext links)

/-- A change that touches the block of one used handle leaves the vacant handles without blocks. -/
theorem vacant_of_outline (sound : arena.Sound) {drawn : Block}
    (size : changed.nodes.size = arena.nodes.size) (vacant : changed.vacant = arena.vacant)
    (found : arena.block? id = some block)
    (effect : changed.outline = Function.update arena.outline id (some drawn)) :
    ∀ other ∈ changed.vacant, other < changed.nodes.size ∧ changed.block? other = none := by
  intro other mem
  rw [vacant] at mem
  obtain ⟨inside, empty⟩ := sound.vacant other mem
  have apart : other ≠ id := by
    rintro rfl
    rw [found] at empty
    cases empty
  rw [size, ← outline_eq_none_iff, effect, Function.update_of_ne apart, outline_eq_none_iff]
  exact ⟨inside, empty⟩

/-- A block that joins a list is listed, and the arena stays sound if its lists do. -/
theorem Joins.sound {previous next neighbour : Option BlockId} {link : Block → Block}
    {list : FreeList} {queue : Nat → List BlockId}
    (joins : arena.Joins id block (.listed previous next) neighbour link list changed)
    (sound : arena.Sound) (apart : some id ≠ neighbour)
    (links : ∀ block, (link block).outline = block.outline) (requeued : changed.Queued queue) :
    changed.Sound ∧ changed.outline =
      Function.update arena.outline id (some { block with state := .listed none none }) := by
  obtain ⟨-, vacant, size⟩ := joins.room
  have effect : changed.outline =
      Function.update arena.outline id (some { block with state := .listed none none }) := by
    funext other
    unfold outline
    rw [joins.block?_eq apart]
    by_cases same : other = id
    · subst same
      rw [if_pos rfl, Function.update_self]
      rfl
    · rw [if_neg same, Function.update_of_ne same]
      split
      · exact map_outline_of_links links _
      · rfl
  refine ⟨⟨⟨queue, requeued⟩, ?_, ?_⟩, effect⟩
  · rw [vacant]
    exact sound.vacant_nodup
  · exact vacant_of_outline sound size vacant joins.found effect

/-- Listing a loose block at the head makes it listed. -/
theorem sound_pushFront (sound : arena.Sound) (run : arena.pushFront id = .ok changed) :
    ∃ block, arena.block? id = some block ∧ block.state = .loose ∧ changed.Sound ∧
      changed.outline =
        Function.update arena.outline id (some { block with state := .listed none none }) := by
  obtain ⟨queue, queued⟩ := sound.queued
  obtain ⟨block, list, present, joins⟩ := pushFront_eq_ok_iff.mp run
  obtain ⟨_, _, requeued⟩ := queued_pushFront queued run
  obtain ⟨apart, -⟩ := queued.ne_ends joins.found joins.loose present
  exact ⟨block, joins.found, joins.loose,
    joins.sound sound apart (Block.outline_withPrevious · _) requeued⟩

/-- Listing a loose block at the tail makes it listed. -/
theorem sound_pushBack (sound : arena.Sound) (run : arena.pushBack id = .ok changed) :
    ∃ block, arena.block? id = some block ∧ block.state = .loose ∧ changed.Sound ∧
      changed.outline =
        Function.update arena.outline id (some { block with state := .listed none none }) := by
  obtain ⟨queue, queued⟩ := sound.queued
  obtain ⟨block, list, present, joins⟩ := pushBack_eq_ok_iff.mp run
  obtain ⟨_, _, requeued⟩ := queued_pushBack queued run
  obtain ⟨-, apart⟩ := queued.ne_ends joins.found joins.loose present
  exact ⟨block, joins.found, joins.loose,
    joins.sound sound apart (Block.outline_withNext · _) requeued⟩

/-- Taking a listed block off its list makes it loose. -/
theorem sound_unlink (sound : arena.Sound) (run : arena.unlink id = .ok changed) :
    ∃ block, arena.block? id = some block ∧ block.isListed = true ∧ changed.Sound ∧
      changed.outline = Function.update arena.outline id (some { block with state := .loose }) := by
  obtain ⟨queue, queued⟩ := sound.queued
  obtain ⟨block, list, before, after, found, -, state, -, vacant, size, -, blocks⟩ :=
    block?_unlink queued run
  obtain ⟨_, _, _, _, _, requeued⟩ := queued_unlink queued run
  have effect : changed.outline =
      Function.update arena.outline id (some { block with state := .loose }) := by
    funext other
    unfold outline
    rw [blocks]
    by_cases same : other = id
    · subst same
      rw [if_pos rfl, Function.update_self]
      rfl
    · rw [if_neg same, Function.update_of_ne same]
      split
      · exact map_outline_of_links (Block.outline_withNext · _) _
      · split
        · exact map_outline_of_links (Block.outline_withPrevious · _) _
        · rfl
  refine ⟨block, found, Block.isListed_iff.mpr ⟨_, _, state⟩, ⟨⟨_, requeued⟩, ?_, ?_⟩, effect⟩
  · rw [vacant]
    exact sound.vacant_nodup
  · exact vacant_of_outline sound size vacant found effect

/-- Blocks that are on no list may come, go and change without the lists noticing. -/
theorem Queued.of_unlisted {queue : Nat → List BlockId} (queued : arena.Queued queue)
    (id : BlockId) (lists : changed.lists = arena.lists)
    (before : ∀ block, arena.block? id = some block → block.isListed = false)
    (after : ∀ block, changed.block? id = some block → block.isListed = false)
    (kept : ∀ other, other ≠ id → changed.block? other = arena.block? other) :
    changed.Queued queue where
  nodup := queued.nodup
  linked order front item back parts := by
    obtain ⟨block, found, placed, state⟩ := queued.linked order front item back parts
    have apart : item ≠ id := by
      rintro rfl
      have unlisted := before block found
      rw [Block.isListed_iff.mpr ⟨_, _, state⟩] at unlisted
      cases unlisted
    exact ⟨block, by rw [kept item apart, found], placed, state⟩
  complete item block found listed := by
    have apart : item ≠ id := by
      rintro rfl
      rw [after block found] at listed
      cases listed
    exact queued.complete item block (kept item apart ▸ found) listed
  ends order list present := queued.ends order list (lists ▸ present)

/-- What putting a block under a handle that is not in use does to the blocks. -/
theorem block?_insert (sound : arena.Sound) (run : arena.insert block = .ok (id, changed)) :
    arena.block? id = none ∧ changed.lists = arena.lists ∧
      (∀ other, changed.block? other = if other = id then some block else arena.block? other) ∧
      changed.vacant.Nodup ∧ id ∉ changed.vacant ∧
      ∀ other ∈ changed.vacant, other < changed.nodes.size ∧ arena.block? other = none := by
  have nodup := sound.vacant_nodup
  have empty := sound.vacant
  unfold insert at run
  split at run
  · rename_i first rest vacant
    obtain ⟨rfl, rfl⟩ := Prod.mk.inj (Except.ok.inj run)
    rw [vacant] at nodup empty
    obtain ⟨absent, rest_nodup⟩ := List.nodup_cons.mp nodup
    obtain ⟨inside, fresh⟩ := empty first List.mem_cons_self
    refine ⟨fresh, rfl, fun other => block?_put inside, rest_nodup, absent, fun other mem => ?_⟩
    simpa using empty other (List.mem_cons_of_mem _ mem)
  · rename_i vacant
    split at run
    · obtain ⟨rfl, rfl⟩ := Prod.mk.inj (Except.ok.inj run)
      refine ⟨?_, rfl, fun other => ?_, ?_, ?_, ?_⟩
      · simp [block?]
      · by_cases same : other = arena.nodes.size
        · subst same
          simp [block?]
        · simp [block?, Array.getElem?_push, same]
      all_goals simp [vacant]
    · cases run

/-- A loose block under a fresh handle is new. -/
theorem sound_insert (sound : arena.Sound) (unlisted : block.isListed = false)
    (run : arena.insert block = .ok (id, changed)) :
    arena.block? id = none ∧ changed.Sound ∧
      changed.outline = Function.update arena.outline id (some block) := by
  obtain ⟨queue, queued⟩ := sound.queued
  obtain ⟨fresh, lists, blocks, vacant_nodup, absent, vacant⟩ := block?_insert sound run
  refine ⟨fresh, ⟨⟨queue, queued.of_unlisted id lists ?_ ?_ ?_⟩, vacant_nodup, ?_⟩, ?_⟩
  · simp [fresh]
  · intro held under
    rw [blocks, if_pos rfl, Option.some.injEq] at under
    exact under ▸ unlisted
  · exact fun other apart => by rw [blocks, if_neg apart]
  · intro other mem
    have apart : other ≠ id := fun same => absent (same ▸ mem)
    rw [blocks, if_neg apart]
    exact vacant other mem
  · funext other
    unfold outline
    rw [blocks]
    by_cases same : other = id
    · subst same
      rw [if_pos rfl, Function.update_self, Option.map_some,
        Block.outline_of_not_listed unlisted]
    · rw [if_neg same, Function.update_of_ne same]

/-- What giving a handle back does to the blocks. -/
theorem block?_remove (run : arena.remove id = .ok (block, changed)) :
    arena.block? id = some block ∧ block.isListed = false ∧ changed.lists = arena.lists ∧
      changed.vacant = id :: arena.vacant ∧ changed.nodes.size = arena.nodes.size ∧
      ∀ other, changed.block? other = if other = id then none else arena.block? other := by
  unfold remove at run
  split at run
  · cases run
  · rename_i held found
    split at run
    · cases run
    · rename_i unlisted
      obtain ⟨rfl, rfl⟩ := Prod.mk.inj (Except.ok.inj run)
      have inside := lt_size_of_block? found
      rw [Bool.not_eq_true] at unlisted
      refine ⟨found, unlisted, rfl, rfl, by simp, fun other => ?_⟩
      unfold block?
      by_cases same : other = id
      · subst same
        simp [inside]
      · simp [same, Ne.symm same]

/-- A handle that is given back has no block any more. -/
theorem sound_remove (sound : arena.Sound) (run : arena.remove id = .ok (block, changed)) :
    arena.block? id = some block ∧ block.isListed = false ∧ changed.Sound ∧
      changed.outline = Function.update arena.outline id none := by
  obtain ⟨queue, queued⟩ := sound.queued
  obtain ⟨found, unlisted, lists, vacant, size, blocks⟩ := block?_remove run
  have absent : id ∉ arena.vacant := by
    intro mem
    have empty := (sound.vacant id mem).2
    rw [found] at empty
    cases empty
  refine ⟨found, unlisted, ⟨⟨queue, queued.of_unlisted id lists ?_ ?_ ?_⟩, ?_, ?_⟩, ?_⟩
  · intro other under
    rw [found, Option.some.injEq] at under
    exact under ▸ unlisted
  · intro other under
    rw [blocks, if_pos rfl] at under
    cases under
  · exact fun other apart => by rw [blocks, if_neg apart]
  · rw [vacant]
    exact List.nodup_cons.mpr ⟨absent, sound.vacant_nodup⟩
  · intro other mem
    rw [vacant] at mem
    rw [blocks, size]
    rcases List.mem_cons.mp mem with rfl | mem
    · exact ⟨lt_size_of_block? found, if_pos rfl⟩
    · have apart : other ≠ id := fun same => absent (same ▸ mem)
      rw [if_neg apart]
      exact sound.vacant other mem
  · funext other
    unfold outline
    rw [blocks]
    by_cases same : other = id
    · subst same
      rw [if_pos rfl, Function.update_self, Option.map_none]
    · rw [if_neg same, Function.update_of_ne same]

/-- A change between unlisted blocks shows in the outline as it is. -/
theorem sound_update (sound : arena.Sound) {change : Block → Block}
    (found : arena.block? id = some block) (before : block.isListed = false)
    (after : (change block).isListed = false) (run : arena.update id change = .ok changed) :
    changed.Sound ∧
      changed.outline = Function.update arena.outline id (some (change block)) := by
  obtain ⟨queue, queued⟩ := sound.queued
  obtain ⟨held, under, rfl⟩ := update_eq_ok_iff.mp run
  rw [found, Option.some.injEq] at under
  subst under
  have blocks : ∀ other, (arena.put id (change block)).block? other =
      if other = id then some (change block) else arena.block? other :=
    fun _ => block?_put (lt_size_of_block? found)
  have effect : (arena.put id (change block)).outline =
      Function.update arena.outline id (some (change block)) := by
    funext other
    unfold outline
    rw [blocks]
    by_cases same : other = id
    · subst same
      rw [if_pos rfl, Function.update_self, Option.map_some, Block.outline_of_not_listed after]
    · rw [if_neg same, Function.update_of_ne same]
  refine ⟨⟨⟨queue, queued.of_unlisted id rfl ?_ ?_ ?_⟩, sound.vacant_nodup, ?_⟩, effect⟩
  · intro other under
    rw [found, Option.some.injEq] at under
    exact under ▸ before
  · intro other under
    rw [blocks, if_pos rfl, Option.some.injEq] at under
    exact under ▸ after
  · exact fun other apart => by rw [blocks, if_neg apart]
  · exact vacant_of_outline sound put_size rfl found effect

end Steps

section Walks

variable {arena : Arena} {queue : Nat → List BlockId} {order : Nat}

/-- Each of some handles has the next one as its neighbour, and the last one has none. -/
def Chained (arena : Arena) (backward : Bool) : List BlockId → Prop
  | [] => True
  | id :: rest => (∃ block, arena.block? id = some block ∧ block.neighbour backward = rest.head?) ∧
      arena.Chained backward rest

/-- The rest of a list is a chain. -/
theorem Queued.chained_forward (queued : arena.Queued queue) (before : List BlockId)
    {after : List BlockId} (parts : queue order = before ++ after) : arena.Chained false after := by
  induction after generalizing before with
  | nil => trivial
  | cons id rest ih =>
    obtain ⟨block, found, -, state⟩ := queued.linked order before id rest parts
    refine ⟨⟨block, found, ?_⟩, ih (before ++ [id]) (by simp [parts])⟩
    unfold Block.neighbour
    rw [state]
    rfl

/-- What is before a place of a list is a chain backward, in reverse. -/
theorem Queued.chained_backward (queued : arena.Queued queue) {before : List BlockId}
    (after : List BlockId) (parts : queue order = before.reverse ++ after) :
    arena.Chained true before := by
  induction before generalizing after with
  | nil => trivial
  | cons id rest ih =>
    have split : queue order = rest.reverse ++ id :: after := by simp [parts]
    obtain ⟨block, found, -, state⟩ := queued.linked order rest.reverse id after split
    refine ⟨⟨block, found, ?_⟩, ih (id :: after) split⟩
    unfold Block.neighbour
    rw [state]
    simp

/-- A list is a chain in either direction. -/
theorem Queued.chained (queued : arena.Queued queue) (order : Nat) (backward : Bool) :
    arena.Chained backward (if backward then (queue order).reverse else queue order) := by
  cases backward with
  | false => exact queued.chained_forward [] rfl
  | true =>
    have parts : queue order = (queue order).reverse.reverse ++ [] := by simp
    exact queued.chained_backward [] parts

/-- The end of a list that a walk starts from is the first handle that it finds. -/
theorem Queued.start_eq (queued : arena.Queued queue) {list : FreeList}
    (present : arena.lists[order]? = some list) (backward : Bool) :
    (if backward then list.tail else list.head) =
      (if backward then (queue order).reverse else queue order).head? := by
  rw [queued.ends order list present]
  cases backward <;> simp

/-- A walk along a chain finds its handles. -/
theorem walk_eq_ok {backward : Bool} {steps : Nat} {ids : List BlockId}
    (chained : arena.Chained backward ids) {blocks : List (BlockId × Block)}
    (run : arena.walk order backward steps ids.head? = .ok blocks) :
    blocks.map (·.1) = ids ∧ ∀ entry ∈ blocks, arena.block? entry.1 = some entry.2 := by
  induction ids generalizing steps blocks with
  | nil =>
    rw [List.head?_nil, walk, Except.ok.injEq] at run
    subst run
    exact ⟨rfl, by simp⟩
  | cons id rest ih =>
    obtain ⟨⟨held, under, next⟩, onward⟩ := chained
    cases steps with
    | zero => cases run
    | succ steps =>
      simp only [List.head?_cons, walk, bind_eq_ok_iff, block_eq_ok_iff, pure_eq_ok_iff] at run
      obtain ⟨block, found, later, run, rfl⟩ := run
      obtain rfl : block = held := Option.some.inj (found.symm.trans under)
      rw [next] at run
      obtain ⟨same, blocks⟩ := ih onward run
      exact ⟨by simp [same], List.forall_mem_cons.mpr ⟨found, blocks⟩⟩

/-- The blocks on a free list are those of its sequence, in either direction. -/
theorem listed_eq_ok (queued : arena.Queued queue) {backward : Bool}
    {blocks : List (BlockId × Block)} (run : arena.listed order backward = .ok blocks) :
    blocks.map (·.1) = (if backward then (queue order).reverse else queue order) ∧
      ∀ entry ∈ blocks, arena.block? entry.1 = some entry.2 := by
  simp only [listed, bind_eq_ok_iff, freeList_eq_ok_iff] at run
  obtain ⟨list, present, run⟩ := run
  rw [queued.start_eq present] at run
  exact walk_eq_ok (queued.chained order backward) run

/-- A block found on a free list is listed and has the order of the list. -/
theorem of_mem_listed (sound : arena.Sound) {backward : Bool} {blocks : List (BlockId × Block)}
    (run : arena.listed order backward = .ok blocks) {id : BlockId} {block : Block}
    (mem : (id, block) ∈ blocks) :
    arena.block? id = some block ∧ block.order = order ∧ block.isListed = true := by
  obtain ⟨queue, queued⟩ := sound.queued
  obtain ⟨ids, found⟩ := listed_eq_ok queued run
  have under := found (id, block) mem
  have queued_id : id ∈ queue order := by
    have handle : id ∈ blocks.map (·.1) := List.mem_map_of_mem mem
    rw [ids] at handle
    split at handle
    · exact List.mem_reverse.mp handle
    · exact handle
  obtain ⟨held, present, placed, listed⟩ := queued.of_mem queued_id
  rw [under, Option.some.injEq] at present
  subst present
  exact ⟨under, placed, listed⟩

end Walks

end GpuSched.Buddy.Arena
