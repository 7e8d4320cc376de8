import GpuSched.Proofs.Buddy.Effects
import Mathlib.Data.List.Perm.Subperm

/-!
# Steps of an arena answer

A step of a sound arena answers whenever its block is in the state that the step asks for and the
arena has a list for its order; only a new block may find no handle. Here each step is shown with
its answer: what is left is sound, the outline changes under one handle, and the lists, the handles
and the vacant ones stay as many as they were, except where handles are given out or back.
-/
namespace GpuSched.Buddy.Arena

open Operation (bind_eq_ok_iff pure_eq_ok_iff)

/-- An arena with the same lists and handles, and the same of these vacant. -/
structure SameRoom (before after : Arena) : Prop where
  lists : after.lists.size = before.lists.size
  vacant : after.vacant = before.vacant
  size : after.nodes.size = before.nodes.size

/-- A step answers an arena that is sound, with the same room and this outline. -/
def Answers (before : Arena) (result : Except Failure Arena) (outline : BlockId → Option Block) :
    Prop :=
  ∃ after, result = .ok after ∧ after.Sound ∧ before.SameRoom after ∧ after.outline = outline

/-- A composed result is a value if its parts are. -/
theorem exists_bind_eq_ok {α β : Type} {result : Except Failure α} {next : α → Except Failure β}
    {first : α} (run : result = .ok first) (rest : ∃ value, next first = .ok value) :
    ∃ value, (result >>= next) = .ok value := by
  rw [run]
  exact rest

section Steps

variable {arena changed : Arena} {id : BlockId} {block : Block}

/-- A list within the bounds of an arena is there. -/
theorem exists_list {order : Nat} (room : order < arena.lists.size) :
    ∃ list, arena.lists[order]? = some list :=
  ⟨_, Array.getElem?_eq_getElem room⟩

/-- A block can be changed where there is one. -/
theorem exists_update_eq_ok (found : arena.block? id = some block) (change : Block → Block) :
    ∃ changed, arena.update id change = .ok changed :=
  ⟨_, update_eq_ok_iff.mpr ⟨block, found, rfl⟩⟩

/-- A change of one block leaves the room. -/
theorem sameRoom_update {change : Block → Block} (run : arena.update id change = .ok changed) :
    arena.SameRoom changed := by
  obtain ⟨_, _, rfl⟩ := update_eq_ok_iff.mp run
  exact ⟨rfl, rfl, put_size⟩

/-- Joining a list leaves the room. -/
theorem Joins.sameRoom {state : BlockState} {neighbour : Option BlockId} {link : Block → Block}
    {list : FreeList} (joins : arena.Joins id block state neighbour link list changed) :
    arena.SameRoom changed :=
  ⟨joins.room.1, joins.room.2.1, joins.room.2.2⟩

/-- Listing at the tail leaves the room. -/
theorem sameRoom_pushBack (run : arena.pushBack id = .ok changed) : arena.SameRoom changed := by
  obtain ⟨block, list, -, joins⟩ := pushBack_eq_ok_iff.mp run
  exact joins.sameRoom

/-- The block under an optional handle can be changed, if the handle is one of a list. -/
theorem exists_updateAt {handle : Option BlockId} (change : Block → Block)
    (present : ∀ item, handle = some item → ∃ block, arena.block? item = some block) :
    ∃ changed, arena.updateAt handle change = .ok changed := by
  cases handle with
  | none => exact ⟨arena, rfl⟩
  | some item =>
    obtain ⟨block, found⟩ := present item rfl
    exact exists_update_eq_ok found change

/-- An end of a list of an arena is a handle with a block, and not that of a loose block. -/
theorem Queued.exists_end {queue : Nat → List BlockId} (queued : arena.Queued queue) {order : Nat}
    {item : BlockId} (mem : item ∈ queue order) (found : arena.block? id = some block)
    (loose : block.state = .loose) (held : Block) :
    ∃ under, (arena.put id held).block? item = some under := by
  obtain ⟨under, present, -, listed⟩ := queued.of_mem mem
  have apart : item ≠ id := by
    rintro rfl
    rw [found, Option.some.injEq] at present
    subst present
    unfold Block.isListed at listed
    rw [loose] at listed
    cases listed
  exact ⟨under, by rw [block?_put (lt_size_of_block? found), if_neg apart, present]⟩

/-- A loose block can join a list next to a block that is on it. -/
theorem Queued.exists_joins {queue : Nat → List BlockId} (queued : arena.Queued queue)
    (found : arena.block? id = some block) (loose : block.state = .loose)
    {neighbour : Option BlockId} (mem : ∀ item, neighbour = some item → item ∈ queue block.order)
    (state : BlockState) (link : Block → Block) (list : FreeList) :
    ∃ changed, arena.Joins id block state neighbour link list changed := by
  have used : ∀ item, neighbour = some item →
      ∃ under, (arena.put id { block with state }).block? item = some under :=
    fun item same => queued.exists_end (mem item same) found loose _
  obtain ⟨linked, run⟩ := exists_updateAt link used
  exact ⟨_, found, loose, linked, run, rfl⟩

/-- A loose block can be listed at the head. -/
theorem answers_pushFront (sound : arena.Sound) (found : arena.outline id = some block)
    (loose : block.state = .loose) (room : block.order < arena.lists.size) :
    arena.Answers (arena.pushFront id) (Function.update arena.outline id
      (some { block with state := .listed none none })) := by
  have at_id := block?_of_unlisted_outline found (Block.isListed_of_loose loose)
  obtain ⟨queue, queued⟩ := sound.queued
  obtain ⟨list, present⟩ := exists_list room
  obtain ⟨changed, joins⟩ := queued.exists_joins at_id loose
    (fun _ head => queued.mem_of_end present (.inl head)) _ _ _
  have run := pushFront_eq_ok_iff.mpr ⟨block, list, present, joins⟩
  obtain ⟨held, under, -, still, outline⟩ := sound_pushFront sound run
  obtain rfl : block = held := Option.some.inj (at_id.symm.trans under)
  exact ⟨changed, run, still, joins.sameRoom, outline⟩

/-- A loose block can be listed at the tail. -/
theorem answers_pushBack (sound : arena.Sound) (found : arena.outline id = some block)
    (loose : block.state = .loose) (room : block.order < arena.lists.size) :
    arena.Answers (arena.pushBack id) (Function.update arena.outline id
      (some { block with state := .listed none none })) := by
  have at_id := block?_of_unlisted_outline found (Block.isListed_of_loose loose)
  obtain ⟨queue, queued⟩ := sound.queued
  obtain ⟨list, present⟩ := exists_list room
  obtain ⟨changed, joins⟩ := queued.exists_joins at_id loose
    (fun _ tail => queued.mem_of_end present (.inr tail)) _ _ _
  have run := pushBack_eq_ok_iff.mpr ⟨block, list, present, joins⟩
  obtain ⟨held, under, -, still, outline⟩ := sound_pushBack sound run
  obtain rfl : block = held := Option.some.inj (at_id.symm.trans under)
  exact ⟨changed, run, still, joins.sameRoom, outline⟩

/-- A listed block can be taken off its list. -/
theorem answers_unlink (sound : arena.Sound) (found : arena.outline id = some block)
    (listed : block.isListed = true) (room : block.order < arena.lists.size) :
    arena.Answers (arena.unlink id) (Function.update arena.outline id
      (some { block with state := .loose })) := by
  obtain ⟨held, at_id, rfl⟩ := block?_of_outline found
  rw [Block.isListed_outline] at listed
  rw [Block.outline_order] at room
  obtain ⟨queue, queued⟩ := sound.queued
  obtain ⟨list, present⟩ := exists_list room
  obtain ⟨before, after, parts⟩ := List.append_of_mem (queued.complete id held at_id listed)
  obtain ⟨same, under, -, state⟩ := queued.linked held.order before id after parts
  obtain rfl : held = same := Option.some.inj (at_id.symm.trans under)
  have used : ∀ item ∈ queue held.order, ∀ changed : Arena,
      (∀ other, arena.block? other ≠ none → changed.block? other ≠ none) →
        ∃ block, changed.block? item = some block := by
    intro item mem changed kept
    obtain ⟨block, found, -⟩ := queued.of_mem mem
    exact Option.ne_none_iff_exists'.mp (kept item (by simp [found]))
  have works : ∃ changed, arena.unlink id = .ok changed := by
    rw [unlink_of_listed at_id state]
    refine exists_bind_eq_ok (freeList_eq_ok_iff.mpr present) ?_
    have put_kept : ∀ other, arena.block? other ≠ none →
        (arena.put id { held with state := .loose }).block? other ≠ none := by
      intro other in_use
      rw [block?_put (lt_size_of_block? at_id)]
      split
      · exact Option.some_ne_none _
      · exact in_use
    have first_works : ∃ first, (arena.put id { held with state := .loose }).updateAt
        before.getLast? (·.withNext after.head?) = .ok first := by
      refine exists_updateAt _ fun item last => used item ?_ _ put_kept
      rw [parts]
      exact List.mem_append_left _ (List.mem_of_getLast? last)
    obtain ⟨first, left⟩ := first_works
    refine exists_bind_eq_ok left ?_
    have second_works : ∃ second, first.updateAt after.head? (·.withPrevious before.getLast?) =
        .ok second := by
      refine exists_updateAt _ fun item head => used item ?_ _ fun other in_use => ?_
      · rw [parts]
        exact List.mem_append_right _ (List.mem_cons_of_mem _ (List.mem_of_mem_head? head))
      · rw [(block?_updateAt left).2.2.2]
        split
        · exact fun empty => put_kept other in_use (Option.map_eq_none_iff.mp empty)
        · exact put_kept other in_use
    obtain ⟨second, right⟩ := second_works
    refine exists_bind_eq_ok right ?_
    have positive : 1 ≤ list.length := by
      have length : list.length = (before ++ id :: after).length := by
        rw [queued.ends held.order list present, parts]
      rw [length, List.length_append, List.length_cons]
      omega
    exact exists_bind_eq_ok (Checked.sub_of_le positive) ⟨_, rfl⟩
  obtain ⟨changed, run⟩ := works
  obtain ⟨other, at_other, -, still, outline⟩ := sound_unlink sound run
  obtain ⟨_, _, _, _, -, -, -, -, vacant, size, lists, -⟩ := block?_unlink queued run
  obtain rfl : held = other := Option.some.inj (at_id.symm.trans at_other)
  have shown : ({ held with state := .loose } : Block) = { held.outline with state := .loose } := by
    unfold Block.outline
    rw [state]
  have same_lists : changed.lists.size = arena.lists.size := by
    have step := run
    rw [unlink_of_listed at_id state] at step
    simp only [bind_eq_ok_iff, pure_eq_ok_iff] at step
    obtain ⟨_, -, first, left, second, right, _, -, rfl⟩ := step
    have lists := (block?_updateAt right).1
    rw [(block?_updateAt left).1] at lists
    simp [putList, lists]
  exact ⟨changed, run, still, ⟨same_lists, vacant, size⟩, by rw [outline, shown]⟩

/-- A block that is not listed can be changed to another one that is not. -/
theorem answers_update (sound : arena.Sound) (found : arena.outline id = some block)
    (unlisted : block.isListed = false) (change : Block → Block)
    (still : (change block).isListed = false) :
    arena.Answers (arena.update id change) (Function.update arena.outline id
      (some (change block))) := by
  have at_id := block?_of_unlisted_outline found unlisted
  obtain ⟨changed, run⟩ := exists_update_eq_ok at_id change
  obtain ⟨kept, outline⟩ := sound_update sound at_id unlisted still run
  exact ⟨changed, run, kept, sameRoom_update run, outline⟩

/-- An arena has so many lists, so many handles at most, and its unused handles are vacant. -/
structure Housed (arena : Arena) (lists handles : Nat) : Prop where
  lists : arena.lists.size = lists
  handles : arena.nodes.size ≤ handles
  vacant : ∀ id < arena.nodes.size, arena.outline id = none → id ∈ arena.vacant

/-- A step that leaves the room and changes one block keeps an arena housed. -/
theorem Housed.sameRoom {lists handles : Nat} (housed : arena.Housed lists handles)
    (same : arena.SameRoom changed)
    (outline : changed.outline = Function.update arena.outline id (some block)) :
    changed.Housed lists handles where
  lists := same.lists.trans housed.lists
  handles := same.size ▸ housed.handles
  vacant other inside empty := by
    rw [outline] at empty
    rw [same.vacant]
    by_cases this_one : other = id
    · rw [this_one, Function.update_self] at empty
      cases empty
    · rw [Function.update_of_ne this_one] at empty
      exact housed.vacant other (same.size ▸ inside) empty

/-- A new arena is housed. -/
theorem housed_create (maxOrder : Nat) : (create maxOrder).Housed (maxOrder + 1) 0 where
  lists := Array.size_replicate
  handles := Nat.le_refl _
  vacant _ inside := absurd inside (Nat.not_lt_zero _)

/-- The block of a handle that is given back is gone. -/
theorem exists_remove {lists handles : Nat} (sound : arena.Sound)
    (housed : arena.Housed lists handles) (found : arena.outline id = some block)
    (unlisted : block.isListed = false) :
    ∃ changed, arena.remove id = .ok (block, changed) ∧ changed.Sound ∧
      changed.Housed lists handles ∧ changed.outline = Function.update arena.outline id none := by
  have at_id := block?_of_unlisted_outline found unlisted
  have run : arena.remove id = .ok (block,
      { arena with
        nodes := arena.nodes.setIfInBounds id none, vacant := id :: arena.vacant }) := by
    unfold remove
    rw [at_id]
    dsimp only
    rw [if_neg (by simp [unlisted])]
  obtain ⟨-, -, still, outline⟩ := sound_remove sound run
  refine ⟨_, run, still, ⟨housed.lists, ?_, ?_⟩, outline⟩
  · exact Nat.le_trans (Nat.le_of_eq (Array.size_setIfInBounds ..)) housed.handles
  · intro other inside empty
    by_cases same : other = id
    · exact same ▸ List.mem_cons_self
    · rw [outline, Function.update_of_ne same] at empty
      exact List.mem_cons_of_mem _
        (housed.vacant other (by simpa using inside) empty)

/-- A new block finds a vacant handle or a new one, or all handles are taken. -/
theorem insert_cases {lists handles : Nat} (sound : arena.Sound)
    (housed : arena.Housed lists handles) (block : Block) (unlisted : block.isListed = false) :
    (∃ id changed, arena.insert block = .ok (id, changed) ∧ arena.outline id = none ∧
      changed.Sound ∧ changed.outline = Function.update arena.outline id (some block) ∧
      changed.lists.size = lists ∧
      (∀ other < changed.nodes.size, changed.outline other = none → other ∈ changed.vacant) ∧
      (changed.nodes.size = arena.nodes.size ∧ arena.vacant ≠ [] ∨
        changed.nodes.size = arena.nodes.size + 1 ∧ changed.vacant = [] ∧
          arena.nodes.size < capacity)) ∨
    arena.insert block = .error (.aborted (.block .arenaFull)) ∧ arena.vacant = [] ∧
      capacity ≤ arena.nodes.size := by
  cases vacant : arena.vacant with
  | cons first rest =>
    have run : arena.insert block = .ok (first, { arena.put first block with vacant := rest }) := by
      unfold insert
      rw [vacant]
    obtain ⟨fresh, still, outline⟩ := sound_insert sound unlisted run
    refine .inl ⟨first, _, run, outline_eq_none_iff.mpr fresh, still, outline, housed.lists, ?_,
      .inl ⟨put_size, List.cons_ne_nil first rest⟩⟩
    intro other inside empty
    have apart : other ≠ first := by
      rintro rfl
      rw [outline, Function.update_self] at empty
      cases empty
    rw [outline, Function.update_of_ne apart] at empty
    have mem := housed.vacant other (Nat.lt_of_lt_of_eq inside put_size) empty
    rw [vacant] at mem
    exact (List.mem_cons.mp mem).resolve_left apart
  | nil =>
    by_cases room : arena.nodes.size < capacity
    · have run : arena.insert block =
          .ok (arena.nodes.size, { arena with nodes := arena.nodes.push (some block) }) := by
        unfold insert
        rw [vacant]
        dsimp only
        rw [if_pos room]
      obtain ⟨fresh, still, outline⟩ := sound_insert sound unlisted run
      refine .inl ⟨_, _, run, outline_eq_none_iff.mpr fresh, still, outline, housed.lists, ?_,
        .inr ⟨Array.size_push .., vacant, room⟩⟩
      intro other inside empty
      have apart : other ≠ arena.nodes.size := by
        rintro rfl
        rw [outline, Function.update_self] at empty
        cases empty
      rw [outline, Function.update_of_ne apart] at empty
      have below : other < arena.nodes.size := by
        have : other < arena.nodes.size + 1 := Nat.lt_of_lt_of_eq inside (Array.size_push ..)
        omega
      exact housed.vacant other below empty
    · refine .inr ⟨?_, rfl, Nat.le_of_not_lt room⟩
      unfold insert
      rw [vacant]
      dsimp only
      rw [if_neg room]

end Steps

section Walks

variable {arena : Arena} {queue : Nat → List BlockId} {order : Nat}

/-- A list has no more blocks than the arena has handles. -/
theorem Queued.length_le (queued : arena.Queued queue) (order : Nat) :
    (queue order).length ≤ arena.nodes.size := by
  have inside : queue order ⊆ List.range arena.nodes.size := by
    intro id mem
    obtain ⟨block, found, -⟩ := queued.of_mem mem
    exact List.mem_range.mpr (lt_size_of_block? found)
  have shorter := (List.Nodup.subperm (queued.nodup order) inside).length_le
  rwa [List.length_range] at shorter

/-- A walk along a chain that may take enough steps answers. -/
theorem exists_walk {backward : Bool} {steps : Nat} {ids : List BlockId}
    (chained : arena.Chained backward ids) (enough : ids.length ≤ steps) :
    ∃ blocks, arena.walk order backward steps ids.head? = .ok blocks := by
  induction ids generalizing steps with
  | nil => exact ⟨[], by rw [List.head?_nil, walk]⟩
  | cons id rest ih =>
    obtain ⟨⟨block, found, next⟩, onward⟩ := chained
    cases steps with
    | zero => cases enough
    | succ steps =>
      obtain ⟨later, run⟩ := ih onward (Nat.le_of_succ_le_succ enough)
      rw [List.head?_cons, walk]
      refine exists_bind_eq_ok (block_eq_ok_iff.mpr found) ?_
      rw [next]
      exact exists_bind_eq_ok run ⟨_, rfl⟩

/-- The blocks on a free list can be listed, and they are the free blocks of its order. -/
theorem exists_listed (sound : arena.Sound) (room : order < arena.lists.size) (backward : Bool) :
    ∃ blocks, arena.listed order backward = .ok blocks ∧
      ∀ id block, (id, block) ∈ blocks ↔
        arena.block? id = some block ∧ block.order = order ∧ block.isListed = true := by
  obtain ⟨queue, queued⟩ := sound.queued
  obtain ⟨list, present⟩ := exists_list room
  have enough := queued.length_le order
  have works : ∃ blocks, arena.listed order backward = .ok blocks := by
    refine exists_bind_eq_ok (freeList_eq_ok_iff.mpr present) ?_
    rw [queued.start_eq present]
    refine exists_walk (queued.chained order backward) ?_
    cases backward
    · exact enough
    · rwa [if_pos rfl, List.length_reverse]
  obtain ⟨blocks, run⟩ := works
  refine ⟨blocks, run, fun id block => ⟨of_mem_listed sound run, ?_⟩⟩
  rintro ⟨found, rfl, listed⟩
  obtain ⟨ids, under⟩ := listed_eq_ok queued run
  have queued_id := queued.complete id block found listed
  have mem : id ∈ blocks.map (·.1) := by
    rw [ids]
    split
    · exact List.mem_reverse.mpr queued_id
    · exact queued_id
  obtain ⟨⟨handle, held⟩, there, rfl⟩ := List.mem_map.mp mem
  have same := under _ there
  dsimp only at same found
  rw [found, Option.some.injEq] at same
  rwa [same]

/-- No handle stands twice on a free list. -/
theorem nodup_of_listed (sound : arena.Sound) {backward : Bool} {blocks : List (BlockId × Block)}
    (run : arena.listed order backward = .ok blocks) : (blocks.map (·.1)).Nodup := by
  obtain ⟨queue, queued⟩ := sound.queued
  rw [(listed_eq_ok queued run).1]
  split
  · exact List.nodup_reverse.mpr (queued.nodup order)
  · exact queued.nodup order

end Walks

end GpuSched.Buddy.Arena
