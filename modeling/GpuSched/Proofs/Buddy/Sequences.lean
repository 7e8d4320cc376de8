import GpuSched.Proofs.Buddy.Progress

/-!
# An arena as a family of sequences

Whoever uses an arena through its own calls, each where the checks of the arena allow it, sees a
sequence of handles for each order and nothing of the links. Going through a free list from the head
finds the sequence, going from the tail finds it reversed, and both come to an end. Listing a block
puts it before or behind the sequence of its order, taking it off deletes it there, and the other
sequences stay. A block is listed just when it stands in a sequence, which is that of its own order.
-/
namespace GpuSched.Buddy.Arena

open Operation (bind_eq_ok_iff pure_eq_ok_iff)

/-- A call that changes an arena. -/
inductive Call where
  | insert (block : Block)
  | pushFront (id : BlockId)
  | pushBack (id : BlockId)
  | unlink (id : BlockId)
  | remove (id : BlockId)
  deriving DecidableEq, Repr

/-- The arena after a call. -/
def perform (arena : Arena) : Call → Except Failure Arena
  | .insert block => do return (← arena.insert block).2
  | .pushFront id => arena.pushFront id
  | .pushBack id => arena.pushBack id
  | .unlink id => arena.unlink id
  | .remove id => do return (← arena.remove id).2

/-- What the checks of an arena ask of a call. A new block is loose, has one of the orders and finds
a handle; a block is loose to be listed, listed to be taken off, and not listed to be given back. -/
def Allows (arena : Arena) (maxOrder : Nat) : Call → Prop
  | .insert block => block.state = .loose ∧ block.order ≤ maxOrder ∧
      (arena.vacant = [] → arena.nodes.size < capacity)
  | .pushFront id | .pushBack id => ∃ block, arena.block? id = some block ∧ block.state = .loose
  | .unlink id => ∃ block, arena.block? id = some block ∧ block.isListed = true
  | .remove id => ∃ block, arena.block? id = some block ∧ block.isListed = false

/-- The arenas that allowed calls lead to from a new one. -/
inductive Reached (maxOrder : Nat) : Arena → Prop where
  | start : Reached maxOrder (create maxOrder)
  | step {arena after : Arena} (call : Call) (reached : Reached maxOrder arena)
      (allowed : arena.Allows maxOrder call) (run : arena.perform call = .ok after) :
      Reached maxOrder after

/-- The order of the block under a handle. -/
def orderOf (arena : Arena) (id : BlockId) : Nat := ((arena.block? id).map (·.order)).getD 0

/-- The sequences after a call, where the blocks have these orders. -/
def Call.reorder (orderOf : BlockId → Nat) (queue : Nat → List BlockId) :
    Call → Nat → List BlockId
  | .insert _ | .remove _ => queue
  | .pushFront id => Function.update queue (orderOf id) (id :: queue (orderOf id))
  | .pushBack id => Function.update queue (orderOf id) (queue (orderOf id) ++ [id])
  | .unlink id => Function.update queue (orderOf id) ((queue (orderOf id)).erase id)

/-- What can be seen of the free lists are these sequences. -/
structure Represents (arena : Arena) (maxOrder : Nat) (queue : Nat → List BlockId) : Prop where
  nodup : ∀ order, (queue order).Nodup
  /-- From the head a list goes through its sequence, and it ends. -/
  forward : ∀ order ≤ maxOrder, ∃ blocks, arena.listed order = .ok blocks ∧
    blocks.map (·.1) = queue order
  /-- From the tail it goes through the reversed sequence, and it ends. -/
  backward : ∀ order ≤ maxOrder, ∃ blocks, arena.listed order true = .ok blocks ∧
    blocks.map (·.1) = (queue order).reverse
  length : ∀ order ≤ maxOrder, arena.listLength order = (queue order).length
  beyond : ∀ order, maxOrder < order → queue order = []
  /-- A block is marked as listed just when it is in the sequence of its order. -/
  marked : ∀ id block, arena.block? id = some block →
    (block.isListed = true ↔ id ∈ queue block.order)
  /-- A sequence has handles of blocks of its order only. -/
  own : ∀ order id, id ∈ queue order → ∃ block, arena.block? id = some block ∧ block.order = order

/-- The sequences of an arena are known from its free lists. -/
theorem Represents.eq {arena : Arena} {maxOrder : Nat} {queue other : Nat → List BlockId}
    (one : arena.Represents maxOrder queue) (two : arena.Represents maxOrder other) :
    other = queue := by
  funext order
  by_cases capped : order ≤ maxOrder
  · obtain ⟨blocks, run, ids⟩ := one.forward order capped
    obtain ⟨found, also_run, found_ids⟩ := two.forward order capped
    rw [run, Except.ok.injEq] at also_run
    rw [← ids, ← found_ids, also_run]
  · rw [one.beyond order (Nat.lt_of_not_le capped), two.beyond order (Nat.lt_of_not_le capped)]

/-- The free lists of an arena are linked as these sequences, there is one for each order, and every
block has one of the orders. -/
structure Linked (arena : Arena) (maxOrder : Nat) (queue : Nat → List BlockId) : Prop where
  sound : arena.Sound
  queued : arena.Queued queue
  housed : arena.Housed (maxOrder + 1) arena.nodes.size
  capped : ∀ {id block}, arena.block? id = some block → block.order ≤ maxOrder

section Linked

variable {arena changed : Arena} {maxOrder : Nat} {queue : Nat → List BlockId} {id : BlockId}
  {block : Block}

/-- The order of a block that is there. -/
theorem orderOf_eq (found : arena.block? id = some block) : arena.orderOf id = block.order := by
  unfold orderOf
  rw [found]
  rfl

/-- A new arena has empty lists. -/
theorem linked_create (maxOrder : Nat) : (create maxOrder).Linked maxOrder fun _ => [] := by
  have no_block : ∀ id, (create maxOrder).block? id = none := fun _ => rfl
  have queued : (create maxOrder).Queued fun _ => [] := by
    refine ⟨fun _ => List.nodup_nil, ?_, ?_, ?_⟩
    · intro order before id after parts
      simp at parts
    · intro id block found
      rw [no_block] at found
      cases found
    · intro order list present
      obtain ⟨inside, same⟩ := Array.getElem?_eq_some_iff.mp present
      rw [← same]
      exact Array.getElem_replicate ..
  refine ⟨⟨⟨_, queued⟩, List.nodup_nil, by simp [create]⟩, queued, housed_create maxOrder, ?_⟩
  intro id block found
  rw [no_block] at found
  cases found

namespace Linked

/-- There is a list for each order. -/
theorem lt_lists (linked : arena.Linked maxOrder queue) {order : Nat} (capped : order ≤ maxOrder) :
    order < arena.lists.size := by
  rw [linked.housed.lists]
  exact Nat.lt_succ_of_le capped

/-- A free list answers the blocks of its sequence, from either end. -/
theorem exists_ids (linked : arena.Linked maxOrder queue) {order : Nat} (capped : order ≤ maxOrder)
    (backward : Bool) :
    ∃ blocks, arena.listed order backward = .ok blocks ∧
      blocks.map (·.1) = if backward then (queue order).reverse else queue order := by
  obtain ⟨blocks, run, -⟩ := exists_listed linked.sound (linked.lt_lists capped) backward
  exact ⟨blocks, run, (listed_eq_ok linked.queued run).1⟩

/-- The sequences that the lists are linked as are what can be seen of them. -/
theorem represents (linked : arena.Linked maxOrder queue) : arena.Represents maxOrder queue where
  nodup := linked.queued.nodup
  forward _ capped := linked.exists_ids capped false
  backward _ capped := linked.exists_ids capped true
  length order capped := by
    obtain ⟨list, present⟩ := exists_list (linked.lt_lists capped)
    have ends := linked.queued.ends order list present
    rw [listLength, Array.getD_eq_getD_getElem?, present, Option.getD_some, ends]
  beyond order large := by
    rw [List.eq_nil_iff_forall_not_mem]
    intro id mem
    obtain ⟨block, found, placed, -⟩ := linked.queued.of_mem mem
    have capped := linked.capped found
    omega
  marked id block found := by
    constructor
    · exact linked.queued.complete id block found
    · intro mem
      obtain ⟨held, present, -, listed⟩ := linked.queued.of_mem mem
      obtain rfl := Option.some.inj (found.symm.trans present)
      exact listed
  own order id mem := by
    obtain ⟨block, found, placed, -⟩ := linked.queued.of_mem mem
    exact ⟨block, found, placed⟩

/-- A step that leaves the room and changes one block but for its order keeps the lists linked, as
the sequences that it leaves. -/
theorem step (linked : arena.Linked maxOrder queue) {later : Nat → List BlockId} {held : Block}
    (found : arena.outline id = some block) (sound : changed.Sound)
    (room : arena.SameRoom changed)
    (outline : changed.outline = Function.update arena.outline id (some held))
    (order : held.order = block.order) (queued : changed.Queued later) :
    changed.Linked maxOrder later := by
  refine ⟨sound, queued, ?_, fun {other present} there => ?_⟩
  · rw [room.size]
    exact linked.housed.sameRoom room outline
  · have drawn := outline_of_block? there
    rw [outline] at drawn
    by_cases same : other = id
    · rw [same, Function.update_self, Option.some.injEq] at drawn
      obtain ⟨old, was, shown⟩ := block?_of_outline found
      rw [← Block.outline_order present, ← drawn, order, ← shown, Block.outline_order]
      exact linked.capped was
    · rw [Function.update_of_ne same] at drawn
      obtain ⟨old, was, shown⟩ := block?_of_outline drawn
      rw [← Block.outline_order present, ← shown, Block.outline_order]
      exact linked.capped was

/-- A loose block can be put before its sequence. -/
theorem pushFront (linked : arena.Linked maxOrder queue) (found : arena.block? id = some block)
    (loose : block.state = .loose) :
    ∃ after, arena.pushFront id = .ok after ∧
      after.Linked maxOrder ((Call.pushFront id).reorder arena.orderOf queue) := by
  have drawn : arena.outline id = some block := by
    rw [outline_of_block? found, Block.outline_of_not_listed (Block.isListed_of_loose loose)]
  have room := linked.lt_lists (linked.capped found)
  obtain ⟨after, run, sound, same, outline⟩ := answers_pushFront linked.sound drawn loose room
  obtain ⟨held, present, queued⟩ := queued_pushFront linked.queued run
  obtain rfl := Option.some.inj (found.symm.trans present)
  rw [← orderOf_eq found] at queued
  exact ⟨after, run, linked.step drawn sound same outline rfl queued⟩

/-- A loose block can be put behind its sequence. -/
theorem pushBack (linked : arena.Linked maxOrder queue) (found : arena.block? id = some block)
    (loose : block.state = .loose) :
    ∃ after, arena.pushBack id = .ok after ∧
      after.Linked maxOrder ((Call.pushBack id).reorder arena.orderOf queue) := by
  have drawn : arena.outline id = some block := by
    rw [outline_of_block? found, Block.outline_of_not_listed (Block.isListed_of_loose loose)]
  have room := linked.lt_lists (linked.capped found)
  obtain ⟨after, run, sound, same, outline⟩ := answers_pushBack linked.sound drawn loose room
  obtain ⟨held, present, queued⟩ := queued_pushBack linked.queued run
  obtain rfl := Option.some.inj (found.symm.trans present)
  rw [← orderOf_eq found] at queued
  exact ⟨after, run, linked.step drawn sound same outline rfl queued⟩

/-- A listed block can be deleted from its sequence. -/
theorem unlink (linked : arena.Linked maxOrder queue) (found : arena.block? id = some block)
    (listed : block.isListed = true) :
    ∃ after, arena.unlink id = .ok after ∧
      after.Linked maxOrder ((Call.unlink id).reorder arena.orderOf queue) := by
  have drawn := outline_of_block? found
  have room : block.outline.order < arena.lists.size := by
    rw [Block.outline_order]
    exact linked.lt_lists (linked.capped found)
  obtain ⟨after, run, sound, same, outline⟩ :=
    answers_unlink linked.sound drawn (by rwa [Block.isListed_outline]) room
  obtain ⟨held, before, behind, present, parts, queued⟩ := queued_unlink linked.queued run
  obtain rfl := Option.some.inj (found.symm.trans present)
  have nodup := linked.queued.nodup block.order
  rw [parts] at nodup
  have erased : (queue block.order).erase id = before ++ behind := by
    rw [parts, List.erase_append_right _ (not_mem_of_nodup nodup).1, List.erase_cons_head]
  rw [← erased, ← orderOf_eq found] at queued
  exact ⟨after, run, linked.step drawn sound same outline rfl queued⟩

/-- A new loose block gets a handle, and the sequences stay. -/
theorem insert (linked : arena.Linked maxOrder queue) (loose : block.state = .loose)
    (capped : block.order ≤ maxOrder) (room : arena.vacant = [] → arena.nodes.size < capacity) :
    ∃ id after, arena.insert block = .ok (id, after) ∧ after.Linked maxOrder queue := by
  have unlisted := Block.isListed_of_loose loose
  rcases insert_cases linked.sound linked.housed block unlisted with
    ⟨id, after, run, -, sound, -, lists, vacant, -⟩ | ⟨-, none_vacant, full⟩
  · obtain ⟨fresh, same, blocks, -⟩ := block?_insert linked.sound run
    refine ⟨id, after, run, sound, ?_, ⟨lists, Nat.le_refl _, vacant⟩, ?_⟩
    · refine linked.queued.of_unlisted id same ?_ ?_ fun other apart => ?_
      · intro held found
        rw [fresh] at found
        cases found
      · intro held found
        rw [blocks, if_pos rfl, Option.some.injEq] at found
        exact found ▸ unlisted
      · rw [blocks, if_neg apart]
    · intro other held found
      rw [blocks] at found
      split at found
      · rw [← Option.some.inj found]
        exact capped
      · exact linked.capped found
  · exact absurd (room none_vacant) (Nat.not_lt_of_le full)

/-- A block that is not listed can be given back, and the sequences stay. -/
theorem remove (linked : arena.Linked maxOrder queue) (found : arena.block? id = some block)
    (unlisted : block.isListed = false) :
    ∃ after, arena.remove id = .ok (block, after) ∧ after.Linked maxOrder queue := by
  have drawn : arena.outline id = some block := by
    rw [outline_of_block? found, Block.outline_of_not_listed unlisted]
  obtain ⟨after, run, sound, housed, -⟩ := exists_remove linked.sound linked.housed drawn unlisted
  obtain ⟨-, -, same, -, size, blocks⟩ := block?_remove run
  refine ⟨after, run, sound, ?_, size ▸ housed, ?_⟩
  · refine linked.queued.of_unlisted id same ?_ ?_ fun other apart => ?_
    · intro held present
      exact Option.some.inj (found.symm.trans present) ▸ unlisted
    · intro held present
      rw [blocks, if_pos rfl] at present
      cases present
    · rw [blocks, if_neg apart]
  · intro other held present
    rw [blocks] at present
    split at present
    · cases present
    · exact linked.capped present

/-- An allowed call answers, and it acts on the sequences as it says. -/
theorem perform (linked : arena.Linked maxOrder queue) {call : Call}
    (allowed : arena.Allows maxOrder call) :
    ∃ after, arena.perform call = .ok after ∧
      after.Linked maxOrder (call.reorder arena.orderOf queue) := by
  cases call with
  | insert block =>
    obtain ⟨loose, capped, room⟩ := allowed
    obtain ⟨id, after, run, linked⟩ := linked.insert loose capped room
    exact ⟨after, bind_eq_ok_iff.mpr ⟨(id, after), run, rfl⟩, linked⟩
  | pushFront id =>
    obtain ⟨block, found, loose⟩ := allowed
    exact linked.pushFront found loose
  | pushBack id =>
    obtain ⟨block, found, loose⟩ := allowed
    exact linked.pushBack found loose
  | unlink id =>
    obtain ⟨block, found, listed⟩ := allowed
    exact linked.unlink found listed
  | remove id =>
    obtain ⟨block, found, unlisted⟩ := allowed
    obtain ⟨after, run, linked⟩ := linked.remove found unlisted
    exact ⟨after, bind_eq_ok_iff.mpr ⟨(block, after), run, rfl⟩, linked⟩

end Linked

/-- Allowed calls leave the lists linked. -/
theorem Reached.exists_linked (reached : Reached maxOrder arena) :
    ∃ queue, arena.Linked maxOrder queue := by
  induction reached with
  | start => exact ⟨_, linked_create maxOrder⟩
  | step call _ allowed run ih =>
    obtain ⟨queue, linked⟩ := ih
    obtain ⟨after, answers, linked_after⟩ := linked.perform allowed
    obtain rfl := Except.ok.inj (run.symm.trans answers)
    exact ⟨_, linked_after⟩

end Linked

/-- After any allowed calls the free lists of an arena represent one family of sequences, and every
allowed call answers and acts on them as putting before, putting behind or deleting. -/
theorem reached_sequences {maxOrder : Nat} {arena : Arena} (reached : Reached maxOrder arena) :
    ∃ queue, arena.Represents maxOrder queue ∧
      (∀ other, arena.Represents maxOrder other → other = queue) ∧
      ∀ call, arena.Allows maxOrder call → ∃ after, arena.perform call = .ok after ∧
        after.Represents maxOrder (call.reorder arena.orderOf queue) := by
  obtain ⟨queue, linked⟩ := reached.exists_linked
  refine ⟨queue, linked.represents, fun other => linked.represents.eq, fun call allowed => ?_⟩
  obtain ⟨after, run, linked_after⟩ := linked.perform allowed
  exact ⟨after, run, linked_after.represents⟩

/-- Of three blocks that are listed, the last one at the head, the one in the middle is taken
off. -/
theorem sequences_of_three :
    ∃ arena, Reached 3 arena ∧ ∃ queue, arena.Represents 3 queue ∧ queue 1 = [2, 0, 1] ∧
      ∃ after, arena.perform (.unlink 0) = .ok after ∧
        after.Represents 3 (Function.update queue 1 [2, 1]) := by
  have one : Reached 3 _ :=
    .step (.insert { position := 0, order := 1 }) .start ⟨rfl, by decide, fun _ => by decide⟩ rfl
  have two : Reached 3 _ :=
    .step (.insert { position := 2, order := 1 }) one ⟨rfl, by decide, fun _ => by decide⟩ rfl
  have three : Reached 3 _ :=
    .step (.insert { position := 4, order := 1 }) two ⟨rfl, by decide, fun _ => by decide⟩ rfl
  have first : Reached 3 _ := .step (.pushBack 0) three ⟨_, rfl, rfl⟩ rfl
  have second : Reached 3 _ := .step (.pushBack 1) first ⟨_, rfl, rfl⟩ rfl
  have third : Reached 3 _ := .step (.pushFront 2) second ⟨_, rfl, rfl⟩ rfl
  obtain ⟨queue, represents, -, calls⟩ := reached_sequences third
  have listed : queue 1 = [2, 0, 1] := by
    obtain ⟨blocks, run, ids⟩ := represents.forward 1 (by decide)
    rw [← ids, ← Except.ok.inj run]
    rfl
  obtain ⟨after, run, still⟩ := calls (.unlink 0) ⟨_, rfl, rfl⟩
  refine ⟨_, third, queue, represents, listed, after, run, ?_⟩
  have left : (queue 1).erase 0 = [2, 1] := by
    rw [listed]
    rfl
  rw [← left]
  exact still

end GpuSched.Buddy.Arena
