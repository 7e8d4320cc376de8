import GpuSched.Buddy.Arena
import GpuSched.Proofs.Contract
import Mathlib.Data.List.Nodup
import Mathlib.Logic.Function.Basic

/-!
# Free lists as sequences

The free list of each order represents a sequence of handles without repetition: the links of its
blocks are the neighbours in the sequence, its ends are the first and the last handle. Putting a
block on a list and taking it off act on the sequence as on a list. Besides that they change only
the state of the block itself, which `Arena.outline` makes visible: it shows the blocks of an arena
without their links.
-/
namespace GpuSched.Buddy

open Operation (bind_eq_ok_iff pure_eq_ok_iff)

namespace Block

/-- The block without its place on a free list. -/
def outline (block : Block) : Block :=
  match block.state with
  | .listed _ _ => { block with state := .listed none none }
  | .loose | .split _ _ | .allocated => block

/-- A loose block is on no list. -/
theorem isListed_of_loose {block : Block} (loose : block.state = .loose) :
    block.isListed = false := by
  unfold isListed
  rw [loose]

/-- A block that is handed out is on no list. -/
theorem isListed_of_allocated {block : Block} (allocated : block.state = .allocated) :
    block.isListed = false := by
  unfold isListed
  rw [allocated]

/-- A block that is not listed has no place on a free list to forget. -/
theorem outline_of_not_listed {block : Block} (unlisted : block.isListed = false) :
    block.outline = block := by
  rcases block with ⟨_, _, _, _ | _ | _ | _, _⟩
  case listed => cases unlisted
  all_goals rfl

@[simp] theorem outline_position (block : Block) : block.outline.position = block.position := by
  rcases block with ⟨_, _, _, _ | _ | _ | _, _⟩ <;> rfl

@[simp] theorem outline_order (block : Block) : block.outline.order = block.order := by
  rcases block with ⟨_, _, _, _ | _ | _ | _, _⟩ <;> rfl

@[simp] theorem outline_pageClass (block : Block) : block.outline.pageClass = block.pageClass := by
  rcases block with ⟨_, _, _, _ | _ | _ | _, _⟩ <;> rfl

@[simp] theorem outline_family (block : Block) : block.outline.family = block.family := by
  rcases block with ⟨_, _, _, _ | _ | _ | _, _⟩ <;> rfl

@[simp] theorem isListed_outline (block : Block) : block.outline.isListed = block.isListed := by
  rcases block with ⟨_, _, _, _ | _ | _ | _, _⟩ <;> rfl

@[simp] theorem outline_withPrevious (block : Block) (previous : Option BlockId) :
    (block.withPrevious previous).outline = block.outline := by
  rcases block with ⟨_, _, _, _ | _ | _ | _, _⟩ <;> rfl

@[simp] theorem outline_withNext (block : Block) (next : Option BlockId) :
    (block.withNext next).outline = block.outline := by
  rcases block with ⟨_, _, _, _ | _ | _ | _, _⟩ <;> rfl

/-- A listed block with another block before it keeps the block after it. -/
theorem withPrevious_of_listed {block : Block} {previous next other : Option BlockId}
    (listed : block.state = .listed previous next) :
    block.withPrevious other = { block with state := .listed other next } := by
  unfold withPrevious
  rw [listed]

/-- A listed block with another block after it keeps the block before it. -/
theorem withNext_of_listed {block : Block} {previous next other : Option BlockId}
    (listed : block.state = .listed previous next) :
    block.withNext other = { block with state := .listed previous other } := by
  unfold withNext
  rw [listed]

/-- A block is listed just when its state says between which neighbours. -/
theorem isListed_iff {block : Block} :
    block.isListed = true ↔ ∃ previous next, block.state = .listed previous next := by
  rcases block with ⟨_, _, _, _ | _ | _ | _, _⟩ <;> simp [isListed]

end Block

namespace Arena

/-- The block under a handle without its place on a free list. -/
def outline (arena : Arena) (id : BlockId) : Option Block := (arena.block? id).map Block.outline

section Nodes

variable {arena : Arena} {id other : BlockId} {block : Block}

/-- A handle with a block is one of the arena. -/
theorem lt_size_of_block? (found : arena.block? id = some block) : id < arena.nodes.size := by
  unfold block? at found
  by_contra outside
  rw [Array.getElem?_eq_none (Nat.le_of_not_lt outside)] at found
  cases found

/-- Putting a block under a handle in use changes what is under that handle. -/
theorem block?_put (inside : id < arena.nodes.size) :
    (arena.put id block).block? other = if other = id then some block else arena.block? other := by
  unfold block? put
  by_cases same : other = id
  · subst same
    simp [inside]
  · simp [same, Ne.symm same]

/-- The block under a handle is found just when there is one. -/
theorem block_eq_ok_iff : arena.block id = .ok block ↔ arena.block? id = some block := by
  unfold Arena.block
  split
  · simp_all
  · simp_all [failing]

/-- A change of the block under a handle needs a block there. -/
theorem update_eq_ok_iff {change : Block → Block} {changed : Arena} :
    arena.update id change = .ok changed ↔
      ∃ block, arena.block? id = some block ∧ changed = arena.put id (change block) := by
  unfold update
  simp only [bind_eq_ok_iff, block_eq_ok_iff, pure_eq_ok_iff]
  exact exists_congr fun _ => and_congr_right fun _ => eq_comm

/-- A loose block is answered just when the block under the handle is loose. -/
theorem looseBlock_eq_ok_iff :
    arena.looseBlock id = .ok block ↔ arena.block? id = some block ∧ block.state = .loose := by
  simp only [looseBlock, bind_eq_ok_iff, block_eq_ok_iff]
  constructor
  · rintro ⟨held, found, checked⟩
    split at checked
    · rename_i loose
      obtain rfl := pure_eq_ok_iff.mp checked
      exact ⟨found, loose⟩
    · cases checked
  · rintro ⟨found, loose⟩
    exact ⟨block, found, by rw [if_pos loose]; rfl⟩

/-- The free list of an order is answered just when the arena has one. -/
theorem freeList_eq_ok_iff {order : Nat} {list : FreeList} :
    arena.freeList order = .ok list ↔ arena.lists[order]? = some list := by
  unfold freeList
  split <;> simp_all

@[simp] theorem put_lists : (arena.put id block).lists = arena.lists := rfl

@[simp] theorem put_vacant : (arena.put id block).vacant = arena.vacant := rfl

@[simp] theorem put_size : (arena.put id block).nodes.size = arena.nodes.size := by
  simp [put]

@[simp] theorem putList_block? {order : Nat} {list : FreeList} :
    (arena.putList order list).block? other = arena.block? other := rfl

@[simp] theorem putList_vacant {order : Nat} {list : FreeList} :
    (arena.putList order list).vacant = arena.vacant := rfl

@[simp] theorem putList_nodes {order : Nat} {list : FreeList} :
    (arena.putList order list).nodes = arena.nodes := rfl

/-- Another free list for an order replaces the one it has. -/
theorem putList_lists {order wanted : Nat} {list old : FreeList}
    (present : arena.lists[order]? = some old) :
    (arena.putList order list).lists[wanted]? =
      if wanted = order then some list else arena.lists[wanted]? := by
  obtain ⟨inside, -⟩ := Array.getElem?_eq_some_iff.mp present
  unfold putList
  by_cases same : wanted = order
  · subst same
    simp [inside]
  · simp [same, Ne.symm same]

end Nodes

/-- The free lists of an arena represent these sequences of handles, one for each order. -/
structure Queued (arena : Arena) (queue : Nat → List BlockId) : Prop where
  /-- No handle stands twice on a list. -/
  nodup : ∀ order, (queue order).Nodup
  /-- A block of a list has its order and is linked to its neighbours. -/
  linked : ∀ order before id after, queue order = before ++ id :: after →
    ∃ block, arena.block? id = some block ∧ block.order = order ∧
      block.state = .listed before.getLast? after.head?
  /-- A listed block is on the list of its order. -/
  complete : ∀ id block, arena.block? id = some block → block.isListed = true →
    id ∈ queue block.order
  /-- A list knows its ends and its length. -/
  ends : ∀ order (list : FreeList), arena.lists[order]? = some list →
    list = ⟨(queue order).head?, (queue order).getLast?, (queue order).length⟩

namespace Queued

variable {arena : Arena} {queue : Nat → List BlockId}

/-- A handle on a list has a listed block of the order. -/
theorem of_mem (queued : arena.Queued queue) {order : Nat} {id : BlockId}
    (mem : id ∈ queue order) :
    ∃ block, arena.block? id = some block ∧ block.order = order ∧ block.isListed = true := by
  obtain ⟨before, after, parts⟩ := List.append_of_mem mem
  obtain ⟨block, found, same, state⟩ := queued.linked order before id after parts
  exact ⟨block, found, same, Block.isListed_iff.mpr ⟨_, _, state⟩⟩

/-- A block that is not listed is on no list. -/
theorem not_mem (queued : arena.Queued queue) {id : BlockId} {block : Block}
    (found : arena.block? id = some block) (unlisted : block.isListed = false) (order : Nat) :
    id ∉ queue order := by
  intro mem
  obtain ⟨held, present, -, listed⟩ := queued.of_mem mem
  rw [found, Option.some.injEq] at present
  rw [present, listed] at unlisted
  cases unlisted

/-- When one list is replaced, and blocks that are neither on the old one nor on the new one stay,
the lists are represented with the new sequence in the place of the old one. -/
theorem replace (queued : arena.Queued queue) {changed : Arena} {order : Nat}
    {list : List BlockId} (nodup : list.Nodup)
    (linked : ∀ before id after, list = before ++ id :: after →
      ∃ block, changed.block? id = some block ∧ block.order = order ∧
        block.state = .listed before.getLast? after.head?)
    (fresh : ∀ id ∈ list, id ∉ queue order →
      ∀ block, arena.block? id = some block → block.isListed = false)
    (gone : ∀ id ∈ queue order, id ∉ list →
      ∀ block, changed.block? id = some block → block.isListed = false)
    (kept : ∀ id, id ∉ list → id ∉ queue order → changed.block? id = arena.block? id)
    (ends : changed.lists[order]? = some ⟨list.head?, list.getLast?, list.length⟩)
    (others : ∀ other, other ≠ order → changed.lists[other]? = arena.lists[other]?) :
    changed.Queued (Function.update queue order list) where
  nodup other := by
    by_cases same : other = order
    · subst same
      rwa [Function.update_self]
    · rw [Function.update_of_ne same]
      exact queued.nodup other
  linked other before id after parts := by
    by_cases same : other = order
    · subst same
      rw [Function.update_self] at parts
      exact linked before id after parts
    · rw [Function.update_of_ne same] at parts
      obtain ⟨block, found, placed, state⟩ := queued.linked other before id after parts
      have listed : block.isListed = true := Block.isListed_iff.mpr ⟨_, _, state⟩
      have outside : id ∉ queue order := by
        intro mem
        obtain ⟨held, present, elsewhere, -⟩ := queued.of_mem mem
        rw [found, Option.some.injEq] at present
        exact same (placed.symm.trans (present ▸ elsewhere))
      have unlisted : id ∉ list := by
        intro mem
        have := fresh id mem outside block found
        rw [listed] at this
        cases this
      exact ⟨block, by rw [kept id unlisted outside, found], placed, state⟩
  complete id block found listed := by
    by_cases mem : id ∈ list
    · obtain ⟨before, after, parts⟩ := List.append_of_mem mem
      obtain ⟨held, present, placed, -⟩ := linked before id after parts
      rw [found, Option.some.injEq] at present
      rw [present, placed, Function.update_self]
      exact mem
    · by_cases old : id ∈ queue order
      · have := gone id old mem block found
        rw [listed] at this
        cases this
      · rw [kept id mem old] at found
        have present := queued.complete id block found listed
        have elsewhere : block.order ≠ order := fun same => old (same ▸ present)
        rwa [Function.update_of_ne elsewhere]
  ends other held present := by
    by_cases same : other = order
    · subst same
      rw [ends, Option.some.injEq] at present
      rw [Function.update_self, present]
    · rw [Function.update_of_ne same]
      exact queued.ends other held (others other same ▸ present)

end Queued

section Listing

variable {arena changed : Arena} {queue : Nat → List BlockId} {id : BlockId}

/-- A change of the block under a handle, if one is given. -/
def updateAt (arena : Arena) (handle : Option BlockId) (change : Block → Block) :
    Except Failure Arena :=
  match handle with
  | some neighbour => arena.update neighbour change
  | none => pure arena

/-- A change under an optional handle changes that block only. -/
theorem block?_updateAt {handle : Option BlockId} {change : Block → Block}
    (run : arena.updateAt handle change = .ok changed) :
    changed.lists = arena.lists ∧ changed.vacant = arena.vacant ∧
      changed.nodes.size = arena.nodes.size ∧ ∀ other, changed.block? other =
        if some other = handle then (arena.block? other).map change else arena.block? other := by
  unfold updateAt at run
  split at run
  · rename_i neighbour
    obtain ⟨held, under, rfl⟩ := update_eq_ok_iff.mp run
    refine ⟨rfl, rfl, put_size, fun other => ?_⟩
    rw [block?_put (lt_size_of_block? under)]
    by_cases same : other = neighbour
    · subst same
      simp [under]
    · simp [same]
  · obtain rfl := pure_eq_ok_iff.mp run
    simp

/-- A loose block gets the links of a list, its neighbour there is linked to it, and the list gets
new ends. -/
structure Joins (arena : Arena) (id : BlockId) (block : Block) (state : BlockState)
    (neighbour : Option BlockId) (link : Block → Block) (list : FreeList) (changed : Arena) :
    Prop where
  found : arena.block? id = some block
  loose : block.state = .loose
  linked : ∃ linked, (arena.put id { block with state }).updateAt neighbour link = .ok linked ∧
    changed = linked.putList block.order list

section Joining

variable {block : Block} {state : BlockState} {neighbour : Option BlockId} {link : Block → Block}
  {list : FreeList}

/-- Joining a list takes no room. -/
theorem Joins.room (joins : arena.Joins id block state neighbour link list changed) :
    changed.lists.size = arena.lists.size ∧ changed.vacant = arena.vacant ∧
      changed.nodes.size = arena.nodes.size := by
  obtain ⟨linked, run, rfl⟩ := joins.linked
  obtain ⟨lists, vacant, size, -⟩ := block?_updateAt run
  exact ⟨by simp [putList, lists], by simp [vacant], by simp [size]⟩

/-- The list that was joined has its new ends, and the others stay. -/
theorem Joins.lists_getElem? (joins : arena.Joins id block state neighbour link list changed)
    {old : FreeList} (present : arena.lists[block.order]? = some old) (order : Nat) :
    changed.lists[order]? = if order = block.order then some list else arena.lists[order]? := by
  obtain ⟨linked, run, rfl⟩ := joins.linked
  have lists : linked.lists = arena.lists := (block?_updateAt run).1
  rw [putList_lists (by rw [lists]; exact present), lists]

/-- The block that joins a list and its neighbour there change, and the others stay. -/
theorem Joins.block?_eq (joins : arena.Joins id block state neighbour link list changed)
    (apart : some id ≠ neighbour) (other : BlockId) :
    changed.block? other =
      if other = id then some { block with state }
      else if some other = neighbour then (arena.block? other).map link
      else arena.block? other := by
  obtain ⟨linked, run, rfl⟩ := joins.linked
  rw [putList_block?, (block?_updateAt run).2.2.2, block?_put (lt_size_of_block? joins.found)]
  by_cases same : other = id
  · rw [if_pos same, if_pos same, if_neg (by rwa [same])]
  · rw [if_neg same, if_neg same]

end Joining

/-- Listing a loose block at the head links the old head to it and moves the head. -/
theorem pushFront_of_loose {block : Block} (found : arena.block? id = some block)
    (loose : block.state = .loose) :
    arena.pushFront id = (do
      let list ← arena.freeList block.order
      let linked ← (arena.put id { block with state := .listed none list.head }).updateAt list.head
        (·.withPrevious (some id))
      return linked.putList block.order
        ⟨some id, if list.head.isSome then list.tail else some id, list.length + 1⟩) := by
  have held : arena.looseBlock id = .ok block := looseBlock_eq_ok_iff.mpr ⟨found, loose⟩
  unfold pushFront
  simp only [held, bind, Except.bind]
  cases arena.freeList block.order with
  | error failure => rfl
  | ok list =>
    obtain ⟨head, tail, length⟩ := list
    cases head <;> rfl

/-- Listing a loose block at the tail links the old tail to it and moves the tail. -/
theorem pushBack_of_loose {block : Block} (found : arena.block? id = some block)
    (loose : block.state = .loose) :
    arena.pushBack id = (do
      let list ← arena.freeList block.order
      let linked ← (arena.put id { block with state := .listed list.tail none }).updateAt list.tail
        (·.withNext (some id))
      return linked.putList block.order
        ⟨if list.tail.isSome then list.head else some id, some id, list.length + 1⟩) := by
  have held : arena.looseBlock id = .ok block := looseBlock_eq_ok_iff.mpr ⟨found, loose⟩
  unfold pushBack
  simp only [held, bind, Except.bind]
  cases arena.freeList block.order with
  | error failure => rfl
  | ok list =>
    obtain ⟨head, tail, length⟩ := list
    cases tail <;> rfl

/-- A step that asks for a loose block and puts it on its list is done just when the block joins
the list. -/
theorem eq_ok_iff_joins {step : Except Failure Arena} {state : FreeList → BlockState}
    {neighbour : FreeList → Option BlockId} {link : Block → Block} {ends : FreeList → FreeList}
    (asks : step = .ok changed → ∃ block, arena.looseBlock id = .ok block)
    (puts : ∀ block, arena.block? id = some block → block.state = .loose → step = (do
      let list ← arena.freeList block.order
      let linked ← (arena.put id { block with state := state list }).updateAt (neighbour list) link
      return linked.putList block.order (ends list))) :
    step = .ok changed ↔ ∃ block list, arena.lists[block.order]? = some list ∧
      arena.Joins id block (state list) (neighbour list) link (ends list) changed := by
  constructor
  · intro run
    obtain ⟨block, held⟩ := asks run
    obtain ⟨found, loose⟩ := looseBlock_eq_ok_iff.mp held
    rw [puts block found loose] at run
    simp only [bind_eq_ok_iff, freeList_eq_ok_iff, pure_eq_ok_iff] at run
    obtain ⟨list, present, linked, links, rfl⟩ := run
    exact ⟨block, list, present, found, loose, linked, links, rfl⟩
  · rintro ⟨block, list, present, found, loose, linked, links, rfl⟩
    rw [puts block found loose]
    simp only [bind_eq_ok_iff, freeList_eq_ok_iff, pure_eq_ok_iff]
    exact ⟨list, present, linked, links, rfl⟩

/-- A block is listed at the head just when it joins its list before the old head. -/
theorem pushFront_eq_ok_iff :
    arena.pushFront id = .ok changed ↔ ∃ block list, arena.lists[block.order]? = some list ∧
      arena.Joins id block (.listed none list.head) list.head (·.withPrevious (some id))
        ⟨some id, if list.head.isSome then list.tail else some id, list.length + 1⟩ changed :=
  eq_ok_iff_joins (fun run => (bind_eq_ok_iff.mp run).imp fun _ => And.left)
    fun _ => pushFront_of_loose

/-- A block is listed at the tail just when it joins its list behind the old tail. -/
theorem pushBack_eq_ok_iff :
    arena.pushBack id = .ok changed ↔ ∃ block list, arena.lists[block.order]? = some list ∧
      arena.Joins id block (.listed list.tail none) list.tail (·.withNext (some id))
        ⟨if list.tail.isSome then list.head else some id, some id, list.length + 1⟩ changed :=
  eq_ok_iff_joins (fun run => (bind_eq_ok_iff.mp run).imp fun _ => And.left)
    fun _ => pushBack_of_loose

/-- The ends of a list are in its sequence. -/
theorem Queued.mem_of_end (queued : arena.Queued queue) {list : FreeList} {order : Nat}
    (present : arena.lists[order]? = some list) {item : BlockId}
    (last : list.head = some item ∨ list.tail = some item) : item ∈ queue order := by
  rw [queued.ends order list present] at last
  exact last.elim List.mem_of_mem_head? List.mem_of_getLast?

/-- A loose block is at neither end of a list. -/
theorem Queued.ne_ends (queued : arena.Queued queue) {block : Block} {list : FreeList} {order : Nat}
    (found : arena.block? id = some block) (loose : block.state = .loose)
    (present : arena.lists[order]? = some list) : some id ≠ list.head ∧ some id ≠ list.tail := by
  have absent := queued.not_mem found (Block.isListed_of_loose loose) order
  exact ⟨fun head => absent (queued.mem_of_end present (.inl head.symm)),
    fun tail => absent (queued.mem_of_end present (.inr tail.symm))⟩

/-- What listing a block at the head does to the blocks. -/
theorem block?_pushFront (queued : arena.Queued queue) (run : arena.pushFront id = .ok changed) :
    ∃ block list, arena.block? id = some block ∧ block.state = .loose ∧
      arena.lists[block.order]? = some list ∧ changed.vacant = arena.vacant ∧
      changed.nodes.size = arena.nodes.size ∧
      (∀ other, changed.lists[other]? = if other = block.order then
        some ⟨some id, if list.head.isSome then list.tail else some id, list.length + 1⟩
        else arena.lists[other]?) ∧
      ∀ other, changed.block? other =
        if other = id then some { block with state := .listed none list.head }
        else if some other = list.head then (arena.block? other).map (·.withPrevious (some id))
        else arena.block? other := by
  obtain ⟨block, list, present, joins⟩ := pushFront_eq_ok_iff.mp run
  obtain ⟨-, vacant, size⟩ := joins.room
  exact ⟨block, list, joins.found, joins.loose, present, vacant, size,
    joins.lists_getElem? present,
    joins.block?_eq (queued.ne_ends joins.found joins.loose present).1⟩

/-- What listing a block at the tail does to the blocks. -/
theorem block?_pushBack (queued : arena.Queued queue) (run : arena.pushBack id = .ok changed) :
    ∃ block list, arena.block? id = some block ∧ block.state = .loose ∧
      arena.lists[block.order]? = some list ∧ changed.vacant = arena.vacant ∧
      changed.nodes.size = arena.nodes.size ∧
      (∀ other, changed.lists[other]? = if other = block.order then
        some ⟨if list.tail.isSome then list.head else some id, some id, list.length + 1⟩
        else arena.lists[other]?) ∧
      ∀ other, changed.block? other =
        if other = id then some { block with state := .listed list.tail none }
        else if some other = list.tail then (arena.block? other).map (·.withNext (some id))
        else arena.block? other := by
  obtain ⟨block, list, present, joins⟩ := pushBack_eq_ok_iff.mp run
  obtain ⟨-, vacant, size⟩ := joins.room
  exact ⟨block, list, joins.found, joins.loose, present, vacant, size,
    joins.lists_getElem? present,
    joins.block?_eq (queued.ne_ends joins.found joins.loose present).2⟩

/-- A block listed at the head stands before the sequence of its order. -/
theorem queued_pushFront (queued : arena.Queued queue) (run : arena.pushFront id = .ok changed) :
    ∃ block, arena.block? id = some block ∧
      changed.Queued (Function.update queue block.order (id :: queue block.order)) := by
  obtain ⟨block, list, found, loose, present, -, -, lists, blocks⟩ := block?_pushFront queued run
  have unlisted : block.isListed = false := Block.isListed_of_loose loose
  have absent : id ∉ queue block.order := queued.not_mem found unlisted block.order
  have ends := queued.ends block.order list present
  have nodup := queued.nodup block.order
  refine ⟨block, found, queued.replace (List.nodup_cons.mpr ⟨absent, nodup⟩) ?_ ?_ ?_ ?_ ?_ ?_⟩
  · intro before item after parts
    rw [blocks, ends]
    cases before with
    | nil =>
      obtain ⟨rfl, rfl⟩ := List.cons.inj parts
      exact ⟨_, if_pos rfl, rfl, rfl⟩
    | cons first rest =>
      obtain ⟨rfl, behind⟩ : id = first ∧ queue block.order = rest ++ item :: after :=
        List.cons.inj parts
      obtain ⟨held, under, placed, state⟩ := queued.linked _ rest item after behind
      have apart : item ≠ id := fun same => absent (by rw [behind]; simp [same])
      rw [if_neg apart, under]
      cases rest with
      | nil =>
        rw [if_pos (by rw [behind]; rfl)]
        refine ⟨_, rfl, ?_, ?_⟩ <;> simp only [Block.withPrevious_of_listed state]
        · exact placed
        · rfl
      | cons second rest =>
        rw [behind] at nodup
        have later : some item ≠ (queue block.order).head? := by
          rw [behind]
          intro same
          obtain rfl := Option.some.inj same
          simp at nodup
        rw [if_neg later]
        exact ⟨held, rfl, placed, by rw [state, List.getLast?_cons_cons]⟩
  · intro item mem outside held under
    obtain rfl := (List.mem_cons.mp mem).resolve_right outside
    rw [found, Option.some.injEq] at under
    exact under ▸ unlisted
  · intro item old missing
    exact absurd (List.mem_cons_of_mem _ old) missing
  · intro item missing outside
    have later : some item ≠ list.head := by
      rw [ends]
      exact fun head => outside (List.mem_of_mem_head? head.symm)
    have apart : item ≠ id := fun same => missing (by rw [same]; exact List.mem_cons_self)
    rw [blocks, if_neg apart, if_neg later]
  · rw [lists, if_pos rfl, ends]
    cases queue block.order <;> simp [List.getLast?_cons_cons]
  · intro other differs
    rw [lists, if_neg differs]

/-- A block listed at the tail stands after the sequence of its order. -/
theorem queued_pushBack (queued : arena.Queued queue) (run : arena.pushBack id = .ok changed) :
    ∃ block, arena.block? id = some block ∧
      changed.Queued (Function.update queue block.order (queue block.order ++ [id])) := by
  obtain ⟨block, list, found, loose, present, -, -, lists, blocks⟩ := block?_pushBack queued run
  have unlisted : block.isListed = false := Block.isListed_of_loose loose
  have absent : id ∉ queue block.order := queued.not_mem found unlisted block.order
  have ends := queued.ends block.order list present
  have nodup := queued.nodup block.order
  refine ⟨block, found, queued.replace ?_ ?_ ?_ ?_ ?_ ?_ ?_⟩
  · exact List.nodup_append.mpr ⟨nodup, by simp, by grind⟩
  · intro before item after parts
    rw [blocks, ends]
    rcases List.eq_nil_or_concat' after with rfl | ⟨rest, last, rfl⟩
    · obtain ⟨rfl, same⟩ := List.append_inj' parts rfl
      obtain rfl := List.cons.inj same |>.1
      exact ⟨_, if_pos rfl, rfl, rfl⟩
    · rw [← List.cons_append, ← List.append_assoc] at parts
      obtain ⟨ahead, same⟩ : queue block.order = before ++ item :: rest ∧ [id] = [last] :=
        List.append_inj' parts rfl
      obtain rfl := (List.cons.inj same).1
      obtain ⟨held, under, placed, state⟩ := queued.linked _ before item rest ahead
      have apart : item ≠ id := fun same => absent (by rw [ahead]; simp [same])
      rw [if_neg apart, under]
      cases rest with
      | nil =>
        rw [if_pos (by rw [ahead]; simp)]
        refine ⟨_, rfl, ?_, ?_⟩ <;> simp only [Block.withNext_of_listed state]
        · exact placed
        · rfl
      | cons second rest =>
        rw [ahead] at nodup
        have earlier : some item ≠ (queue block.order).getLast? := by
          rw [ahead]
          grind
        rw [if_neg earlier]
        exact ⟨held, rfl, placed, by rw [state]; rfl⟩
  · intro item mem outside held under
    obtain rfl := List.mem_singleton.mp ((List.mem_append.mp mem).resolve_left outside)
    rw [found, Option.some.injEq] at under
    exact under ▸ unlisted
  · intro item old missing
    exact absurd (List.mem_append_left _ old) missing
  · intro item missing outside
    have earlier : some item ≠ list.tail := by
      rw [ends]
      exact fun tail => outside (List.mem_of_getLast? tail.symm)
    have apart : item ≠ id := fun same => missing (by simp [same])
    rw [blocks, if_neg apart, if_neg earlier]
  · rw [lists, if_pos rfl, ends, List.getLast?_concat]
    cases queue block.order <;> simp
  · intro other differs
    rw [lists, if_neg differs]

end Listing

/-- An entry of a list without repetition stands neither before nor after itself. -/
theorem not_mem_of_nodup {before after : List Nat} {id : Nat}
    (nodup : (before ++ id :: after).Nodup) : id ∉ before ∧ id ∉ after := by
  rw [List.nodup_middle, List.nodup_cons, List.mem_append, not_or] at nodup
  exact nodup.1

/-- The neighbours of an entry of a list without repetition differ from it and from one another. -/
theorem neighbours_apart {before after : List Nat} {id : Nat}
    (nodup : (before ++ id :: after).Nodup) :
    some id ≠ before.getLast? ∧ some id ≠ after.head? ∧
      ∀ other, some other = before.getLast? → some other ≠ after.head? := by
  obtain ⟨not_before, not_after⟩ := not_mem_of_nodup nodup
  rw [List.nodup_middle, List.nodup_cons, List.nodup_append] at nodup
  obtain ⟨-, -, -, apart⟩ := nodup
  refine ⟨fun last => ?_, fun head => ?_, fun other last head => ?_⟩
  · exact not_before (List.mem_of_getLast? last.symm)
  · exact not_after (List.mem_of_mem_head? head.symm)
  · exact apart other (List.mem_of_getLast? last.symm) other (List.mem_of_mem_head? head.symm) rfl

/-- An entry of two lists in a row lies in one of them. -/
theorem append_cons_eq_append {front back before after : List Nat} {item : Nat}
    (parts : before ++ after = front ++ item :: back) :
    (∃ middle, before = front ++ item :: middle ∧ back = middle ++ after) ∨
      ∃ middle, front = before ++ middle ∧ after = middle ++ item :: back := by
  rcases List.append_eq_append_iff.mp parts with ⟨middle, rfl, rest⟩ | ⟨middle, rfl, rest⟩
  · exact .inr ⟨middle, rfl, rest⟩
  · cases middle with
    | nil => exact .inr ⟨[], by simp, by simpa using rest.symm⟩
    | cons first middle =>
      obtain ⟨rfl, rfl⟩ := List.cons.inj rest
      exact .inl ⟨middle, rfl, rfl⟩

section Unlinking

variable {arena changed : Arena} {queue : Nat → List BlockId} {id : BlockId}

/-- Taking a listed block off its list joins its neighbours and corrects the ends. -/
theorem unlink_of_listed {block : Block} {previous next : Option BlockId}
    (found : arena.block? id = some block) (state : block.state = .listed previous next) :
    arena.unlink id = (do
      let list ← arena.freeList block.order
      let first ← (arena.put id { block with state := .loose }).updateAt previous (·.withNext next)
      let second ← first.updateAt next (·.withPrevious previous)
      let length ← Checked.sub list.length 1
      return second.putList block.order
        { head := if previous.isSome then list.head else next
          tail := if next.isSome then list.tail else previous
          length }) := by
  have held : arena.block id = .ok block := block_eq_ok_iff.mpr found
  unfold unlink
  simp only [held, bind, Except.bind, state]
  cases previous <;> cases next <;> rfl

/-- What taking a block off its list does to the blocks. -/
theorem block?_unlink (queued : arena.Queued queue) (run : arena.unlink id = .ok changed) :
    ∃ block list before after, arena.block? id = some block ∧
      queue block.order = before ++ id :: after ∧
      block.state = .listed before.getLast? after.head? ∧
      arena.lists[block.order]? = some list ∧ changed.vacant = arena.vacant ∧
      changed.nodes.size = arena.nodes.size ∧
      (∀ other, changed.lists[other]? = if other = block.order then
        some ⟨if before.getLast?.isSome then list.head else after.head?,
          if after.head?.isSome then list.tail else before.getLast?, list.length - 1⟩
        else arena.lists[other]?) ∧
      ∀ other, changed.block? other =
        if other = id then some { block with state := .loose }
        else if some other = before.getLast? then
          (arena.block? other).map (·.withNext after.head?)
        else if some other = after.head? then
          (arena.block? other).map (·.withPrevious before.getLast?)
        else arena.block? other := by
  have ⟨block, found, _⟩ := bind_eq_ok_iff.mp run
  rw [block_eq_ok_iff] at found
  cases state : block.state with
  | listed previous next =>
    have mem := queued.complete id block found (Block.isListed_iff.mpr ⟨_, _, state⟩)
    obtain ⟨before, after, parts⟩ := List.append_of_mem mem
    obtain ⟨held, present, -, links⟩ := queued.linked block.order before id after parts
    rw [found, Option.some.injEq] at present
    subst present
    obtain ⟨rfl, rfl⟩ := BlockState.listed.inj (state.symm.trans links)
    rw [unlink_of_listed found state] at run
    simp only [bind_eq_ok_iff, freeList_eq_ok_iff, Checked.sub_eq_ok_iff, pure_eq_ok_iff] at run
    obtain ⟨list, ends, first, left, second, right, _, ⟨-, rfl⟩, rfl⟩ := run
    obtain ⟨left_lists, left_vacant, left_size, left_blocks⟩ := block?_updateAt left
    obtain ⟨right_lists, right_vacant, right_size, right_blocks⟩ := block?_updateAt right
    have same_lists : second.lists = arena.lists := by
      rw [right_lists, left_lists, put_lists]
    refine ⟨block, list, before, after, found, parts, links, ends, ?_, ?_, fun other => ?_,
      fun other => ?_⟩
    · simp [right_vacant, left_vacant]
    · simp [right_size, left_size]
    · rw [putList_lists (by rw [same_lists]; exact ends), same_lists]
    · have nodup := queued.nodup block.order
      rw [parts] at nodup
      obtain ⟨not_last, not_head, distinct⟩ := neighbours_apart nodup
      rw [putList_block?, right_blocks, left_blocks, block?_put (lt_size_of_block? found)]
      by_cases same : other = id
      · subst same
        rw [if_neg not_head, if_neg not_last, if_pos rfl, if_pos rfl]
      · by_cases last : some other = before.getLast?
        · rw [if_neg (distinct other last), if_pos last, if_neg same, if_neg same, if_pos last]
        · simp only [if_neg last, if_neg same]
  | loose | split | allocated =>
    rw [unlink, block_eq_ok_iff.mpr found] at run
    simp [bind, Except.bind, state, failing] at run

/-- A block that is taken off its list leaves the rest of the sequence. -/
theorem queued_unlink (queued : arena.Queued queue) (run : arena.unlink id = .ok changed) :
    ∃ block before after, arena.block? id = some block ∧
      queue block.order = before ++ id :: after ∧
      changed.Queued (Function.update queue block.order (before ++ after)) := by
  obtain ⟨block, list, before, after, found, parts, state, present, -, -, lists, blocks⟩ :=
    block?_unlink queued run
  have ends := queued.ends block.order list present
  have nodup := queued.nodup block.order
  rw [parts] at ends nodup
  refine ⟨block, before, after, found, parts, queued.replace (by grind) ?_ ?_ ?_ ?_ ?_ ?_⟩
  · intro front item back split
    obtain ⟨not_last, not_head, distinct⟩ := neighbours_apart nodup
    rcases append_cons_eq_append split with ⟨middle, rfl, rfl⟩ | ⟨middle, rfl, rfl⟩
    · rw [List.append_assoc, List.cons_append] at nodup
      obtain ⟨-, not_behind⟩ := not_mem_of_nodup nodup
      obtain ⟨held, under, placed, links⟩ :=
        queued.linked block.order front item (middle ++ id :: after) (by rw [parts]; simp)
      have apart : item ≠ id := fun same => not_behind (by simp [same])
      rw [blocks, if_neg apart, under]
      rcases List.eq_nil_or_concat' middle with rfl | ⟨rest, last, rfl⟩
      · rw [if_pos (by simp)]
        refine ⟨_, rfl, ?_, ?_⟩ <;> simp only [Block.withNext_of_listed links]
        · exact placed
        · simp
      · have not_neighbour : some item ≠ (front ++ item :: (rest ++ [last])).getLast? := by
          rw [← List.cons_append, ← List.append_assoc, List.getLast?_concat]
          exact fun same => not_behind (by simp [Option.some.inj same])
        have not_later : some item ≠ after.head? := fun head =>
          not_behind (by simp [List.mem_of_mem_head? head.symm])
        rw [if_neg not_neighbour, if_neg not_later]
        exact ⟨held, rfl, placed, by rw [links]; cases rest <;> rfl⟩
    · rw [← List.cons_append, ← List.append_assoc] at nodup
      obtain ⟨not_ahead, -⟩ := not_mem_of_nodup nodup
      obtain ⟨held, under, placed, links⟩ :=
        queued.linked block.order (before ++ id :: middle) item back (by rw [parts]; simp)
      have apart : item ≠ id := fun same => not_ahead (by simp [same])
      rw [blocks, if_neg apart, under]
      have not_neighbour : some item ≠ before.getLast? := fun last =>
        not_ahead (by simp [List.mem_of_getLast? last.symm])
      rw [if_neg not_neighbour]
      cases middle with
      | nil =>
        rw [if_pos (by simp)]
        refine ⟨_, rfl, ?_, ?_⟩ <;> simp only [Block.withPrevious_of_listed links]
        · exact placed
        · simp
      | cons first rest =>
        have not_later : some item ≠ (first :: rest ++ item :: back).head? := fun head =>
          not_ahead (by simp [Option.some.inj head])
        rw [if_neg not_later]
        exact ⟨held, rfl, placed, by rw [links]; simp [List.getLast?_append]⟩
  · intro item mem outside
    exact absurd (by rw [parts]; grind) outside
  · intro item old missing held under
    rw [parts] at old
    obtain rfl : item = id := by grind
    rw [blocks, if_pos rfl] at under
    obtain rfl := Option.some.inj under
    rfl
  · intro item missing outside
    rw [parts] at outside
    have apart : item ≠ id := by grind
    have earlier : some item ≠ before.getLast? := by
      exact fun last => missing (List.mem_append_left _ (List.mem_of_getLast? last.symm))
    have later : some item ≠ after.head? := by
      exact fun head => missing (List.mem_append_right _ (List.mem_of_mem_head? head.symm))
    rw [blocks, if_neg apart, if_neg earlier, if_neg later]
  · rw [lists, if_pos rfl, ends]
    rcases List.eq_nil_or_concat' before with rfl | ⟨_, _, rfl⟩ <;> cases after <;> simp
  · intro other differs
    rw [lists, if_neg differs]

end Unlinking

end Arena

end GpuSched.Buddy
