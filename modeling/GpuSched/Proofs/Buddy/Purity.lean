import GpuSched.Proofs.Buddy.Zoning

/-!
# Page sizes below a block

Callers that ask a GPU space only for pages of one size or the other never share the blocks below a
block of a page directory entry or less: what is handed out there was asked for as one page size,
and the free blocks that are set aside there are set aside for the same one (`one_class_below`).
-/
namespace GpuSched.Buddy

/-- A block is another one or, over its parents, lies below it. -/
inductive Below (blocks : BlockId → Option Block) (node : BlockId) : BlockId → Prop
  | itself : Below blocks node node
  | child {id : BlockId} {block : Block} {family : Family} (found : blocks id = some block)
      (related : block.family = some family) (below : Below blocks node family.parent) :
      Below blocks node id

section Below

variable {units maxOrder : Nat} {blocks : BlockId → Option Block} {node id : BlockId}
  {top block : Block}

/-- A block below another one is that block, which is split, or smaller and within it. -/
theorem Forest.of_below (forest : Forest units maxOrder blocks) (at_top : blocks node = some top)
    (below : Below blocks node id) (found : blocks id = some block) :
    id = node ∨ top.isLeaf = false ∧ block.order < top.order ∧ block.tile.Within top.tile := by
  induction below generalizing block with
  | itself => exact .inl rfl
  | @child id held family present related below ih =>
    obtain rfl := Option.some.inj (found.symm.trans present)
    obtain ⟨parent, above, no_leaf, next, inside⟩ := forest.exists_parent found related
    rcases ih above with same | ⟨split, smaller, within⟩
    · rw [same, at_top, Option.some.injEq] at above
      subst above
      exact .inr ⟨no_leaf, by omega, inside⟩
    · exact .inr ⟨split, by omega,
        Nat.le_trans within.1 inside.1, Nat.le_trans inside.2 within.2⟩

/-- Below a split block of a directory entry or less all blocks are for one page size. -/
theorem Tidy.exists_class_below {space : Space} (tidy : Tidy units maxOrder blocks)
    (zoned : Zoned space blocks) (at_top : blocks node = some top) (split : top.isLeaf = false)
    (tagged : space.tags top.order = true) :
    ∃ pageClass, pageClass ≠ .any ∧ ∀ {id block}, Below blocks node id → blocks id = some block →
      id ≠ node → block.pageClass = pageClass := by
  obtain ⟨left, right, leftHalf, rightHalf, order, -, at_left, -, halves⟩ :=
    tidy.forest.exists_halves at_top split
  have is_cell := tidy.isCell at_top
  obtain ⟨before_left, after_left⟩ := halves.within.1.meets
  have left_smaller : leftHalf.order < top.order := by
    rw [halves.above, halves.left_order]
    exact Nat.lt_succ_self order
  refine ⟨leftHalf.pageClass, ?_, fun {id block} below found apart => ?_⟩
  · exact (tidy.same_class zoned is_cell tagged at_left at_left ⟨after_left, before_left⟩
      ⟨after_left, before_left⟩ left_smaller left_smaller).2
  · obtain ⟨-, smaller, within⟩ := (tidy.forest.of_below at_top below found).resolve_left apart
    obtain ⟨before, after⟩ := within.meets
    exact (tidy.same_class zoned is_cell tagged found at_left ⟨after, before⟩
      ⟨after_left, before_left⟩ smaller left_smaller).1

end Below

namespace Allocator

open Operation

/-- A call that asks for pages of a size, if it asks for anything. -/
def Request.isSized : Request → Bool
  | .allocate _ pageClass | .allocateFixed _ _ pageClass => pageClass ≠ .any
  | .free _ => true

/-- What callers hold after a call, from its result, each with the page size that it was asked
for. -/
def Request.award (grants : List (Holding × PageClass)) :
    Request → Except Failure Nat → List (Holding × PageClass)
  | .allocate len pageClass, .ok address => (.ordinary address len, pageClass) :: grants
  | .allocateFixed _ len pageClass, .ok base => (.fixed base len, pageClass) :: grants
  | .allocate _ _, .error _ | .allocateFixed _ _ _, .error _ => grants
  | .free address, _ => grants.filter (·.1.start != address)

/-- Carry out some calls one after another, if all of them return, and note the page sizes of what
they grant. -/
def serve (allocator : Allocator) (grants : List (Holding × PageClass)) :
    List Request → Option (Allocator × List (Holding × PageClass))
  | [] => some (allocator, grants)
  | call :: calls =>
      match perform call allocator with
      | (.error (.aborted _), _) => none
      | (result, changed) => changed.serve (call.award grants result) calls

/-- At and below a block everything that is handed out was asked for as one page size, and the free
blocks that are set aside are set aside for it. -/
structure IsFor (allocator : Allocator) (grants : List (Holding × PageClass)) (node : BlockId)
    (pageClass : PageClass) : Prop where
  handed : ∀ {id block}, Below allocator.arena.outline node id →
    HandedOut allocator.arena.outline id block →
      (∃ grant ∈ grants, allocator.Owns grant.1.owner id) ∧
        ∀ grant ∈ grants, allocator.Owns grant.1.owner id → grant.2 = pageClass
  free : ∀ {id block}, Below allocator.arena.outline node id →
    allocator.arena.outline id = some block → block.isListed = true → block.pageClass ≠ .any →
      block.pageClass = pageClass

section Runs

variable {request : SpaceRequest} {start allocator changed : Allocator}
  {grants held : List (Holding × PageClass)} {calls : List Request} {node : BlockId} {top : Block}

/-- A call for a page size that returns leaves blocks that serve what is held. -/
theorem Allotted.perform (allotted : allocator.Allotted request grants) {call : Request}
    (sized : call.isSized = true) :
    (perform call).Yields allocator
      (fun answer after => after.Allotted request (call.award grants (.ok answer)))
      (fun failure after => (∃ reason, failure = .aborted reason) ∨
        after.Allotted request (call.award grants (.error failure))) := by
  cases call with
  | allocate len pageClass => exact allotted.allocate len (of_decide_eq_true sized)
  | allocateFixed base len pageClass =>
    exact allotted.allocateFixed base len (of_decide_eq_true sized)
  | free address =>
    unfold Allocator.perform
    rw [yields_bind]
    exact (allotted.free address).mono (fun _ _ => id) fun _ _ => False.elim

/-- Calls for page sizes that all return leave blocks that serve what is held. -/
theorem Allotted.serve (allotted : allocator.Allotted request grants)
    (sized : ∀ call ∈ calls, call.isSized = true)
    (run : allocator.serve grants calls = some (changed, held)) :
    changed.Allotted request held := by
  induction calls generalizing allocator grants with
  | nil =>
    obtain ⟨rfl, rfl⟩ := Prod.mk.inj (Option.some.inj run)
    exact allotted
  | cons call calls ih =>
    obtain ⟨call_sized, calls_sized⟩ := List.forall_mem_cons.mp sized
    have outcome := allotted.perform call_sized
    rw [Allocator.serve] at run
    split at run
    · cases run
    · rename_i result next returns ran
      cases result with
      | ok answer => exact ih (outcome.of_ok ran) calls_sized run
      | error failure =>
        rcases outcome.of_error ran with ⟨reason, rfl⟩ | allotted_next
        · exact absurd rfl (returns reason)
        · exact ih allotted_next calls_sized run

/-- A block that is handed out has a grant, and its page size is that of the grant. -/
theorem Allotted.of_handedOut (allotted : allocator.Allotted request grants) {id : BlockId}
    {block : Block} (handed : HandedOut allocator.arena.outline id block) :
    (∃ grant ∈ grants, allocator.Owns grant.1.owner id) ∧
      ∀ grant ∈ grants, allocator.Owns grant.1.owner id → block.pageClass ≠ .any →
        grant.2 = block.pageClass := by
  obtain ⟨owner, owns⟩ := allotted.ready.tended.owned handed
  obtain ⟨holding, mem, rfl⟩ := allotted.ready.tended.granted (hasRecord_of_owns owns)
  obtain ⟨grant, grant_mem, rfl⟩ := List.mem_map.mp mem
  refine ⟨⟨grant, grant_mem, owns⟩, fun other other_mem other_owns sized => ?_⟩
  exact (eq_of_accepts (allotted.suits other other_mem other_owns handed.1) sized
    (allotted.sized other other_mem)).symm

/-- Two grants of one block are for one page size. -/
theorem Allotted.same_grant (allotted : allocator.Allotted request grants) {id : BlockId}
    {one other : Holding × PageClass} (mem : one ∈ grants) (also_mem : other ∈ grants)
    (owns : allocator.Owns one.1.owner id) (also_owns : allocator.Owns other.1.owner id) :
    one = other := by
  have symm : Std.Symm fun a b : Holding × PageClass => a.1.owner ≠ b.1.owner :=
    ⟨fun _ _ => Ne.symm⟩
  by_contra apart
  exact (List.pairwise_map.mp allotted.ready.kept.distinct).forall mem also_mem apart
    (allotted.ready.kept.recorded.apart owns also_owns)

/-- At a block that is not split there is one page size at most. -/
theorem Allotted.one_class_of_leaf (allotted : allocator.Allotted request grants)
    (at_top : allocator.arena.outline node = some top) (leaf : top.isLeaf = true) :
    ∃ pageClass, pageClass ≠ .any ∧ allocator.IsFor grants node pageClass := by
  have alone {id : BlockId} {block : Block} (below : Below allocator.arena.outline node id)
      (found : allocator.arena.outline id = some block) : id = node := by
    refine (allotted.ready.tended.tidy.forest.of_below at_top below found).resolve_right ?_
    rintro ⟨split, -⟩
    rw [leaf] at split
    cases split
  cases handed : top.isAllocated with
  | true =>
    have allocated := of_decide_eq_true handed
    obtain ⟨⟨grant, mem, owns⟩, -⟩ := allotted.of_handedOut ⟨at_top, allocated⟩
    refine ⟨grant.2, allotted.sized grant mem, fun {id block} below held => ?_,
      fun {id block} below found listed => ?_⟩
    · obtain rfl := alone below held.1
      refine ⟨⟨grant, mem, owns⟩, fun other other_mem other_owns => ?_⟩
      rw [allotted.same_grant other_mem mem other_owns owns]
    · obtain rfl := alone below found
      obtain rfl := Option.some.inj (at_top.symm.trans found)
      exact absurd allocated (Block.not_allocated_of_isListed listed)
  | false =>
    obtain ⟨pageClass, is_sized, same⟩ : ∃ pageClass : PageClass, pageClass ≠ .any ∧
        (top.pageClass ≠ .any → top.pageClass = pageClass) := by
      by_cases is_sized : top.pageClass = .any
      · exact ⟨.small, PageClass.noConfusion, fun sized => absurd is_sized sized⟩
      · exact ⟨top.pageClass, is_sized, fun _ => rfl⟩
    refine ⟨pageClass, is_sized, fun {id block} below held => ?_,
      fun {id block} below found _ => ?_⟩
    · obtain rfl := alone below held.1
      obtain rfl := Option.some.inj (at_top.symm.trans held.1)
      rw [Block.isAllocated, held.2] at handed
      cases handed
    · obtain rfl := alone below found
      obtain rfl := Option.some.inj (at_top.symm.trans found)
      exact same

/-- In a GPU space that is only asked for pages of one size or the other, at and below a block of a
directory entry or less everything that is handed out was asked for as one page size, and the free
blocks that are set aside are set aside for it. -/
theorem one_class_below (created : create request = .ok start)
    (sized : ∀ call ∈ calls, call.isSized = true)
    (run : start.serve [] calls = some (allocator, grants)) {directory : Nat}
    (known : start.space.directoryOrder = some directory)
    (at_top : allocator.arena.outline node = some top) (small : top.order ≤ directory) :
    ∃ pageClass, pageClass ≠ .any ∧ allocator.IsFor grants node pageClass := by
  have knows : start.space.directoryOrder.isSome = true := by rw [known]; rfl
  have allotted := (allotted_create created knows).serve sized run
  have tidy := allotted.ready.tended.tidy
  have tagged : allocator.space.tags top.order = true := by
    have space : start.space = allocator.space :=
      Except.ok.inj ((ready_create created).kept.space.symm.trans allotted.ready.kept.space)
    unfold Space.tags
    rw [← space, known]
    exact decide_eq_true small
  cases leaf : top.isLeaf with
  | true => exact allotted.one_class_of_leaf at_top leaf
  | false =>
    obtain ⟨pageClass, is_sized, alike⟩ :=
      tidy.exists_class_below allotted.zoned at_top leaf tagged
    have inner {id : BlockId} {block : Block} (below : Below allocator.arena.outline node id)
        (found : allocator.arena.outline id = some block) (held_leaf : block.isLeaf = true) :
        block.pageClass = pageClass := by
      refine alike below found ?_
      rintro rfl
      rw [at_top, Option.some.injEq] at found
      rw [found, held_leaf] at leaf
      cases leaf
    refine ⟨pageClass, is_sized, fun below handed => ?_, fun below found listed _ =>
      inner below found (Block.isLeaf_of_isListed listed)⟩
    have same := inner below handed.1 (Block.isLeaf_of_allocated handed.2)
    obtain ⟨owned, wanted⟩ := allotted.of_handedOut handed
    exact ⟨owned, fun grant mem owns => (wanted grant mem owns (same ▸ is_sized)).trans same⟩

/-- One directory entry has blocks for big pages, handed out, given back and free, while small pages
are handed out in another one. -/
theorem one_class_below_of_calls : ∃ (start allocator : Allocator) (pageClass : PageClass),
    pageClass ≠ .any ∧
      allocator.IsFor [(.fixed 0x3000 0x1000, .big), (.ordinary 0x8000 0x1000, .small),
        (.fixed 0 0x1000, .big)] 3 pageClass ∧
      create
        { name := "gpu", base := 0, length := 0x10000, blockSize := 0x1000,
          directoryLength := some 0x4000 } = .ok start ∧
      start.serve [] [.allocateFixed 0 0x1000 .big, .allocate 0x1000 .small,
          .allocateFixed 0x2000 0x1000 .big, .allocateFixed 0x3000 0x1000 .big, .free 0x2000] =
        some (allocator, [(.fixed 0x3000 0x1000, .big), (.ordinary 0x8000 0x1000, .small),
          (.fixed 0 0x1000, .big)]) ∧
      allocator.arena.outline 3 = some
        { position := 0, order := 2, pageClass := .big, state := .split 5 6,
          family := some ⟨1, 4⟩ } := by
  have outcome : ((create
      { name := "gpu", base := 0, length := 0x10000, blockSize := 0x1000,
        directoryLength := some 0x4000 }).toOption.bind fun start =>
        (start.serve [] [.allocateFixed 0 0x1000 .big, .allocate 0x1000 .small,
          .allocateFixed 0x2000 0x1000 .big, .allocateFixed 0x3000 0x1000 .big,
          .free 0x2000]).bind fun (allocator, grants) =>
        (allocator.arena.outline 3).map fun top => (start.space.directoryOrder, grants, top)) =
      some (some 2, [(.fixed 0x3000 0x1000, .big), (.ordinary 0x8000 0x1000, .small),
          (.fixed 0 0x1000, .big)],
        { position := 0, order := 2, pageClass := .big, state := .split 5 6,
          family := some ⟨1, 4⟩ }) := by decide +kernel
  obtain ⟨start, created, ran⟩ := Option.bind_eq_some_iff.mp outcome
  obtain ⟨⟨allocator, grants⟩, run, ran⟩ := Option.bind_eq_some_iff.mp ran
  obtain ⟨top, at_top, all⟩ := Option.map_eq_some_iff.mp ran
  obtain ⟨known, rfl, rfl⟩ := by simpa only [Prod.mk.injEq] using all
  have started := eq_ok_of_toOption created
  obtain ⟨pageClass, is_sized, is_for⟩ :=
    one_class_below started (by decide) run known at_top (Nat.le_refl 2)
  exact ⟨start, allocator, pageClass, is_sized, is_for, started, run, at_top⟩

end Runs

end Allocator

end GpuSched.Buddy
