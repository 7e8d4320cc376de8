import GpuSched.Proofs.Buddy.Links
import GpuSched.Proofs.Buddy.Upkeep
import GpuSched.Proofs.Buddy.Zones

/-!
# Free lists with the blocks for big pages last

Every step of an allocator of GPU virtual addresses leaves the blocks for big pages at the end of
each free list, whether a block comes onto a list from a split, a swap of halves, a release or a
join, and whatever place it leaves. So a request for big pages finds the blocks that are for them
before those without a class, and a request for small pages finds what serves it at the head.
-/
namespace GpuSched.Buddy

open Operation

namespace Allocator

variable {α β : Type} {allocator : Allocator}

/-- In a space of GPU virtual addresses the free lists have the blocks for big pages last. -/
def Parted (allocator : Allocator) : Prop :=
  allocator.space.directoryOrder.isSome = true → allocator.arena.Parted

/-- Nothing that the free lists depend on changes. -/
def SameBlocks (before after : Allocator) : Prop :=
  after.space = before.space ∧ after.arena = before.arena

instance : IsPreorder Allocator SameBlocks where
  refl _ := ⟨rfl, rfl⟩
  trans _ _ _ one two := ⟨two.1.trans one.1, two.2.trans one.2⟩

/-- However an operation on a tiled allocator ends, its free lists are parted as before, and if it
answers the allocator is tiled again. -/
def KeepsParted (operation : Operation Allocator α) : Prop :=
  ∀ allocator : Allocator, allocator.Tiled → allocator.Parted →
    operation.Yields allocator (fun _ after => after.Tiled ∧ after.Parted) fun _ after =>
      after.Parted

/-- One operation after another. -/
theorem KeepsParted.bind {operation : Operation Allocator α} {next : α → Operation Allocator β}
    (first : KeepsParted operation) (second : ∀ value, KeepsParted (next value)) :
    KeepsParted (operation >>= next) := by
  intro allocator tiled parted
  rw [yields_bind]
  exact (first allocator tiled parted).imp fun value middle both =>
    second value middle both.1 both.2

/-- An operation that keeps every allocator parted, and a tiled one tiled when it answers. -/
theorem keepsParted_of_respects {operation : Operation Allocator α}
    {good : Allocator → α → Allocator → Prop} {bad : Allocator → Failure → Allocator → Prop}
    (respects : Respects (Operation.Kept Parted) operation)
    (tiles : ∀ {allocator : Allocator}, allocator.Tiled →
      operation.Yields allocator (fun value after => after.Tiled ∧ good allocator value after)
        (bad allocator)) :
    KeepsParted operation := by
  intro allocator tiled parted
  exact ((tiles tiled).and (respects_iff_yields.mp respects allocator)).mono
    (fun _ _ both => ⟨both.1.1, both.2 parted⟩) fun _ _ both => both.2 parted

/-- An operation that leaves the blocks alone. -/
theorem keepsParted_of_same {operation : Operation Allocator α}
    (respects : Respects SameBlocks operation) : KeepsParted operation := by
  intro allocator tiled parted
  refine (respects_iff_yields.mp respects allocator).mono ?_ ?_
  · rintro _ ⟨⟩ ⟨rfl, rfl⟩
    exact ⟨⟨tiled.sound, tiled.forest⟩, parted⟩
  · rintro _ ⟨⟩ ⟨rfl, rfl⟩
    exact parted

/-- A loop over a list. -/
theorem keepsParted_forM {act : α → Operation Allocator PUnit}
    (each : ∀ item, KeepsParted (act item)) (list : List α) : KeepsParted (list.forM act) := by
  induction list with
  | nil => exact keepsParted_of_same (respects_pure _)
  | cons item rest ih => exact (each item).bind fun _ => ih

/-- A step of the arena that keeps it parted. -/
theorem keepsParted_changeArena {step : Arena → Except Failure Arena}
    (each : ∀ arena changed : Arena, arena.Parted → step arena = .ok changed → changed.Parted) :
    Respects (Operation.Kept Parted) (changeArena step) :=
  respects_iff_yields.mpr fun _ => yields_changeArena
    (fun changed run parted known => each _ changed (parted known) run) fun _ _ => id

/-- Every step on blocks but a split keeps every allocator parted. -/
theorem upholds_parted : Upholds (Operation.Kept Parted) where
  unlink _ := keepsParted_changeArena fun _ _ => Arena.Parted.unlink
  remove _ := respects_iff_yields.mpr fun _ => yields_withArena
    (fun _ changed run parted known => (parted known).remove run) fun _ _ => id
  relabel id state free := by
    refine keepsParted_changeArena fun _ _ parted run =>
      parted.relabel run (fun _ => rfl) fun block other backward link => ?_
    unfold Block.neighbour at link
    dsimp only at link
    split at link
    · exact absurd rfl (free _ _)
    all_goals cases link
  changeCount _ _ := respects_iff_yields.mpr fun _ => yields_changeCount (fun _ => id) fun _ => id
  list id := by
    refine respects_iff_yields.mpr fun allocator => ?_
    have stays : Operation.Kept Parted allocator allocator := fun parted => parted
    unfold Allocator.list
    simp only [yields_bind, yields_get]
    refine yields_block (fun block found => ?_) fun _ _ => stays
    have at_id := Arena.classAt_of_block? found
    split
    · rename_i tail
      have big : block.pageClass = .big := of_decide_eq_true (Bool.and_eq_true_iff.mp tail).2
      rw [big] at at_id
      exact yields_changeArena (fun _ run parted known => (parted known).pushBack at_id run)
        fun _ _ => stays
    · rename_i head
      refine yields_changeArena (fun _ run parted known => (parted known).pushFront ?_ run)
        fun _ _ => stays
      intro big
      have is_big : block.pageClass = .big := Option.some.inj (at_id.symm.trans big)
      apply head
      unfold Space.fromTail
      rw [is_big]
      exact Bool.and_eq_true_iff.mpr ⟨known, rfl⟩

/-- Looking up a block. -/
theorem keepsParted_block (id : BlockId) : KeepsParted (block id) :=
  keepsParted_of_same (respects_block id)

/-- Listing a block. -/
theorem keepsParted_list (id : BlockId) : KeepsParted (list id) :=
  keepsParted_of_respects (upholds_parted.list id) yields_list

/-- Taking a block off its list. -/
theorem keepsParted_unlink (id : BlockId) : KeepsParted (changeArena (·.unlink id)) :=
  keepsParted_of_respects (upholds_parted.unlink id) yields_unlink

/-- Handing a block out. -/
theorem keepsParted_markAllocated (id : BlockId) : KeepsParted (markAllocated id) :=
  keepsParted_of_respects (upholds_parted.markAllocated id) yields_markAllocated

/-- Taking a block back. -/
theorem keepsParted_release (id : BlockId) : KeepsParted (release id) :=
  keepsParted_of_respects (upholds_parted.release id) yields_release

/-- The halves of a block are new, and the right one joins its list at the end for its class. -/
theorem keepsParted_split (id : BlockId) (pageClass : PageClass) :
    KeepsParted (split id pageClass) := by
  intro allocator tiled parted
  suffices own : (split id pageClass).Yields allocator (fun _ after => after.Parted)
      fun _ after => after.Parted from
    ((yields_split tiled).and own).mono (fun _ _ both => ⟨both.1.1, both.2⟩) fun _ _ both => both.2
  unfold split
  rw [yields_bind]
  refine yields_block (fun block found => ?_) fun _ _ => parted
  dsimp only
  split
  · exact parted
  split
  · exact parted
  simp only [yields_bind, yields_get]
  refine yields_withArena (fun left first insert_left => ?_) fun _ _ => parted
  obtain ⟨-, sound, -⟩ := Arena.sound_insert tiled.sound rfl insert_left
  have with_left : ({ allocator with arena := first } : Allocator).Parted := fun known =>
    (parted known).insert tiled.sound rfl insert_left
  refine yields_withArena (fun right second insert_right => ?_) fun _ _ => with_left
  have with_right : ({ allocator with arena := second } : Allocator).Parted := fun known =>
    (with_left known).insert sound rfl insert_right
  refine yields_changeArena (fun third relate => ?_) fun _ _ => with_right
  have related : ({ allocator with arena := third } : Allocator).Parted := fun known =>
    (with_right known).relabel relate (fun _ => rfl) fun _ _ _ link => link
  refine yields_changeArena (fun fourth divide => ?_) fun _ _ => related
  have divided : ({ allocator with arena := fourth } : Allocator).Parted := fun known =>
    (related known).relabel divide (fun _ => rfl) fun _ _ _ link => by cases link
  refine yields_changeCount (fun counts => ?_) fun _ => divided
  exact (respects_iff_yields.mp (upholds_parted.list right) _).mono
    (fun _ _ kept => kept divided) fun _ _ kept => kept divided

/-- Splitting to the left. -/
theorem keepsParted_splitLeft (pageClass : PageClass) (levels : Nat) (id : BlockId) :
    KeepsParted (splitLeft pageClass levels id) := by
  induction levels generalizing id with
  | zero => exact keepsParted_of_same (respects_pure _)
  | succ levels ih => exact (keepsParted_split id pageClass).bind fun halves => ih halves.1

/-- Splitting toward a position. -/
theorem keepsParted_splitToward (position : Nat) (pageClass : PageClass) (levels : Nat)
    (id : BlockId) : KeepsParted (splitToward position pageClass levels id) := by
  induction levels generalizing id with
  | zero => exact keepsParted_of_same (respects_pure _)
  | succ levels ih =>
    refine (keepsParted_split id pageClass).bind fun halves => ?_
    refine (keepsParted_block halves.2).bind fun block => ?_
    split
    · exact ih halves.1
    · refine (keepsParted_unlink halves.2).bind fun _ => ?_
      exact (keepsParted_list halves.1).bind fun _ => ih halves.2

/-- Claiming the block of a tile. -/
theorem keepsParted_claim (tile : Tile) (pageClass : PageClass) :
    KeepsParted (claim tile pageClass) := by
  refine (keepsParted_of_same respects_get).bind fun allocator => ?_
  refine (keepsParted_of_same (respects_lift _)).bind fun found => ?_
  cases found with
  | none => exact keepsParted_of_same (respects_pure _)
  | some entry =>
    refine (keepsParted_unlink entry.1).bind fun _ => ?_
    exact (keepsParted_splitToward _ _ _ _).bind fun _ => keepsParted_of_same (respects_pure _)

/-- Claiming the blocks of some tiles, or giving back those that were claimed. -/
theorem keepsParted_claimAll (pageClass : PageClass) (tiles : List Tile)
    (claimed : List BlockId) : KeepsParted (claimAll pageClass tiles claimed) := by
  induction tiles generalizing claimed with
  | nil => exact keepsParted_of_same (respects_pure _)
  | cons tile tiles ih =>
    refine (keepsParted_claim tile pageClass).bind fun found => ?_
    cases found with
    | none =>
      refine (keepsParted_forM keepsParted_release _).bind fun _ => ?_
      exact keepsParted_of_same (respects_refuse _)
    | some id => exact (keepsParted_markAllocated id).bind fun _ => ih (id :: claimed)

/-- Totals play no part. -/
theorem keepsParted_account (asked given : Nat) : KeepsParted (account asked given) := by
  apply keepsParted_of_same
  refine respects_get.bind fun _ => (respects_lift _).bind fun _ => ?_
  refine (respects_modify fun _ => ⟨rfl, rfl⟩).bind fun _ => ?_
  refine respects_get.bind fun _ => (respects_lift _).bind fun _ => ?_
  exact respects_modify fun _ => ⟨rfl, rfl⟩

/-- The total of what came back plays no part. -/
theorem keepsParted_accountFreed (bytes : Nat) : KeepsParted (accountFreed bytes) := by
  apply keepsParted_of_same
  refine respects_get.bind fun _ => (respects_lift _).bind fun _ => ?_
  exact respects_modify fun _ => ⟨rfl, rfl⟩

/-- An ordinary request. -/
theorem keepsParted_allocate (len : Nat) (wanted : PageClass) :
    KeepsParted (allocate len wanted) := by
  refine (keepsParted_of_same respects_get).bind fun allocator => ?_
  dsimp only
  split
  · exact keepsParted_of_same (respects_refuse_bind _ _)
  split
  · exact keepsParted_of_same (respects_refuse_bind _ _)
  refine (keepsParted_of_same respects_get).bind fun allocator => ?_
  refine (keepsParted_of_same (respects_lift _)).bind fun found => ?_
  cases found with
  | none => exact keepsParted_of_same (respects_refuse _)
  | some entry =>
    refine (keepsParted_unlink entry.1).bind fun _ => ?_
    refine (keepsParted_splitLeft _ _ _).bind fun part => ?_
    refine (keepsParted_markAllocated part).bind fun _ => (keepsParted_block part).bind fun _ => ?_
    refine KeepsParted.bind (keepsParted_of_same (respects_modify ?_)) fun _ => ?_
    · exact fun _ => ⟨rfl, rfl⟩
    · exact (keepsParted_account _ _).bind fun _ => keepsParted_of_same (respects_pure _)

/-- A fixed request. -/
theorem keepsParted_allocateFixed (base len : Nat) (wanted : PageClass) :
    KeepsParted (allocateFixed base len wanted) := by
  refine (keepsParted_of_same respects_get).bind fun allocator => ?_
  dsimp only
  split
  · exact keepsParted_of_same (respects_refuse_bind _ _)
  refine (keepsParted_of_same respects_get).bind fun allocator => ?_
  refine (keepsParted_of_same (respects_lift _)).bind fun busy => ?_
  split
  · exact keepsParted_of_same (respects_refuse_bind _ _)
  refine (keepsParted_claimAll _ _ _).bind fun tiles => ?_
  refine KeepsParted.bind (keepsParted_of_same (respects_modify ?_)) fun _ => ?_
  · exact fun _ => ⟨rfl, rfl⟩
  · exact (keepsParted_account _ _).bind fun _ => keepsParted_of_same (respects_pure _)

/-- A release. -/
theorem keepsParted_free (address : Nat) : KeepsParted (free address) := by
  intro allocator tiled parted
  unfold free
  simp only [yields_bind, yields_get]
  split
  · rename_i id _
    have rest : KeepsParted (do
        let block ← block id
        accountFreed (allocator.space.blockLength block.order)
        release id) :=
      (keepsParted_block id).bind fun block =>
        (keepsParted_accountFreed _).bind fun _ => keepsParted_release id
    rw [yields_bind, yields_set]
    exact rest _ ⟨tiled.sound, tiled.forest⟩ parted
  · split
    · rename_i range _
      have rest : KeepsParted (do
          accountFreed range.len
          range.tiles.forM release) :=
        (keepsParted_accountFreed _).bind fun _ => keepsParted_forM keepsParted_release _
      rw [yields_bind, yields_set]
      exact rest _ ⟨tiled.sound, tiled.forest⟩ parted
    · exact ⟨tiled, parted⟩

/-- Whatever is called, the free lists are parted as before. -/
theorem keepsParted_perform (call : Request) : KeepsParted (perform call) := by
  cases call with
  | allocate len pageClass => exact keepsParted_allocate len pageClass
  | allocateFixed base len pageClass => exact keepsParted_allocateFixed base len pageClass
  | free address =>
    exact (keepsParted_free address).bind fun _ => keepsParted_of_same (respects_pure _)

section Runs

variable {request : SpaceRequest} {changed : Allocator} {ledger held : List Holding}
  {calls : List Request}

/-- The blocks that a space starts with are set aside for no page size. -/
theorem any_of_populate {arena after : Arena} {tiles : List Tile} (sound : arena.Sound)
    (plain : ∀ id block, arena.outline id = some block → block.pageClass = .any)
    (run : populate arena tiles = .ok after) :
    ∀ id block, after.outline id = some block → block.pageClass = .any := by
  induction tiles generalizing arena with
  | nil => exact pure_eq_ok_iff.mp run ▸ plain
  | cons tile tiles ih =>
    simp only [populate, List.foldlM_cons, bind_eq_ok_iff] at run
    obtain ⟨listed, ⟨⟨id, filled⟩, inserted, pushed⟩, run⟩ := run
    obtain ⟨-, sound_filled, shown⟩ := Arena.sound_insert sound rfl inserted
    obtain ⟨block, found, loose, sound_listed, also_shown⟩ :=
      Arena.sound_pushBack sound_filled pushed
    have new : block.pageClass = .any := by
      have drawn := Arena.outline_of_block? found
      rw [shown, Function.update_self, Option.some.injEq] at drawn
      rw [← Block.outline_pageClass, ← drawn]
    refine ih sound_listed (fun other held present => ?_) run
    rw [also_shown, shown, Function.update_idem] at present
    rcases update_eq_some_iff.mp present with ⟨-, changed⟩ | ⟨-, present⟩
    · obtain rfl := Option.some.inj changed
      exact new
    · exact plain other held present

/-- The free lists of a new allocator are parted. -/
theorem parted_create (created : create request = .ok allocator) : allocator.Parted := by
  simp only [create, ofSpace, bind_eq_ok_iff, pure_eq_ok_iff] at created
  obtain ⟨space, -, arena, populated, rfl⟩ := created
  have plain := any_of_populate (sound_create space.maxOrder)
    (fun _ _ found => by cases found) populated
  have small : ∀ id, arena.classAt id ≠ some .big := by
    intro id big
    obtain ⟨block, found, is_big⟩ := Option.map_eq_some_iff.mp big
    have is_any := plain id _ (Arena.outline_of_block? found)
    rw [Block.outline_pageClass, is_big] at is_any
    cases is_any
  exact fun _ id block _ other =>
    ⟨fun _ => Arena.leads_of_ne_big (small _), fun _ => Arena.leads_of_ne_big (small _)⟩

/-- Calls that all return leave the free lists parted. -/
theorem Parted.carryOut (parted : allocator.Parted) (ready : allocator.Ready request ledger)
    (run : allocator.carryOut ledger calls = some (changed, held)) : changed.Parted := by
  induction calls generalizing allocator ledger with
  | nil =>
    obtain ⟨rfl, rfl⟩ := Prod.mk.inj (Option.some.inj run)
    exact parted
  | cons call calls ih =>
    have parts := keepsParted_perform call allocator ready.kept.tiled parted
    rw [Allocator.carryOut] at run
    split at run
    · cases run
    · rename_i result next returns ran
      have one : allocator.carryOut ledger [call] = some (next, call.settle ledger result) := by
        rw [Allocator.carryOut, ran]
        cases result with
        | ok answer => rfl
        | error failure =>
          cases failure with
          | refused error => rfl
          | aborted reason => exact absurd rfl (returns reason)
      have still : next.Parted := by
        cases result with
        | ok answer => exact (parts.of_ok ran).2
        | error failure => exact parts.of_error ran
      exact ih still (ready.carryOut one) run

end Runs

section Requests

variable {request : SpaceRequest} {changed : Allocator} {held : List Holding}
  {calls : List Request} {order : Nat} {wanted : PageClass} {entry : BlockId × Block}

/-- The free block that a request for a page size takes, and the free list that it is on. -/
structure Takes (allocator : Allocator) (order : Nat) (wanted : PageClass)
    (blocks : List (BlockId × Block)) (entry : BlockId × Block) : Prop where
  /-- The list of its order is read from the head. -/
  listed : allocator.arena.listed entry.2.order = .ok blocks
  mem : entry ∈ blocks
  large : order ≤ entry.2.order
  serves : entry.2.pageClass.accepts wanted = true
  /-- No lower order that is large enough has a block that serves the request. -/
  lowest : ∀ lower, order ≤ lower → lower < entry.2.order →
    ∃ others, allocator.arena.listed lower = .ok others ∧
      ∀ other ∈ others, other.2.pageClass.accepts wanted = false
  /-- A request for big pages takes a block without a class only where none is for big pages. -/
  big : wanted = .big → entry.2.pageClass = .big ∨
    entry.2.pageClass = .any ∧ ∀ other ∈ blocks, other.2.pageClass ≠ .big
  /-- A request for small pages takes the head unless all blocks are for big pages. -/
  small : wanted = .small → (∃ other ∈ blocks, other.2.pageClass ≠ .big) →
    blocks.head? = some entry

/-- A search finds the first block that it accepts on the lowest free list that has one. -/
theorem search_lowest {arena : Arena} {backward : Bool} {accept : Nat → Block → Bool}
    {orders : List Nat} (ascending : orders.Pairwise (· < ·))
    (run : search arena backward accept orders = .ok (some entry)) :
    ∃ order ∈ orders,
      (∃ blocks, arena.listed order backward = .ok blocks ∧
        blocks.find? (fun listed => accept order listed.2) = some entry) ∧
      ∀ lower ∈ orders, lower < order → ∃ others, arena.listed lower backward = .ok others ∧
        ∀ other ∈ others, accept lower other.2 = false := by
  induction orders with
  | nil => cases run
  | cons order orders ih =>
    obtain ⟨least, rest⟩ := List.pairwise_cons.mp ascending
    obtain ⟨blocks, walked, -⟩ := bind_eq_ok_iff.mp run
    rw [search_cons walked] at run
    split at run
    · rename_i found first
      obtain rfl := Option.some.inj (Except.ok.inj run)
      refine ⟨order, List.mem_cons_self, ⟨blocks, walked, first⟩, fun lower mem below => ?_⟩
      rcases List.mem_cons.mp mem with rfl | mem
      · exact absurd below (Nat.lt_irrefl _)
      · exact absurd below (Nat.lt_asymm (least lower mem))
    · rename_i nothing
      obtain ⟨place, mem_place, found, lowest⟩ := ih rest run
      refine ⟨place, List.mem_cons_of_mem _ mem_place, found, fun lower mem below => ?_⟩
      rcases List.mem_cons.mp mem with rfl | mem
      · refine ⟨blocks, walked, fun other there => ?_⟩
        simpa using List.find?_eq_none.mp nothing other there
      · exact lowest lower mem below

/-- Both ways through a free list find the same blocks. -/
theorem exists_listed_of_backward {arena : Arena} (sound : arena.Sound)
    (room : order < arena.lists.size) {backward : Bool} {blocks : List (BlockId × Block)}
    (run : arena.listed order backward = .ok blocks) :
    ∃ forward, arena.listed order = .ok forward ∧ ∀ entry, entry ∈ forward ↔ entry ∈ blocks := by
  obtain ⟨forward, ran, mem_forward⟩ := Arena.exists_listed sound room false
  obtain ⟨same, ran_same, mem_same⟩ := Arena.exists_listed sound room backward
  obtain rfl := Except.ok.inj (ran_same.symm.trans run)
  exact ⟨forward, ran, fun entry => (mem_forward entry.1 entry.2).trans (mem_same ..).symm⟩

/-- In a parted space of GPU virtual addresses a free block is found as the page size asks. -/
theorem takes_of_findFree {hand : List BlockId} (settled : allocator.Settled hand)
    (parted : allocator.Parted) (known : allocator.space.directoryOrder.isSome = true)
    (run : allocator.findFree order wanted = .ok (some entry)) :
    ∃ blocks, allocator.Takes order wanted blocks entry := by
  obtain ⟨place, mem_place, ⟨found, walked, first⟩, lowest⟩ :=
    search_lowest List.pairwise_lt_range' run
  have room := settled.lists_of_ordersFrom mem_place
  obtain ⟨blocks, listed, mem_iff⟩ := exists_listed_of_backward settled.sound room walked
  have mem_found := List.mem_of_find?_eq_some first
  obtain ⟨-, same, -⟩ := Arena.of_mem_listed settled.sound walked mem_found
  subst same
  have bigLast := (parted known).bigLast settled.sound listed
  have serves : entry.2.pageClass.accepts wanted = true := (List.find?_some first :)
  refine ⟨blocks, listed, (mem_iff entry).mpr mem_found, le_of_mem_ordersFrom mem_place, serves,
    fun lower large below => ?_, ?_, ?_⟩
  · have mem_lower : lower ∈ ordersFrom allocator.space order := by
      have capped := (mem_ordersFrom_iff.mp mem_place).2
      exact mem_ordersFrom_iff.mpr ⟨large, by omega⟩
    obtain ⟨others, ran, refuses⟩ := lowest lower mem_lower below
    obtain ⟨forward, walked_lower, mem_lower_iff⟩ := exists_listed_of_backward settled.sound
      (settled.lists_of_ordersFrom mem_lower) ran
    exact ⟨forward, walked_lower, fun other mem => refuses other ((mem_lower_iff other).mp mem)⟩
  · rintro rfl
    by_cases is_big : entry.2.pageClass = .big
    · exact .inl is_big
    · have from_tail : allocator.space.fromTail .big = true := by
        unfold Space.fromTail
        rw [known]
        rfl
      rw [from_tail] at walked
      rw [Arena.listed_backward settled.sound listed walked] at first
      refine .inr ⟨?_, bigLast.all_small (fun other big => ?_) first is_big⟩
      · by_contra sized
        exact is_big (eq_of_accepts serves sized PageClass.noConfusion)
      · rw [big]
        rfl
  · rintro rfl some_small
    have from_head : allocator.space.fromTail .small = false := Bool.and_false _
    rw [from_head] at walked
    obtain rfl := Except.ok.inj (walked.symm.trans listed)
    refine bigLast.head?_eq (fun other not_big => ?_) first some_small
    cases other_class : other.2.pageClass with
    | any | small => rfl
    | big => exact absurd other_class not_big

/-- An ordinary request that is granted is answered the start of the block that it finds. -/
theorem yields_allocate_taken (tiled : allocator.Tiled) (len : Nat) (wanted : PageClass) :
    (allocate len wanted).Yields allocator
      (fun address _ => ∃ entry, allocator.findFree (allocator.space.orderOf len)
          (allocator.space.classFor wanted) = .ok (some entry) ∧
        address = allocator.space.address entry.2.position)
      fun _ _ => True := by
  unfold allocate
  simp only [yields_bind, yields_get]
  split
  · trivial
  split
  · trivial
  simp only [yields_bind, yields_get]
  refine yields_lift_of (fun result run => ?_) fun _ _ => trivial
  cases result with
  | none => trivial
  | some entry =>
    obtain ⟨id, block⟩ := entry
    obtain ⟨-, under, -⟩ := findFree_eq_ok tiled run
    simp only [yields_bind]
    refine (yields_unlink tiled).mono ?_ fun _ _ _ => trivial
    rintro _ first ⟨tiled_first, -, same, found, -, shown⟩
    obtain rfl := Option.some.inj (under.symm.trans found)
    have at_block : first.arena.outline id = some { block with state := .loose } := by
      rw [shown, Function.update_self]
    refine (yields_splitLeft tiled_first at_block rfl).mono ?_ fun _ _ _ => trivial
    rintro part second ⟨tiled_second, -, held, at_part, -, position, -⟩
    refine (yields_markAllocated tiled_second).mono ?_ fun _ _ _ => trivial
    rintro _ third ⟨-, -, marked, at_marked, -, also_shown⟩
    obtain rfl := Option.some.inj (at_part.symm.trans at_marked)
    refine yields_block (fun answered present => ?_) fun _ _ => trivial
    have drawn := Arena.outline_of_block? present
    rw [also_shown, Function.update_self, Option.some.injEq] at drawn
    have place : answered.position = block.position := by
      rw [← Block.outline_position answered, ← drawn]
      exact position
    simp only [yields_modify]
    refine yields_of_forall (fun _ _ => ?_) fun _ _ => trivial
    exact ⟨_, run, congrArg allocator.space.address place⟩

/-- An ordinary request that a free block serves is granted, unless the call is stopped. -/
theorem stopped_of_serves {hand : List Holding} (tended : allocator.Tended hand) {len : Nat}
    (nonempty : 0 < len)
    (serves : allocator.Serves (allocator.space.orderOf len) (allocator.space.classFor wanted))
    {failure : Failure} {after : Allocator}
    (failed : allocate len wanted allocator = (.error failure, after)) :
    allocator.Crowded failure ∨ failure = .aborted .overflow ∧
      allocator.Overflows len (allocator.space.blockLength (allocator.space.orderOf len)) := by
  rcases (settles_allocate tended.settled tended.merged len wanted).of_error failed with
    ⟨error, -, -, reason⟩ | ⟨-, -, -, stopped⟩
  · cases reason with
    | empty empty => omega
    | tooLarge _ large =>
      obtain ⟨id, block, found, -, larger, -⟩ := serves
      have capped := (tended.settled.forest.fits found).capped
      omega
    | exhausted _ _ nothing => exact absurd serves nothing
  · exact stopped

/-- In every state that calls reach in a space of GPU virtual addresses, each free list can be read
and has the blocks for big pages last. So of the lowest order that serves it a granted request for
big pages takes a block that is for them if there is one, and a granted request for small pages
takes the head of the list if not all of its blocks are for big pages. A request that a free block
serves is granted, unless the handles are used up or a total gets too large. -/
theorem big_last_of_run {start : Allocator} (created : create request = .ok start)
    (known : start.space.directoryOrder.isSome = true)
    (run : start.carryOut [] calls = some (changed, held)) :
    (∀ order ≤ changed.space.maxOrder, ∃ blocks,
      changed.arena.listed order = .ok blocks ∧ Arena.BigLast blocks) ∧
    (∀ len wanted address after, allocate len wanted changed = (.ok address, after) →
      ∃ blocks entry, changed.Takes (changed.space.orderOf len) wanted blocks entry ∧
        address = changed.space.address entry.2.position) ∧
    ∀ len wanted, 0 < len → changed.Serves (changed.space.orderOf len) wanted →
      ∀ failure after, allocate len wanted changed = (.error failure, after) →
        changed.Crowded failure ∨ failure = .aborted .overflow ∧
          changed.Overflows len (changed.space.blockLength (changed.space.orderOf len)) := by
  have ready := ready_of_run created run
  have settled := ready.tended.settled
  have parted := (parted_create created).carryOut (ready_create created) run
  have space : start.space = changed.space :=
    Except.ok.inj ((ready_create created).kept.space.symm.trans ready.kept.space)
  rw [space] at known
  have class_eq (wanted : PageClass) : changed.space.classFor wanted = wanted := if_pos known
  refine ⟨fun order capped => ?_, fun len wanted address after granted => ?_,
    fun len wanted nonempty serves failure after failed => ?_⟩
  · have room : order < changed.arena.lists.size := by
      rw [settled.housed.lists]
      exact Nat.lt_succ_of_le capped
    obtain ⟨blocks, listed, -⟩ := Arena.exists_listed settled.sound room false
    exact ⟨blocks, listed, (parted known).bigLast settled.sound listed⟩
  · obtain ⟨entry, found, place⟩ := (yields_allocate_taken settled.tiled len wanted).of_ok granted
    rw [class_eq] at found
    obtain ⟨blocks, takes⟩ := takes_of_findFree settled parted known found
    exact ⟨blocks, entry, takes, place⟩
  · rw [← class_eq wanted] at serves
    exact stopped_of_serves ready.tended nonempty serves failed

/-- After a request for each page size the free blocks of the lowest order are one for small pages
and one for big pages; the next request for big pages takes the latter. -/
theorem big_last_of_two : ∃ (start changed : Allocator) (held : List Holding)
    (free : List (BlockId × Block)),
    create
        { name := "gpu", base := 0, length := 0x10000, blockSize := 0x1000,
          directoryLength := some 0x4000 } = .ok start ∧
      start.space.directoryOrder.isSome = true ∧
      start.carryOut [] [.allocateFixed 0 0x1000 .big, .allocate 0x1000 .small] =
        some (changed, held) ∧
      changed.arena.listed 0 = .ok free ∧ Arena.BigLast free ∧
      free.map (·.2.pageClass) = [.small, .big] ∧
      ∃ blocks entry, changed.Takes (changed.space.orderOf 0x1000) .big blocks entry ∧
        0x1000 = changed.space.address entry.2.position := by
  have outcome : ((create
      { name := "gpu", base := 0, length := 0x10000, blockSize := 0x1000,
        directoryLength := some 0x4000 }).toOption.bind fun start =>
      (start.carryOut [] [.allocateFixed 0 0x1000 .big, .allocate 0x1000 .small]).bind
        fun (changed, _) => (changed.arena.listed 0).toOption.map fun free =>
          (start.space.directoryOrder.isSome, free.map (·.2.pageClass),
            (allocate 0x1000 .big changed).1.toOption)) =
      some (true, [.small, .big], some 0x1000) := by decide +kernel
  obtain ⟨start, created, ran⟩ := Option.bind_eq_some_iff.mp outcome
  obtain ⟨⟨changed, held⟩, run, ran⟩ := Option.bind_eq_some_iff.mp ran
  obtain ⟨free, listed, all⟩ := Option.map_eq_some_iff.mp ran
  obtain ⟨known, classes, granted⟩ := by simpa only [Prod.mk.injEq] using all
  have started := eq_ok_of_toOption created
  obtain ⟨lists, takes, -⟩ := big_last_of_run started known run
  obtain ⟨same, walked, bigLast⟩ := lists 0 (Nat.zero_le _)
  obtain rfl := Except.ok.inj ((eq_ok_of_toOption listed).symm.trans walked)
  exact ⟨start, changed, held, free, started, known, run, walked, bigLast, classes,
    takes 0x1000 .big 0x1000 _ (run_of_toOption granted)⟩

end Requests

end Allocator

end GpuSched.Buddy
