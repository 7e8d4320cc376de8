import GpuSched.Proofs.Buddy.Upkeep

/-!
# Tearing an allocator down

In a space with fewer units than half the handles no call is stopped by a check of a block. Whatever
was called, when all that is left is released the blocks that the space started with are all free
again, each of them can be given back, and nothing leaks.
-/
namespace GpuSched.Buddy

open Operation

namespace Arena

/-- All blocks are free and none is a half. -/
structure Idle (arena : Arena) (maxOrder handles : Nat) : Prop where
  sound : arena.Sound
  housed : arena.Housed (maxOrder + 1) handles
  free : ∀ {id block}, arena.outline id = some block →
    block.isListed = true ∧ block.family = none ∧ block.order ≤ maxOrder

section Idle

variable {arena : Arena} {maxOrder handles : Nat} {id : BlockId} {block : Block}

/-- A free block that is not a half can be given back. -/
theorem Idle.exists_retire (idle : arena.Idle maxOrder handles)
    (found : arena.outline id = some block) :
    ∃ changed, Allocator.retire arena id = .ok changed ∧ changed.Idle maxOrder handles ∧
      changed.outline = Function.update arena.outline id none := by
  obtain ⟨listed, root, capped⟩ := idle.free found
  have room : block.order < arena.lists.size := by
    rw [idle.housed.lists]
    exact Nat.lt_succ_of_le capped
  obtain ⟨first, unlinked, first_sound, first_room, first_outline⟩ :=
    answers_unlink idle.sound found listed room
  have first_housed := idle.housed.sameRoom first_room first_outline
  have at_id : first.outline id = some { block with state := .loose } := by
    rw [first_outline, Function.update_self]
  obtain ⟨second, removed, second_sound, second_housed, second_outline⟩ :=
    exists_remove first_sound first_housed at_id rfl
  have outline : second.outline = Function.update arena.outline id none := by
    rw [second_outline, first_outline, Function.update_idem]
  refine ⟨second, ?_, ⟨second_sound, second_housed, fun {other held} present => ?_⟩, outline⟩
  · unfold Allocator.retire
    rw [unlinked]
    simp only [bind, Except.bind, removed, root]
    rfl
  · rw [outline] at present
    rcases update_eq_some_iff.mp present with ⟨-, impossible⟩ | ⟨-, present⟩
    · cases impossible
    · exact idle.free present

/-- Free blocks that are not halves can be given back one after another. -/
theorem Idle.exists_retireAll (idle : arena.Idle maxOrder handles) {ids : List BlockId}
    (nodup : ids.Nodup) (present : ∀ id ∈ ids, ∃ block, arena.outline id = some block) :
    ∃ changed, ids.foldlM Allocator.retire arena = .ok changed ∧ changed.Idle maxOrder handles ∧
      ∀ other held, changed.outline other = some held ↔
        other ∉ ids ∧ arena.outline other = some held := by
  induction ids generalizing arena with
  | nil => exact ⟨arena, rfl, idle, fun _ _ => by simp⟩
  | cons id rest ih =>
    obtain ⟨fresh, nodup⟩ := List.nodup_cons.mp nodup
    obtain ⟨block, found⟩ := present id List.mem_cons_self
    obtain ⟨next, retired, idle_next, outline⟩ := idle.exists_retire found
    have still : ∀ other ∈ rest, ∃ block, next.outline other = some block := by
      intro other mem
      have apart : other ≠ id := fun same => fresh (same ▸ mem)
      rw [outline, Function.update_of_ne apart]
      exact present other (List.mem_cons_of_mem _ mem)
    obtain ⟨changed, run, idle_changed, left⟩ := ih idle_next nodup still
    refine ⟨changed, ?_, idle_changed, fun other held => ?_⟩
    · rw [List.foldlM_cons, retired]
      exact run
    · rw [left, outline, update_eq_some_iff, List.mem_cons, not_or]
      constructor
      · rintro ⟨absent, ⟨-, impossible⟩ | ⟨apart, present⟩⟩
        · cases impossible
        · exact ⟨⟨apart, absent⟩, present⟩
      · rintro ⟨⟨apart, absent⟩, present⟩
        exact ⟨absent, .inr ⟨apart, present⟩⟩

/-- Without blocks no handle is in use. -/
theorem Housed.live_eq_zero {lists : Nat} (housed : arena.Housed lists handles)
    (empty : ∀ id, arena.outline id = none) : arena.live = 0 := by
  have inside : List.range arena.nodes.size ⊆ arena.vacant := fun id mem =>
    housed.vacant id (List.mem_range.mp mem) (empty id)
  have more := (List.Nodup.subperm List.nodup_range inside).length_le
  rw [List.length_range] at more
  exact Nat.sub_eq_zero_of_le more

end Idle

end Arena

namespace Allocator

/-- Only the arena differs, and in it blocks of some orders are gone. -/
structure Drained (before : Allocator) (orders : List Nat) (after : Allocator) : Prop where
  rest : after = { before with arena := after.arena }
  left : ∀ id block, after.arena.outline id = some block ↔
    block.order ∉ orders ∧ before.arena.outline id = some block

section Teardown

variable {request : SpaceRequest} {allocator : Allocator} {ledger : List Holding}
  {maxOrder handles : Nat}

/-- All blocks of an order can be given back. -/
theorem drains_order (idle : allocator.arena.Idle maxOrder handles) {order : Nat}
    (capped : order ≤ maxOrder) :
    (drain order).Yields allocator
      (fun _ after => after.arena.Idle maxOrder handles ∧ allocator.Drained [order] after)
      (fun _ _ => False) := by
  have room : order < allocator.arena.lists.size := by
    rw [idle.housed.lists]
    exact Nat.lt_succ_of_le capped
  obtain ⟨blocks, walked, listed⟩ := Arena.exists_listed idle.sound room false
  have present : ∀ id ∈ blocks.map (·.1), ∃ block, allocator.arena.outline id = some block := by
    intro id mem
    obtain ⟨⟨id, block⟩, there, rfl⟩ := List.mem_map.mp mem
    exact ⟨_, Arena.outline_of_block? ((listed id block).mp there).1⟩
  obtain ⟨arena, run, idle_after, left⟩ :=
    idle.exists_retireAll (Arena.nodup_of_listed idle.sound walked) present
  have step : (do ((← allocator.arena.listed order).map (·.1)).foldlM retire allocator.arena) =
      Except.ok arena := by
    rw [walked]
    exact run
  unfold drain
  refine (yields_changeArena_of step).mpr ⟨idle_after, rfl, fun id block => ?_⟩
  dsimp only
  rw [left, List.mem_singleton]
  refine and_congr_left fun found => not_congr ?_
  obtain ⟨held, under, rfl⟩ := Arena.block?_of_outline found
  rw [Block.outline_order]
  constructor
  · intro mem
    obtain ⟨⟨other, same⟩, there, rfl⟩ := List.mem_map.mp mem
    obtain ⟨also, order, -⟩ := (listed other same).mp there
    obtain rfl : held = same := Option.some.inj (under.symm.trans also)
    exact order
  · intro same
    have free := (idle.free found).1
    rw [Block.isListed_outline] at free
    exact List.mem_map.mpr ⟨(id, held), (listed id held).mpr ⟨under, same, free⟩, rfl⟩

/-- All blocks can be given back. -/
theorem drains_all (idle : allocator.arena.Idle maxOrder handles) :
    ((List.range (maxOrder + 1)).forM drain).Yields allocator
      (fun _ after => after.arena.Idle maxOrder handles ∧
        allocator.Drained (List.range (maxOrder + 1)) after)
      (fun _ _ => False) := by
  refine yields_forM (fun done after =>
    after.arena.Idle maxOrder handles ∧ allocator.Drained done after)
    ⟨idle, rfl, fun _ _ => by simp⟩ ?_
  rintro done order rest middle whole ⟨idle_middle, drained⟩
  have below : order < maxOrder + 1 :=
    List.mem_range.mp (whole ▸ List.mem_append_right _ List.mem_cons_self)
  refine (drains_order idle_middle (Nat.le_of_lt_succ below)).mono (fun _ after
    ⟨idle_after, next⟩ => ⟨idle_after, ?_, fun id block => ?_⟩) fun _ _ => False.elim
  · rw [next.rest, drained.rest]
  · rw [next.left, drained.left, List.mem_append, not_or]
    exact ⟨fun ⟨apart, absent, found⟩ => ⟨⟨absent, apart⟩, found⟩,
      fun ⟨⟨absent, apart⟩, found⟩ => ⟨apart, absent, found⟩⟩

/-- When callers hold nothing, all blocks are free and none is a half. -/
theorem Ready.idle (ready : allocator.Ready request []) :
    allocator.arena.Idle allocator.space.maxOrder (2 * allocator.space.units - 1) where
  sound := ready.tended.settled.sound
  housed := ready.tended.settled.housed
  free {id block} found := by
    have tidy := ready.tended.tidy
    have unused : ∀ cell, ¬ HoldsAt allocator.arena.outline Block.isAllocated cell := by
      rintro cell ⟨other, held, present, allocated, -⟩
      obtain ⟨owner, owns⟩ := ready.tended.owned ⟨present, of_decide_eq_true allocated⟩
      obtain ⟨holding, mem, -⟩ := ready.tended.granted (hasRecord_of_owns owns)
      cases mem
    have whole : ∀ {other held}, allocator.arena.outline other = some held →
        held.isLeaf = true := by
      intro other held present
      by_contra split
      rw [Bool.not_eq_true] at split
      obtain ⟨inner, allocated, -⟩ := tidy.exists_allocated present split
      exact unused inner allocated
    refine ⟨?_, ?_, (tidy.forest.fits found).capped⟩
    · refine Block.isListed_of_leaf (whole found) (tidy.not_loose found) ?_
      by_contra allocated
      exact unused block.tile ⟨id, block, found, by simpa using allocated, rfl⟩
    · by_contra related
      obtain ⟨family, related⟩ := Option.ne_none_iff_exists'.mp related
      obtain ⟨parent, above, no_leaf, -⟩ := tidy.forest.exists_parent found related
      rw [whole above] at no_leaf
      cases no_leaf

/-- When callers hold nothing, no block is counted. -/
theorem Ready.counts_eq (ready : allocator.Ready request []) {order : Nat} {count : OrderCount}
    (present : allocator.counts[order]? = some count) : count = {} := by
  obtain ⟨allocated, split⟩ := ready.tended.settled.counted order count present
  obtain ⟨unused, whole⟩ := none_used_of_free (fun found => (ready.idle.free found).1) order
  rw [unused] at allocated
  rw [whole] at split
  obtain ⟨handed, divided⟩ := count
  dsimp only at allocated split
  rw [allocated, split]

/-- Counts that are zero pass their checks. -/
theorem passes_checkCount {counts : Array OrderCount}
    (zero : ∀ {order : Nat} {count : OrderCount}, counts[order]? = some count → count = {}) :
    (counts.toList.zipIdx.forM fun (count, order) => checkCount count order).Yields allocator
      (fun _ after => after = allocator) (fun _ _ => False) := by
  refine yields_forM_of_kept rfl ?_
  rintro ⟨count, order⟩ mem _ rfl
  have present : counts[order]? = some count := by
    simpa using List.mk_mem_zipIdx_iff_getElem?.mp mem
  obtain rfl := zero present
  exact rfl

/-- What starts at some addresses can be released. -/
theorem Ready.freeAll (ready : allocator.Ready request ledger) (addresses : List Nat) :
    (addresses.forM Allocator.free).Yields allocator
      (fun _ after => after.Ready request (ledger.filter fun holding =>
        holding.start ∉ addresses))
      (fun _ _ => False) := by
  refine yields_forM (fun done (after : Allocator) => after.Ready request
    (ledger.filter fun holding => holding.start ∉ done)) (by simpa using ready) ?_
  intro done address rest middle _ ready_middle
  refine (ready_middle.free address).mono (fun _ after ready_after => ?_) fun _ _ => False.elim
  rw [List.filter_filter] at ready_after
  have same : (ledger.filter fun holding => holding.start ∉ done ++ [address]) =
      ledger.filter fun holding => holding.start != address && decide (holding.start ∉ done) := by
    refine List.filter_congr fun holding _ => ?_
    rw [Bool.eq_iff_iff]
    simp [and_comm]
  rwa [same]

/-- An allocator that is ready can be torn down: every check is passed and no block is left. -/
theorem Ready.destroy (ready : allocator.Ready request ledger) :
    Allocator.destroy.Yields allocator (fun _ after => ∀ id, after.arena.block? id = none)
      (fun _ _ => False) := by
  unfold Allocator.destroy
  simp only [yields_bind, yields_get]
  refine (ready.freeAll allocator.fixed.keys).mono (fun _ first ready_first => ?_)
    fun _ _ => False.elim
  refine (ready_first.freeAll first.ordinary.keys).mono (fun _ second ready_second => ?_)
    fun _ _ => False.elim
  have nothing : ((ledger.filter fun holding => holding.start ∉ allocator.fixed.keys).filter
      fun holding => holding.start ∉ first.ordinary.keys) = [] := by
    refine List.filter_eq_nil_iff.mpr fun holding mem => ?_
    rw [decide_eq_true_eq, not_not, Table.mem_keys_iff]
    obtain ⟨there, elsewhere⟩ := List.mem_filter.mp mem
    have record := ready_first.kept.hasRecord mem
    cases holding with
    | ordinary address len => exact record
    | fixed base len =>
      have not_there := of_decide_eq_true elsewhere
      exact absurd (Table.mem_keys_iff.mpr (ready.kept.hasRecord there)) not_there
  rw [nothing] at ready_second
  refine (drains_all ready_second.idle).mono (fun _ (third : Allocator) ⟨idle, drained⟩ => ?_)
    fun _ _ => False.elim
  have empty : ∀ id, third.arena.outline id = none := by
    intro id
    by_contra some_left
    obtain ⟨block, found⟩ := Option.ne_none_iff_exists'.mp some_left
    obtain ⟨absent, earlier⟩ := (drained.left id block).mp found
    exact absent (List.mem_range.mpr (Nat.lt_succ_of_le (ready_second.idle.free earlier).2.2))
  have no_live := idle.housed.live_eq_zero empty
  rw [drained.rest] at empty no_live ⊢
  refine (passes_checkCount ready_second.counts_eq).mono (fun _ fourth same => ?_)
    fun _ _ => False.elim
  rw [same, if_neg (not_not.mpr no_live)]
  exact fun id => Arena.outline_eq_none_iff.mp (empty id)

end Teardown

section Creation

variable {request : SpaceRequest} {space : Space}

/-- Blocks can be listed for as many tiles as there are handles left. -/
theorem exists_populate {arena : Arena} {lists : Nat} {tiles : List Tile} (sound : arena.Sound)
    (housed : arena.Housed lists arena.nodes.size) (capped : ∀ tile ∈ tiles, tile.order < lists)
    (room : arena.nodes.size + tiles.length ≤ Arena.capacity) :
    ∃ changed, populate arena tiles = .ok changed := by
  induction tiles generalizing arena with
  | nil => exact ⟨arena, rfl⟩
  | cons tile rest ih =>
    rw [List.length_cons] at room
    let block : Block := { position := tile.position, order := tile.order }
    rcases Arena.insert_cases sound housed block rfl with
      ⟨id, filled, inserted, -, sound_filled, shown, lists_filled, used, growth⟩ | ⟨-, -, taken⟩
    on_goal 2 => omega
    have at_id : filled.outline id = some block := by
      rw [shown, Function.update_self]
    have inside : tile.order < filled.lists.size := by
      rw [lists_filled]
      exact capped tile List.mem_cons_self
    obtain ⟨listed, pushed, sound_listed, same_room, outline⟩ :=
      Arena.answers_pushBack sound_filled at_id rfl inside
    have housed_filled : filled.Housed lists filled.nodes.size :=
      ⟨lists_filled, Nat.le_refl _, used⟩
    have housed_listed := housed_filled.sameRoom same_room outline
    rw [← same_room.size] at housed_listed
    have left : listed.nodes.size + rest.length ≤ Arena.capacity := by
      rw [same_room.size]
      omega
    obtain ⟨changed, run⟩ := ih sound_listed housed_listed
      (fun other mem => capped other (List.mem_cons_of_mem _ mem)) left
    refine ⟨changed, ?_⟩
    simp only [populate, List.foldlM_cons, bind_eq_ok_iff]
    exact ⟨listed, ⟨⟨id, filled⟩, inserted, pushed⟩, run⟩

/-- In a space with no more units than there are handles an allocator is created. -/
theorem exists_create (created : Space.create request = .ok space)
    (few : space.units ≤ Arena.capacity) : ∃ start, create request = .ok start := by
  have length : space.tiles.length ≤ space.units := length_tiling_le space.maxOrder 0 space.units
  have empty : (Arena.create space.maxOrder).nodes.size = 0 := rfl
  have room : (Arena.create space.maxOrder).nodes.size + space.tiles.length ≤ Arena.capacity := by
    omega
  obtain ⟨arena, populated⟩ := exists_populate (sound_create space.maxOrder)
    (Arena.housed_create space.maxOrder)
    (fun tile mem => Nat.lt_succ_of_le (of_mem_tiling mem).2.2.2) room
  refine ⟨{ space, arena, counts := Array.replicate (space.maxOrder + 1) {} }, ?_⟩
  simp only [create, ofSpace, bind_eq_ok_iff, pure_eq_ok_iff]
  exact ⟨space, created, arena, populated, rfl⟩

end Creation

section Lives

variable {request : SpaceRequest} {space : Space} {allocator : Allocator} {ledger : List Holding}
  {calls : List Request}

/-- Some call of a run is stopped where it would make a total of bytes too large. -/
def Overruns (allocator : Allocator) (ledger : List Holding) (calls : List Request) : Prop :=
  ∃ earlier call later middle held, calls = earlier ++ call :: later ∧
    allocator.carryOut ledger earlier = some (middle, held) ∧
    middle.Overflows call.asked (call.given middle.space) ∧
    (perform call middle).1 = .error (.aborted .overflow)

/-- A run that is stopped is not carried out. -/
theorem Overruns.carryOut_eq_none (overruns : allocator.Overruns ledger calls) :
    allocator.carryOut ledger calls = none := by
  obtain ⟨earlier, call, later, middle, held, rfl, ran, -, stopped⟩ := overruns
  induction earlier generalizing allocator ledger with
  | nil =>
    obtain ⟨rfl, rfl⟩ := Prod.mk.inj (Option.some.inj ran)
    rw [List.nil_append, Allocator.carryOut]
    rcases outcome : perform call allocator with ⟨result, changed⟩
    rw [outcome] at stopped
    dsimp only at stopped
    rw [stopped]
  | cons first rest ih =>
    rw [Allocator.carryOut] at ran
    rw [List.cons_append, Allocator.carryOut]
    split at ran
    · cases ran
    · exact ih ran

/-- A run in a space with few units is carried out, unless a total of bytes becomes too large. -/
theorem Ready.overruns_or_carryOut (ready : allocator.Ready request ledger)
    (few : allocator.space.units < 2 ^ 31) (calls : List Request) :
    allocator.Overruns ledger calls ∨
      ∃ last held, allocator.carryOut ledger calls = some (last, held) := by
  induction calls generalizing allocator ledger with
  | nil => exact .inr ⟨allocator, ledger, rfl⟩
  | cons call rest ih =>
    have outcome := ready.perform call
    have same_space : ∀ {next : Allocator} {held}, next.Ready request held →
        next.space.units < 2 ^ 31 := by
      intro next held ready_next
      rwa [Except.ok.inj (ready_next.kept.space.symm.trans ready.kept.space)]
    have go_on : ∀ {result next}, Allocator.perform call allocator = (result, next) →
        (∀ reason, result ≠ .error (.aborted reason)) →
        next.Ready request (call.settle ledger result) →
        allocator.Overruns ledger (call :: rest) ∨
          ∃ last held, allocator.carryOut ledger (call :: rest) = some (last, held) := by
      intro result next ran returns ready_next
      have step : ∀ later, allocator.carryOut ledger (call :: later) =
          next.carryOut (call.settle ledger result) later := by
        intro later
        rw [Allocator.carryOut, ran]
        split
        · rename_i impossible
          exact absurd (Prod.mk.inj impossible).1 (returns _)
        · rename_i same
          obtain ⟨rfl, rfl⟩ := Prod.mk.inj same
          rfl
      rcases ih ready_next (same_space ready_next) with
        ⟨earlier, stopping, later, middle, held, rfl, run, stops⟩ | ⟨last, held, run⟩
      · exact .inl ⟨call :: earlier, stopping, later, middle, held, rfl, (step _).trans run, stops⟩
      · exact .inr ⟨last, held, (step _).trans run⟩
    rcases ran : Allocator.perform call allocator with ⟨failure | answer, next⟩
    · rcases outcome.of_error ran with ⟨error, rfl, ready_next⟩ | ⟨-, crowded⟩ | ⟨rfl, large⟩
      · exact go_on ran (fun _ => by simp) ready_next
      · have handles : Arena.capacity = 2 * 2 ^ 31 - 1 := by decide
        omega
      · exact .inl ⟨[], call, rest, allocator, ledger, rfl, rfl, large, by rw [ran]⟩
    · exact go_on ran (fun _ => by simp) (outcome.of_ok ran)

/-- In a space with fewer units than half the handles no check of an allocator fails, those included
that free lists and the joining of halves end: it is created, every run of calls is carried out
unless a total of bytes becomes too large, no two free halves are left unjoined, and the allocator
can be torn down then, with no block left. -/
theorem never_halts (created : Space.create request = .ok space) (few : space.units < 2 ^ 31)
    (calls : List Request) :
    ∃ start, create request = .ok start ∧
      (start.Overruns [] calls ∨
        ∃ last ledger, start.carryOut [] calls = some (last, ledger) ∧
          Merged last.arena.outline ∧
          ∃ empty, destroy last = (.ok (), empty) ∧ ∀ id, empty.arena.block? id = none) := by
  have handles : Arena.capacity = 2 * 2 ^ 31 - 1 := by decide
  obtain ⟨start, started⟩ := exists_create created (by omega)
  have ready := ready_create started
  have same_space := Except.ok.inj (ready.kept.space.symm.trans created)
  refine ⟨start, started, ?_⟩
  rcases ready.overruns_or_carryOut (same_space ▸ few) calls with overruns | ⟨last, ledger, run⟩
  · exact .inl overruns
  · have ready_last := ready.carryOut run
    obtain ⟨⟨⟩, empty, torn, none_left⟩ := ready_last.destroy.exists_ok
    exact .inr ⟨last, ledger, run, ready_last.tended.merged, empty, torn, none_left⟩

/-- Small pages do not get the block beside the placed range, which is for big ones, so the tile
that they got is taken back. What is left is released at the end. -/
theorem never_halts_of_refusal : ∃ start last empty,
    create {
        name := "gpu", base := 0, length := 0x8000, blockSize := 0x1000,
        directoryLength := some 0x2000 } = .ok start ∧
      start.carryOut [] [.allocateFixed 0x7000 0x1000 .big, .allocateFixed 0 0x6000 .small,
        .allocate 0x1800 .small] = some (last, [.ordinary 0 0x1800, .fixed 0x7000 0x1000]) ∧
      destroy last = (.ok (), empty) ∧ ∀ id, empty.arena.block? id = none := by
  let request : SpaceRequest := {
    name := "gpu", base := 0, length := 0x8000, blockSize := 0x1000,
    directoryLength := some 0x2000 }
  let calls : List Request := [.allocateFixed 0x7000 0x1000 .big, .allocateFixed 0 0x6000 .small,
    .allocate 0x1800 .small]
  have outcome : ((create request).toOption.bind fun start =>
      (start.carryOut [] calls).map (·.2)) =
        some [.ordinary 0 0x1800, .fixed 0x7000 0x1000] := by decide +kernel
  have eight : (Space.create request).toOption.map Space.units = some 8 := by decide +kernel
  obtain ⟨start, created, ran⟩ := Option.bind_eq_some_iff.mp outcome
  obtain ⟨⟨last, ledger⟩, run, rfl⟩ := Option.map_eq_some_iff.mp ran
  obtain ⟨space, described, units⟩ := Option.map_eq_some_iff.mp eight
  have started := eq_ok_of_toOption created
  obtain ⟨again, restarted, overruns | ⟨last', ledger', rerun, -, empty, torn, none_left⟩⟩ :=
    never_halts (eq_ok_of_toOption described) (by omega) calls
  all_goals obtain rfl := Except.ok.inj (restarted.symm.trans started)
  · rw [overruns.carryOut_eq_none] at run
    cases run
  · obtain ⟨rfl, rfl⟩ := Prod.mk.inj (Option.some.inj (rerun.symm.trans run))
    exact ⟨again, last', empty, started, run, torn, none_left⟩

end Lives

end Allocator

end GpuSched.Buddy
