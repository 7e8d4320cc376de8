import GpuSched.Proofs.Buddy.Calls
import GpuSched.Proofs.Buddy.Ledger

/-!
# Between two calls

Between two calls an allocator has no block in hand, no two halves of a block are both free, each
block that is handed out belongs to an allocation on record, and each record is that of a range that
a caller holds. This is so from the start, and a grant, a refusal and a release keep it.
-/
namespace GpuSched.Buddy.Allocator

open Operation

section Creation

/-- A block under a new handle adds its place to those of its kind. -/
theorem holdsAt_plant {blocks : BlockId → Option Block} {kind : Block → Bool} {id : BlockId}
    {block : Block} {tile : Tile} (fresh : blocks id = none) (of_kind : kind block = true) :
    HoldsAt (Function.update blocks id (some block)) kind tile ↔
      tile = block.tile ∨ HoldsAt blocks kind tile := by
  constructor
  · rintro ⟨other, held, present, held_kind, place⟩
    rcases update_eq_some_iff.mp present with ⟨-, changed⟩ | ⟨-, present⟩
    · obtain rfl := Option.some.inj changed
      exact .inl place.symm
    · exact .inr ⟨other, held, present, held_kind, place⟩
  · rintro (rfl | ⟨other, held, present, held_kind, place⟩)
    · exact ⟨id, block, Function.update_self .., of_kind, rfl⟩
    · have apart : other ≠ id := by
        rintro rfl
        rw [fresh] at present
        cases present
      exact ⟨other, held, by rw [Function.update_of_ne apart, present], held_kind, place⟩

/-- Listing new blocks for the tiles of the rest of a space adds these as roots; all blocks are free
and all handles are in use. -/
theorem roots_populate {arena changed : Arena} {lists maxOrder position stop : Nat}
    (sound : arena.Sound) (housed : arena.Housed lists arena.nodes.size) (full : arena.vacant = [])
    (free : ∀ id block, arena.outline id = some block → block.isListed = true ∧ block.family = none)
    (run : populate arena (tiling maxOrder position stop) = .ok changed) :
    changed.Housed lists changed.nodes.size ∧ changed.vacant = [] ∧
      (∀ id block, changed.outline id = some block →
        block.isListed = true ∧ block.family = none) ∧
      ∀ tile, HoldsAt changed.outline Block.isRoot tile ↔
        HoldsAt arena.outline Block.isRoot tile ∨ tile ∈ tiling maxOrder position stop := by
  fun_induction tiling maxOrder position stop generalizing arena with
  | case1 position inner order =>
    rename_i ih
    simp only [populate, List.foldlM_cons, bind_eq_ok_iff] at run
    obtain ⟨listed, ⟨⟨id, filled⟩, inserted, pushed⟩, run⟩ := run
    rcases Arena.insert_cases sound housed { position, order } rfl with
      ⟨id', filled', inserted', fresh, sound_filled, shown, lists_filled, used, growth⟩ |
        ⟨refused, -⟩
    on_goal 2 =>
      rw [inserted] at refused
      cases refused
    obtain ⟨rfl, rfl⟩ := Prod.mk.inj (Except.ok.inj (inserted.symm.trans inserted'))
    have full_filled : filled.vacant = [] := by
      rcases growth with ⟨-, some_vacant⟩ | ⟨-, empty, -⟩
      · exact absurd full some_vacant
      · exact empty
    have at_id : filled.outline id = some { position, order } := by
      rw [shown, Function.update_self]
    obtain ⟨block, found, loose, sound_listed, also_shown⟩ :=
      Arena.sound_pushBack sound_filled pushed
    obtain rfl : { position, order } = block :=
      Option.some.inj ((Arena.block?_of_unlisted_outline at_id rfl).symm.trans found)
    have room := Arena.sameRoom_pushBack pushed
    have outline : listed.outline = Function.update arena.outline id
        (some { position, order, state := .listed none none }) := by
      rw [also_shown, shown, Function.update_idem]
    have housed_filled : filled.Housed lists filled.nodes.size :=
      ⟨lists_filled, Nat.le_refl _, used⟩
    have housed_listed := housed_filled.sameRoom room also_shown
    rw [← room.size] at housed_listed
    have free_listed : ∀ other block, listed.outline other = some block →
        block.isListed = true ∧ block.family = none := by
      intro other block present
      rw [outline] at present
      rcases update_eq_some_iff.mp present with ⟨-, changed⟩ | ⟨-, present⟩
      · obtain rfl := Option.some.inj changed
        exact ⟨rfl, rfl⟩
      · exact free other block present
    obtain ⟨housed_changed, full_changed, free_changed, roots⟩ :=
      ih sound_listed housed_listed (room.vacant.trans full_filled) free_listed run
    refine ⟨housed_changed, full_changed, free_changed, fun tile => ?_⟩
    have planted : HoldsAt listed.outline Block.isRoot tile ↔
        tile = ⟨position, order⟩ ∨ HoldsAt arena.outline Block.isRoot tile := by
      rw [outline]
      exact holdsAt_plant fresh rfl
    rw [roots, planted, List.mem_cons, or_assoc, or_left_comm]
  | case2 position outside =>
    obtain rfl := pure_eq_ok_iff.mp run
    exact ⟨housed, full, free, fun tile => by simp⟩

/-- A new allocator is settled, no free halves are apart, and nothing is handed out. -/
theorem settled_create {request : SpaceRequest} {allocator : Allocator}
    (run : create request = .ok allocator) :
    allocator.Settled [] ∧ Merged allocator.arena.outline ∧
      ∀ id block, ¬ HandedOut allocator.arena.outline id block := by
  have tiled := (tiled_create run).1
  simp only [create, ofSpace, bind_eq_ok_iff, pure_eq_ok_iff] at run
  obtain ⟨space, created, arena, populated, rfl⟩ := run
  have empty : (Arena.create space.maxOrder).outline = fun _ => none := rfl
  obtain ⟨housed, full, free, roots⟩ := roots_populate (sound_create space.maxOrder)
    (Arena.housed_create space.maxOrder) rfl (fun _ _ present => by cases present) populated
  refine ⟨⟨tiled.sound, tiled.forest, ?_, Array.size_replicate, ?_, fun tile => ?_, ?_⟩, ?_, ?_⟩
  · refine ⟨housed.lists, tiled.forest.size_le fun id inside vacant => ?_, housed.vacant⟩
    have mem := housed.vacant id inside vacant
    rw [full] at mem
    cases mem
  · intro order count present
    obtain ⟨unused, whole⟩ := none_used_of_free (fun found => (free _ _ found).1) order
    rw [unused, whole]
    rw [Array.getElem?_replicate] at present
    split at present
    · obtain rfl := Option.some.inj present
      exact ⟨rfl, rfl⟩
    · cases present
  · rw [roots]
    constructor
    · rintro (⟨id, block, present, -⟩ | mem)
      · cases present
      · exact mem
    · exact .inr
  · intro id block found loose
    have listed := (free id block found).1
    unfold Block.isListed at listed
    rw [loose] at listed
    cases listed
  · rintro one other ⟨half, buddy, family, found, listed, related, -⟩
    rw [(free one half found).2] at related
    cases related
  · rintro id block ⟨found, allocated⟩
    exact Block.not_allocated_of_isListed (free id block found).1 allocated

end Creation

/-- The blocks are settled, free halves are joined, each block that is handed out is on record, and
each record is that of a range that a caller holds. -/
structure Tended (allocator : Allocator) (ledger : List Holding) : Prop where
  settled : allocator.Settled []
  merged : Merged allocator.arena.outline
  owned : ∀ {id block}, HandedOut allocator.arena.outline id block →
    ∃ owner, allocator.Owns owner id
  granted : ∀ {owner}, allocator.HasRecord owner → ∃ holding ∈ ledger, holding.owner = owner

section Records

variable {request : SpaceRequest} {allocator before after : Allocator} {ledger : List Holding}
  {owner : Owner} {id : BlockId}

/-- A tended allocator is tidy. -/
theorem Tended.tidy (tended : allocator.Tended ledger) :
    Tidy allocator.space.units allocator.space.maxOrder allocator.arena.outline :=
  tended.settled.tidy tended.merged

/-- A range that a caller holds has a record. -/
theorem Kept.hasRecord (kept : allocator.Kept request ledger) {holding : Holding}
    (mem : holding ∈ ledger) : allocator.HasRecord holding.owner := by
  rcases kept.exists_owns mem with ⟨address, id, owner, found⟩ | ⟨base, range, owner, found⟩
  · rw [owner]
    exact ⟨id, found⟩
  · rw [owner]
    exact ⟨range, found⟩

/-- Two ranges with records of their own start at different addresses. -/
theorem Kept.start_ne (kept : allocator.Kept request ledger) {one other : Holding}
    (mem : one ∈ ledger) (mem' : other ∈ ledger) (distinct : one.owner ≠ other.owner) :
    one.start ≠ other.start := by
  obtain ⟨first, last, nonempty, start, -, -, spans⟩ := kept.units mem
  obtain ⟨first', last', nonempty', start', -, -, spans'⟩ := kept.units mem'
  intro same
  rw [← start, ← start'] at same
  have position := Space.address_injective same
  rcases kept.recorded.disjoint kept.tiled distinct spans spans' nonempty nonempty' with le | le
  · omega
  · omega

/-- An ordinary record is that of an ordinary range. -/
theorem Tended.exists_ordinary (tended : allocator.Tended ledger) {address : Nat}
    (found : allocator.ordinary.find? address = some id) :
    ∃ len, Holding.ordinary address len ∈ ledger := by
  have record : allocator.HasRecord (.ordinary address) := ⟨id, found⟩
  obtain ⟨holding, mem, owner⟩ := tended.granted record
  cases holding with
  | ordinary start len =>
    obtain rfl := Owner.ordinary.inj owner
    exact ⟨len, mem⟩
  | fixed start len => cases owner

/-- A fixed record is that of a fixed range. -/
theorem Tended.exists_fixed (tended : allocator.Tended ledger) {base : Nat} {range : FixedRange}
    (found : allocator.fixed.find? base = some range) : ∃ len, Holding.fixed base len ∈ ledger := by
  have record : allocator.HasRecord (.fixed base) := ⟨range, found⟩
  obtain ⟨holding, mem, owner⟩ := tended.granted record
  cases holding with
  | ordinary start len => cases owner
  | fixed start len =>
    obtain rfl := Owner.fixed.inj owner
    exact ⟨len, mem⟩

/-- A range that is granted takes the blocks that are handed out for it. -/
theorem Tended.grant (tended : before.Tended ledger) {holding : Holding} {asked given : Nat}
    (kept : after.Kept request (holding :: ledger))
    (grants : before.Grants holding.owner asked given after) :
    after.Tended (holding :: ledger) where
  settled := grants.settled
  merged := grants.merged
  owned {id block} now := by
    rcases grants.handed now with new | old
    · exact ⟨holding.owner, new⟩
    · obtain ⟨owner, owned⟩ := tended.owned old
      by_cases same : owner = holding.owner
      · obtain ⟨other, mem, also⟩ := tended.granted (hasRecord_of_owns owned)
        have distinct := (List.pairwise_cons.mp kept.distinct).1 other mem
        exact absurd (same.symm.trans also.symm) distinct
      · exact ⟨owner, grants.owns same owned⟩
  granted {owner} has := by
    rcases grants.recorded has with rfl | old
    · exact ⟨holding, List.mem_cons_self, rfl⟩
    · obtain ⟨other, mem, same⟩ := tended.granted old
      exact ⟨other, List.mem_cons_of_mem _ mem, same⟩

/-- A request that is refused leaves what callers hold. -/
theorem Tended.deny (tended : before.Tended ledger) (denies : before.Denies after) :
    after.Tended ledger where
  settled := denies.settled
  merged := denies.merged
  owned {id block} now := by
    obtain ⟨owner, owned⟩ := tended.owned ((denies.handed id block).mp now)
    exact ⟨owner, denies.books.owns_iff.mpr owned⟩
  granted has := tended.granted (denies.books.hasRecord_iff.mp has)

/-- A range that is given up gives the blocks back that were handed out for it. -/
theorem Tended.strike (tended : before.Tended ledger) (kept : before.Kept request ledger)
    {holding : Holding} {bytes : Nat} (mem : holding ∈ ledger)
    (strikes : before.Strikes holding.owner bytes after) :
    after.Tended (ledger.filter (·.start != holding.start)) where
  settled := strikes.settled
  merged := strikes.merged
  owned {id block} now := by
    obtain ⟨elsewhere, old⟩ := strikes.handed now
    obtain ⟨owner, owned⟩ := tended.owned old
    have apart : owner ≠ holding.owner := by
      rintro rfl
      exact elsewhere owned
    exact ⟨owner, strikes.owns apart owned⟩
  granted {owner} has := by
    obtain ⟨apart, old⟩ := strikes.recorded has
    obtain ⟨other, there, rfl⟩ := tended.granted old
    have elsewhere := kept.start_ne there mem apart
    exact ⟨other, List.mem_filter.mpr ⟨there, by simpa using elsewhere⟩, rfl⟩

end Records

end GpuSched.Buddy.Allocator
