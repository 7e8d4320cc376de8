import GpuSched.Proofs.Buddy.Tending

/-!
# No tiling has fewer blocks

The greedy tiling of a range is exact: its tiles are apart and together have just the units of the
range. An aligned tile that lies in the range and meets a greedy tile lies in it, so whatever
aligned tiles cover the range, each greedy tile needs one of its own. A new allocator has the blocks
of the greedy tiling of its space, and a range that a caller places has those of its own.
-/
namespace GpuSched.Buddy

/-- Aligned tiles, none of an order above a cap, that have just the units from one up to another.
They may overlap. -/
structure IsTiling (cap first last : Nat) (tiles : List Tile) : Prop where
  aligned : ∀ tile ∈ tiles, tile.Aligned
  capped : ∀ tile ∈ tiles, tile.order ≤ cap
  covers : ∀ unit, (∃ tile ∈ tiles, tile.position ≤ unit ∧ unit < tile.stop) ↔
    first ≤ unit ∧ unit < last

/-- A tiling by tiles that are apart and in ascending order, of which there are as few as in any
tiling of the range, and no more than the range has units. -/
structure IsLeastTiling (cap first last : Nat) (tiles : List Tile) : Prop
    extends IsTiling cap first last tiles where
  ascending : tiles.Pairwise fun one other => one.stop ≤ other.position
  least : ∀ others, IsTiling cap first last others → tiles.length ≤ others.length
  ends : tiles.length ≤ last - first

section Tilings

variable {cap first last : Nat} {tiles : List Tile} {tile cell : Tile}

/-- The tiles of a tiling lie in its range. -/
theorem IsTiling.inside (tiling : IsTiling cap first last tiles) (mem : tile ∈ tiles) :
    first ≤ tile.position ∧ tile.stop ≤ last := by
  have nonempty := tile.position_lt_stop
  have start := (tiling.covers tile.position).mp ⟨tile, mem, Nat.le_refl _, nonempty⟩
  have final := (tiling.covers (tile.stop - 1)).mp ⟨tile, mem, by omega, by omega⟩
  omega

/-- A tile of any tiling lies in the greedy tile that it meets. -/
theorem IsTiling.within (others : IsTiling cap first last tiles) (there : cell ∈ tiles)
    (mem : tile ∈ tiling cap first last) (after : tile.position < cell.stop)
    (before : cell.position < tile.stop) : cell.Within tile := by
  obtain ⟨from_start, to_stop⟩ := others.inside there
  have aligned := others.aligned cell there
  have order := order_le_of_mem_tiling mem aligned (others.capped cell there) from_start to_stop
    before after
  exact aligned.within (of_mem_tiling mem).2.2.1 order after before

/-- The greedy tiling is one. -/
theorem isTiling_tiling (cap first last : Nat) :
    IsTiling cap first last (tiling cap first last) where
  aligned _ mem := (of_mem_tiling mem).2.2.1
  capped _ mem := (of_mem_tiling mem).2.2.2
  covers unit := by
    constructor
    · rintro ⟨tile, mem, after, before⟩
      obtain ⟨from_start, to_stop, -⟩ := of_mem_tiling mem
      omega
    · rintro ⟨after, before⟩
      exact exists_mem_tiling after before

/-- The tiles of the greedy tiling are apart, from left to right. -/
theorem pairwise_tiling (cap first last : Nat) :
    (tiling cap first last).Pairwise fun one other => one.stop ≤ other.position := by
  fun_induction tiling cap first last with
  | case1 position below order ih =>
    exact List.pairwise_cons.mpr ⟨fun tile mem => (of_mem_tiling mem).1, ih⟩
  | case2 => exact .nil

/-- Without the tiles in the first greedy tile, a tiling is one of the rest of the range. -/
theorem IsTiling.rest {position stop : Nat} (below : position < stop)
    (others : IsTiling cap position stop tiles) :
    IsTiling cap (position + twoPow (tileOrder cap position stop)) stop
      (tiles.filter fun tile =>
        position + twoPow (tileOrder cap position stop) ≤ tile.position) where
  aligned tile mem := others.aligned tile (List.mem_filter.mp mem).1
  capped tile mem := others.capped tile (List.mem_filter.mp mem).1
  covers unit := by
    have head : ⟨position, tileOrder cap position stop⟩ ∈ tiling cap position stop := by
      rw [tiling, if_pos below]
      exact List.mem_cons_self
    constructor
    · rintro ⟨tile, mem, after, before⟩
      obtain ⟨there, behind⟩ := List.mem_filter.mp mem
      have inside := others.inside there
      rw [decide_eq_true_eq] at behind
      omega
    · rintro ⟨after, before⟩
      obtain ⟨tile, there, from_tile, to_tile⟩ := (others.covers unit).mpr ⟨by omega, before⟩
      refine ⟨tile, List.mem_filter.mpr ⟨there, ?_⟩, from_tile, to_tile⟩
      -- A tile that starts earlier meets the first greedy tile and ends in it.
      rw [decide_eq_true_eq]
      by_contra early
      have within := others.within there head (show position < tile.stop by omega)
        (Nat.lt_of_not_le early)
      exact absurd (Nat.lt_of_lt_of_le to_tile within.2) (Nat.not_lt.mpr after)

/-- No tiling of a range has fewer tiles than the greedy one. -/
theorem IsTiling.length_tiling_le (others : IsTiling cap first last tiles) :
    (tiling cap first last).length ≤ tiles.length := by
  fun_induction tiling cap first last generalizing tiles with
  | case1 position below order =>
    rename_i ih
    have later := ih (others.rest below)
    obtain ⟨tile, mem, after, -⟩ := (others.covers position).mpr ⟨Nat.le_refl _, below⟩
    have positive := twoPow_pos order
    have dropped : (tiles.filter fun tile => position + twoPow order ≤ tile.position).length <
        tiles.length := by
      refine List.length_filter_lt_length_iff_exists.mpr ⟨tile, mem, ?_⟩
      rw [decide_eq_true_eq]
      omega
    rw [List.length_cons]
    exact Nat.lt_of_le_of_lt later dropped
  | case2 => exact Nat.zero_le _

/-- The greedy tiling is exact and has the least number of tiles. -/
theorem isLeastTiling_tiling (cap first last : Nat) :
    IsLeastTiling cap first last (tiling cap first last) where
  toIsTiling := isTiling_tiling cap first last
  ascending := pairwise_tiling cap first last
  least _ others := others.length_tiling_le
  ends := length_tiling_le cap first last

end Tilings

/-- The places of the blocks of an arena, in the order of their handles. -/
def Arena.places (arena : Arena) : List (Option Tile) :=
  (List.range arena.nodes.size).map fun id => (arena.outline id).map Block.tile

namespace Allocator

open Operation

/-- New blocks get the handles after those in use, in the order of their tiles. -/
theorem places_populate {arena changed : Arena} {tiles : List Tile} (sound : arena.Sound)
    (full : arena.vacant = []) (run : populate arena tiles = .ok changed) :
    changed.places = arena.places ++ tiles.map some := by
  induction tiles generalizing arena with
  | nil =>
    obtain rfl := pure_eq_ok_iff.mp run
    rw [List.map_nil, List.append_nil]
  | cons tile tiles ih =>
    simp only [populate, List.foldlM_cons, bind_eq_ok_iff] at run
    obtain ⟨listed, ⟨⟨id, filled⟩, inserted, pushed⟩, run⟩ := run
    obtain ⟨-, sound_filled, shown⟩ := Arena.sound_insert sound rfl inserted
    obtain ⟨rfl, size, full_filled⟩ : arena.nodes.size = id ∧
        filled.nodes.size = arena.nodes.size + 1 ∧ filled.vacant = [] := by
      unfold Arena.insert at inserted
      rw [full] at inserted
      dsimp only at inserted
      split at inserted
      · obtain ⟨rfl, rfl⟩ := Prod.mk.inj (Except.ok.inj inserted)
        exact ⟨rfl, Array.size_push .., rfl⟩
      · cases inserted
    obtain ⟨block, found, -, sound_listed, also_shown⟩ :=
      Arena.sound_pushBack sound_filled pushed
    have room := Arena.sameRoom_pushBack pushed
    rw [ih sound_listed (room.vacant.trans full_filled) run, List.map_cons]
    have at_block := Arena.outline_of_block? found
    rw [shown, Function.update_self] at at_block
    have place : block.tile = tile := by
      rw [← Block.outline_tile, ← Option.some.inj at_block]
      rfl
    have added : listed.places = arena.places ++ [some tile] := by
      unfold Arena.places
      rw [room.size, size, List.range_succ, List.map_append, List.map_singleton, also_shown,
        Function.update_self, Option.map_some]
      refine congrArg₂ (· ++ ·) (List.map_congr_left fun id inside => ?_) ?_
      · have apart : id ≠ arena.nodes.size := Nat.ne_of_lt (List.mem_range.mp inside)
        rw [shown, Function.update_of_ne apart, Function.update_of_ne apart]
      · rw [← place]
        rfl
    rw [added, List.append_assoc]
    rfl

section Ranges

variable {request : SpaceRequest} {start allocator after : Allocator} {ledger : List Holding}
  {base len answer : Nat} {wanted : PageClass}

/-- A new allocator has just the blocks of the greedy tiling of its space, from left to right. -/
theorem places_create (created : create request = .ok start) :
    start.arena.places = start.space.tiles.map some := by
  simp only [create, ofSpace, bind_eq_ok_iff, pure_eq_ok_iff] at created
  obtain ⟨space, -, arena, populated, rfl⟩ := created
  exact places_populate (sound_create space.maxOrder) rfl populated

/-- The blocks of a new allocator, from left to right, are an exact tiling of the space with the
least number of blocks. In every run, so are those of each range that a caller places: the blocks on
record for it are handed out, from left to right, and no aligned blocks within the cap on orders
that have just the units of the range are fewer. -/
theorem created_and_placed_least (created : create request = .ok start) :
    (start.arena.places = start.space.tiles.map some ∧
      IsLeastTiling start.space.maxOrder 0 start.space.units start.space.tiles ∧
      start.space.address 0 = start.space.start ∧
      start.space.address start.space.units = start.space.limit) ∧
    ∀ {allocator after ledger base len wanted answer}, Reached request allocator ledger →
      allocateFixed base len wanted allocator = (.ok answer, after) →
      answer = base ∧ ∃ range tiles first last, after.fixed.find? base = some range ∧
        range.len = len ∧ List.Forall₂ after.Placed tiles range.tiles ∧
        IsLeastTiling start.space.maxOrder first last tiles ∧
        start.space.address first = base ∧ start.space.address last = base + len := by
  obtain ⟨-, -, -, space⟩ := tiled_create created
  refine ⟨⟨places_create created, isLeastTiling_tiling _ _ _, ?_, ?_⟩, ?_⟩
  · unfold Space.address
    rw [Nat.zero_mul, Nat.add_zero]
  · obtain ⟨-, -, -, -, -, -, nonempty⟩ := Space.of_create_eq_ok space
    unfold Space.address
    rw [Space.units_mul_blockSize space]
    omega
  · intro allocator after ledger base len wanted answer reached run
    obtain rfl := (yields_base ..).of_ok run
    have kept := (yields_allocateFixed reached.kept).of_ok run
    obtain ⟨range, found, same⟩ := kept.live _ List.mem_cons_self
    obtain ⟨placeable, placed⟩ := kept.recorded.fixed found
    have same_space : after.space = start.space := Except.ok.inj (kept.space.symm.trans space)
    obtain ⟨at_base, -, at_end, -⟩ :=
      Space.of_placeable (Space.start_mod_blockSize kept.space) placeable
    rw [same] at at_end
    rw [same_space] at at_base at_end placed
    exact ⟨rfl, range, _, _, _, found, same, placed, isLeastTiling_tiling _ _ _, at_base,
      by rw [same]; exact at_end⟩

end Ranges

/-- Nine blocks from the fourth of thirteen take three tiles, and no tiling of them has fewer. -/
theorem created_and_placed_least_of_nine : ∃ start after range tiles first last,
    create { name := "heap", base := 0x1000, length := 0xd000, blockSize := 0x1000 } = .ok start ∧
    allocateFixed 0x4000 0x9000 .any start = (.ok 0x4000, after) ∧
    after.fixed.find? 0x4000 = some range ∧ range.tiles.length = 3 ∧
    List.Forall₂ after.Placed tiles range.tiles ∧
    IsLeastTiling start.space.maxOrder first last tiles ∧
    start.space.address first = 0x4000 ∧ start.space.address last = 0xd000 := by
  have outcome : ((create
      { name := "heap", base := 0x1000, length := 0xd000, blockSize := 0x1000 }).toOption.bind
        fun start => (allocateFixed 0x4000 0x9000 .any start).1.toOption.bind fun answer =>
          ((allocateFixed 0x4000 0x9000 .any start).2.fixed.find? 0x4000).map
            fun range => (answer, range.tiles.length)) = some (0x4000, 3) := by decide +kernel
  obtain ⟨start, created, granted⟩ := Option.bind_eq_some_iff.mp outcome
  obtain ⟨answer, granted, recorded⟩ := Option.bind_eq_some_iff.mp granted
  obtain ⟨held, on_record, answered⟩ := Option.map_eq_some_iff.mp recorded
  obtain ⟨rfl, three⟩ := Prod.mk.inj answered
  have created := eq_ok_of_toOption created
  have run := run_of_toOption granted
  obtain ⟨-, range, tiles, first, last, found, -, placed, least, at_base, at_end⟩ :=
    (created_and_placed_least created).2 (.start created) run
  obtain rfl : held = range := Option.some.inj (on_record.symm.trans found)
  exact ⟨start, _, held, tiles, first, last, created, run, found, three, placed, least, at_base,
    at_end⟩

end Allocator

end GpuSched.Buddy
