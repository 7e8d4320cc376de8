import GpuSched.Proofs.Buddy.Steps
import GpuSched.Proofs.Buddy.Tiling
import Mathlib.Data.List.Forall2

/-!
# Claiming blocks

A search finds a listed block of one of the orders it looks at. Splitting it down ends at a loose
block of the wanted order: the leftmost one, or the one around a given position. Claiming the tiles
of a range hands out one block for each tile, or takes those it claimed back.
-/
namespace GpuSched.Buddy.Allocator

open Operation

variable {allocator : Allocator} {id : BlockId} {block : Block}

/-- The block that a search finds is listed, passes the test and has one of the orders. -/
theorem search_eq_ok {arena : Arena} (sound : arena.Sound) {backward : Bool}
    {accept : Nat → Block → Bool} {orders : List Nat}
    (run : search arena backward accept orders = .ok (some (id, block))) :
    block.order ∈ orders ∧ accept block.order block = true ∧ arena.block? id = some block ∧
      block.isListed = true := by
  induction orders with
  | nil => cases run
  | cons order orders ih =>
    simp only [search, bind_eq_ok_iff] at run
    obtain ⟨blocks, walked, run⟩ := run
    split at run
    · rename_i entry first
      obtain rfl := Option.some.inj (pure_eq_ok_iff.mp run)
      obtain ⟨found, same, listed⟩ :=
        Arena.of_mem_listed sound walked (List.mem_of_find?_eq_some first)
      have accepted := List.find?_some first
      rw [same]
      exact ⟨List.mem_cons_self, accepted, found, listed⟩
    · obtain ⟨mem, rest⟩ := ih run
      exact ⟨List.mem_cons_of_mem _ mem, rest⟩

/-- An order that is looked at is at least the wanted one. -/
theorem le_of_mem_ordersFrom {space : Space} {order other : Nat}
    (mem : other ∈ ordersFrom space order) : order ≤ other :=
  (List.mem_range'_1.mp mem).1

/-- A free block for a request is listed and large enough. -/
theorem findFree_eq_ok (tiled : allocator.Tiled) {order : Nat} {pageClass : PageClass}
    (run : allocator.findFree order pageClass = .ok (some (id, block))) :
    order ≤ block.order ∧ allocator.arena.block? id = some block ∧ block.isListed = true := by
  obtain ⟨mem, -, found, listed⟩ := search_eq_ok tiled.sound run
  exact ⟨le_of_mem_ordersFrom mem, found, listed⟩

/-- A free block around a tile is listed, large enough, and contains the start of the tile. -/
theorem findAround_eq_ok (tiled : allocator.Tiled) {tile : Tile} {pageClass : PageClass}
    (run : allocator.findAround tile pageClass = .ok (some (id, block))) :
    tile.order ≤ block.order ∧ allocator.arena.block? id = some block ∧
      block.isListed = true ∧ block.Covers tile.position := by
  obtain ⟨mem, accepted, found, listed⟩ := search_eq_ok tiled.sound run
  refine ⟨le_of_mem_ordersFrom mem, found, listed, ?_⟩
  obtain ⟨placed, -⟩ := Bool.and_eq_true_iff.mp accepted
  have position := of_decide_eq_true placed
  have positive := twoPow_pos block.order
  have whole := Nat.div_add_mod' tile.position (twoPow block.order)
  have rest := Nat.mod_lt tile.position positive
  unfold Block.Covers Block.span
  omega

/-- Splitting to the left ends at the leftmost part of the wanted order. -/
theorem yields_splitLeft (tiled : allocator.Tiled) {pageClass : PageClass} {levels : Nat}
    (found : allocator.arena.outline id = some block) (loose : block.state = .loose) :
    (splitLeft pageClass levels id).Yields allocator
      (fun result after => after.Tiled ∧ Spares [] allocator after ∧ ∃ part,
        after.arena.outline result = some part ∧ part.state = .loose ∧
        part.position = block.position ∧ part.order + levels = block.order)
      (Intact [] allocator) := by
  induction levels generalizing allocator id block with
  | zero => exact ⟨tiled, .refl [] allocator, block, found, loose, rfl, rfl⟩
  | succ levels ih =>
    unfold splitLeft
    rw [yields_bind]
    refine (yields_split tiled).imp fun halves first ⟨tiled, spares, whole, order, leftHalf,
      rightHalf, same, _, divided, at_left, left_loose, _⟩ => ?_
    rw [found, Option.some.injEq] at same
    subst same
    refine (ih tiled at_left left_loose).mono (fun result after ⟨tiled, rest, part, at_part,
      part_loose, position, lower⟩ => ?_) fun _ _ => .after spares
    have left_position := divided.left_position
    have left_order := divided.left_order
    have above := divided.above
    exact ⟨tiled, spares.then rest, part, at_part, part_loose, by omega, by omega⟩

/-- Splitting toward a position ends at the part of the wanted order around it. -/
theorem yields_splitToward (tiled : allocator.Tiled) {pageClass : PageClass} {levels position : Nat}
    (found : allocator.arena.outline id = some block) (loose : block.state = .loose)
    (covers : block.Covers position) :
    (splitToward position pageClass levels id).Yields allocator
      (fun result after => after.Tiled ∧ Spares [] allocator after ∧ ∃ part,
        after.arena.outline result = some part ∧ part.state = .loose ∧
        part.Covers position ∧ part.order + levels = block.order)
      (Intact [] allocator) := by
  induction levels generalizing allocator id block with
  | zero => exact ⟨tiled, .refl [] allocator, block, found, loose, covers, rfl⟩
  | succ levels ih =>
    unfold splitToward
    rw [yields_bind]
    refine (yields_split tiled).imp ?_
    rintro ⟨left, right⟩ first ⟨tiled, spares, whole, order, leftHalf, rightHalf, same, _, halves,
      at_left, left_loose, at_right⟩
    rw [found, Option.some.injEq] at same
    subst same
    dsimp only at halves at_left at_right ⊢
    have above := halves.above
    have left_order := halves.left_order
    have right_order := halves.right_order
    rw [yields_bind]
    refine yields_block (fun other found_right => ?_) fun _ halts => .inl halts
    have placed : other.position = rightHalf.position := by
      have drawn := Arena.outline_of_block? found_right
      rw [at_right, Option.some.injEq] at drawn
      rw [← Block.outline_position other, ← drawn]
    have sides := halves.covers_iff.mp covers
    split
    · rename_i before
      rw [placed] at before
      have on_left : leftHalf.Covers position :=
        sides.resolve_right fun on_right => absurd on_right.1 (by omega)
      refine (ih tiled at_left left_loose on_left).mono ?_ fun _ _ => .after spares
      rintro result after ⟨tiled, rest, part, at_part, part_loose, within, lower⟩
      exact ⟨tiled, spares.then rest, part, at_part, part_loose, within, by omega⟩
    · rename_i behind
      rw [placed] at behind
      have on_right : rightHalf.Covers position := by
        refine sides.resolve_left fun on_left => ?_
        have := on_left.2
        rw [halves.left_position, Block.span, left_order, ← halves.right_position] at this
        exact behind this
      have distinct : right ≠ left := by
        rintro rfl
        rw [at_right, Option.some.injEq] at at_left
        rw [← at_left] at left_loose
        cases left_loose
      simp only [yields_bind]
      refine (yields_unlink tiled).mono ?_ fun _ _ => .after spares
      rintro _ second ⟨tiled_second, unlinked, held, at_held, _, shown⟩
      have drawn := Arena.outline_of_block? at_held
      rw [at_right, Option.some.injEq] at drawn
      have held_position : held.position = rightHalf.position := by
        rw [← Block.outline_position held, ← drawn]
      have held_order : held.order = rightHalf.order := by
        rw [← Block.outline_order held, ← drawn]
      have so_far := spares.then unlinked
      refine (yields_list tiled_second).mono ?_ fun _ _ => .after so_far
      rintro _ third ⟨tiled_third, listed, _, _, _, also_shown⟩
      have at_other : third.arena.outline right = some { held with state := .loose } := by
        rw [also_shown, Function.update_of_ne distinct, shown, Function.update_self]
      have within : ({ held with state := .loose } : Block).Covers position := by
        unfold Block.Covers Block.span at on_right ⊢
        dsimp only
        rwa [held_position, held_order]
      refine (ih tiled_third at_other rfl within).mono ?_ fun _ _ => .after (so_far.then listed)
      rintro result after ⟨tiled, rest, part, at_part, part_loose, inside, lower⟩
      dsimp only at lower
      exact ⟨tiled, (so_far.then listed).then rest, part, at_part, part_loose, inside, by omega⟩

/-- The block of a tile is handed out under a handle. -/
def Placed (allocator : Allocator) (tile : Tile) (id : BlockId) : Prop :=
  ∃ block, allocator.arena.outline id = some block ∧ block.state = .allocated ∧
    block.position = tile.position ∧ block.order = tile.order

/-- A step that spares a block leaves it in its place. -/
theorem Placed.spared {before after : Allocator} {tile : Tile} {gone : List BlockId}
    (placed : before.Placed tile id) (spares : Spares gone before after) (spared : id ∉ gone) :
    after.Placed tile id := by
  obtain ⟨block, found, allocated, place⟩ := placed
  exact ⟨block, spares.allocated found allocated spared, allocated, place⟩

/-- A multiple of a length that starts a stretch of that length around another multiple is that
multiple. -/
theorem eq_of_multiples {first second length : Nat} (first_multiple : first % length = 0)
    (second_multiple : second % length = 0) (after : first ≤ second)
    (before : second < first + length) : first = second := by
  obtain ⟨one, rfl⟩ := Nat.dvd_of_mod_eq_zero first_multiple
  obtain ⟨other, rfl⟩ := Nat.dvd_of_mod_eq_zero second_multiple
  have positive : 0 < length := by omega
  have lower := Nat.le_of_mul_le_mul_left after positive
  have upper : other < one + 1 := Nat.lt_of_mul_lt_mul_left (a := length) (by rwa [Nat.mul_succ])
  obtain rfl : one = other := by omega
  rfl

/-- A claim answers a loose block in the place of the tile. -/
theorem yields_claim (tiled : allocator.Tiled) {tile : Tile} {pageClass : PageClass}
    (aligned : tile.position % twoPow tile.order = 0) :
    (claim tile pageClass).Yields allocator
      (fun result after => after.Tiled ∧ Spares [] allocator after ∧ ∀ id, result = some id →
        ∃ part, after.arena.outline id = some part ∧ part.state = .loose ∧
          part.position = tile.position ∧ part.order = tile.order)
      (Intact [] allocator) := by
  unfold claim
  simp only [yields_bind, yields_get]
  refine yields_lift_of (fun found run => ?_) fun failure _ => .inr ⟨tiled, .refl [] allocator⟩
  split
  · exact ⟨tiled, .refl [] allocator, fun _ impossible => by cases impossible⟩
  · rename_i id block
    obtain ⟨larger, under, listed, covers⟩ := findAround_eq_ok tiled run
    simp only [yields_bind]
    refine (yields_unlink tiled).imp fun _ first ⟨tiled_first, spares, held, at_held, _,
      shown⟩ => ?_
    rw [under, Option.some.injEq] at at_held
    subst at_held
    have at_block : first.arena.outline id = some { block with state := .loose } := by
      rw [shown, Function.update_self]
    refine (yields_splitToward tiled_first at_block rfl covers).mono (fun result after ⟨tiled_after,
      rest, part, at_part, loose, within, lower⟩ => ?_) fun _ _ => .after spares
    refine ⟨tiled_after, spares.then rest, fun other same => ?_⟩
    obtain rfl := Option.some.inj same
    dsimp only at lower
    have order : part.order = tile.order := by omega
    refine ⟨part, at_part, loose, ?_, order⟩
    have multiple := (tiled_after.forest.fits at_part).aligned
    unfold Block.Covers at within
    unfold Block.span at within multiple
    rw [order] at within multiple
    exact eq_of_multiples multiple aligned within.1 within.2

/-- Taking blocks back keeps the tiling and spares the other blocks. -/
theorem yields_forM_release (tiled : allocator.Tiled) (ids : List BlockId) :
    (ids.forM release).Yields allocator
      (fun _ after => after.Tiled ∧ Spares ids allocator after) (Intact ids allocator) := by
  refine yields_forM_of_kept ⟨tiled, .refl ids allocator⟩ fun id mem middle ⟨tiled, spares⟩ => ?_
  refine (yields_release tiled).mono (fun _ after ⟨tiled, rest⟩ => ⟨tiled, ?_⟩)
    fun _ after intact => intact.imp_right fun ⟨tiled, rest⟩ => ⟨tiled, ?_⟩
  · exact spares.trans rest fun other same => .inl (List.mem_singleton.mp same ▸ mem)
  · exact spares.trans rest fun other same => .inl (List.mem_singleton.mp same ▸ mem)

/-- Claiming the tiles of a range hands out a block for each of them, or keeps what was claimed
neither by then nor before. -/
theorem yields_claimAll (tiled : allocator.Tiled) {pageClass : PageClass} {tiles : List Tile}
    {claimed : List BlockId}
    (aligned : ∀ tile ∈ tiles, tile.position % twoPow tile.order = 0) :
    (claimAll pageClass tiles claimed).Yields allocator
      (fun ids after => after.Tiled ∧ Spares [] allocator after ∧ ∃ fresh,
        ids = claimed.reverse ++ fresh ∧ List.Forall₂ after.Placed tiles fresh ∧
        ∀ id ∈ fresh, allocator.Unused id)
      (Intact claimed allocator) := by
  induction tiles generalizing allocator claimed with
  | nil =>
    refine ⟨tiled, .refl [] allocator, [], ?_, .nil, ?_⟩
    · rw [List.append_nil]
    · simp
  | cons tile tiles ih =>
    unfold claimAll
    rw [yields_bind]
    refine (yields_claim tiled (aligned tile List.mem_cons_self)).mono
      (fun result first ⟨tiled_first, spares, found⟩ => ?_)
      fun _ _ intact => intact.mono (List.nil_subset claimed)
    split
    · rename_i id _
      obtain ⟨part, at_part, loose, position, order⟩ := found id rfl
      have unused : allocator.Unused id := by
        refine spares.unused (unused_of_outline at_part ?_)
        rw [loose]
        exact BlockState.noConfusion
      rw [yields_bind]
      refine (yields_markAllocated tiled_first).mono (fun _ second ⟨tiled_second, marked, held,
        at_held, _, shown⟩ => ?_)
        fun _ _ intact => .after spares (intact.mono (List.nil_subset claimed))
      rw [at_part, Option.some.injEq] at at_held
      subst at_held
      have so_far := spares.then marked
      refine (ih tiled_second fun other mem => aligned other (List.mem_cons_of_mem _ mem)).mono
        (fun ids after ⟨tiled_after, rest, fresh, all, placed, unused_before⟩ => ?_)
        fun _ _ intact => ?_
      · refine ⟨tiled_after, so_far.then rest, id :: fresh, by simp [all], .cons ?_ placed, ?_⟩
        · have at_id : second.arena.outline id = some { part with state := .allocated } := by
            rw [shown, Function.update_self]
          have at_tile : second.Placed tile id := ⟨_, at_id, rfl, position, order⟩
          exact at_tile.spared rest List.not_mem_nil
        · intro other mem
          rcases List.mem_cons.mp mem with rfl | mem
          · exact unused
          · exact so_far.unused (unused_before other mem)
      · refine intact.imp_right fun ⟨tiled, rest⟩ => ⟨tiled, ?_⟩
        refine Spares.trans (so_far.mono (List.nil_subset claimed)) rest fun other mem => ?_
        rcases List.mem_cons.mp mem with rfl | mem
        · exact .inr unused
        · exact .inl mem
    · rw [yields_bind]
      refine (yields_forM_release tiled_first claimed.reverse).mono
        (fun _ after ⟨tiled_after, rest⟩ => ?_) fun _ _ intact => .after spares ?_
      · exact .inr ⟨tiled_after, spares.then (rest.mono (by simp))⟩
      · exact intact.mono (by simp)

end GpuSched.Buddy.Allocator
