import GpuSched.Proofs.Buddy.Carving

/-!
# Placing a range

The tiles of a range are claimed one after another. If nothing in the range is handed out, each of
them lies in one free block, so the range is refused just when a free block in it does not serve the
class: what the earlier tiles leave free serves it, and what they leave alone still does not. A
range that is refused is given back as it was.
-/
namespace GpuSched.Buddy

/-- A block has a unit of a range of units. -/
def Block.Touches (block : Block) (first last : Nat) : Prop :=
  max block.position first < min (block.position + block.span) last

/-- A block that has a unit of the rest of a range has one of the range. -/
theorem Block.Touches.of_behind {block : Block} {first middle last : Nat}
    (touches : block.Touches middle last) (le : first ≤ middle) : block.Touches first last := by
  unfold Block.Touches at touches ⊢
  omega

/-- Nothing in a range is handed out. -/
def Untaken (blocks : BlockId → Option Block) (first last : Nat) : Prop :=
  ∀ id block, HandedOut blocks id block → ¬ block.Touches first last

/-- The free blocks in a range serve a class. -/
def Served (blocks : BlockId → Option Block) (pageClass : PageClass) (first last : Nat) : Prop :=
  ∀ id block, blocks id = some block → block.isListed = true → block.Touches first last →
    block.pageClass.accepts pageClass = true

/-- A free block other than the one around a tile touches a range behind the tile as it touches the
range with the tile. -/
theorem Forest.touches_behind {units maxOrder : Nat} {blocks : BlockId → Option Block}
    (forest : Forest units maxOrder blocks) {id other : BlockId} {block held : Block} {tile : Tile}
    {last : Nat} (found : blocks id = some block) (leaf : block.isLeaf = true)
    (within : tile.Within block.tile) (under : blocks other = some held)
    (other_leaf : held.isLeaf = true) (apart : other ≠ id)
    (touches : held.Touches tile.position last) : held.Touches tile.stop last := by
  unfold Block.Touches at touches ⊢
  by_contra before
  have positive : held.position < held.position + held.span := held.tile.position_lt_stop
  have ends : tile.stop ≤ block.position + block.span := within.2
  have starts : block.position ≤ tile.position := within.1
  have nonempty := tile.position_lt_stop
  have first : LeafAt blocks other (max held.position tile.position) :=
    ⟨held, under, other_leaf, by omega, by omega⟩
  have second : LeafAt blocks id (max held.position tile.position) :=
    ⟨block, found, leaf, by omega, by omega⟩
  exact apart (forest.leafAt_unique first second)

namespace Allocator

open Operation

section Placement

variable {allocator : Allocator} {pageClass : PageClass}

/-- With nothing in hand and all free halves joined, the blocks are tidy. -/
theorem Settled.tidy (settled : allocator.Settled []) (merged : Merged allocator.arena.outline) :
    Tidy allocator.space.units allocator.space.maxOrder allocator.arena.outline where
  forest := settled.forest
  merged := merged
  not_loose found loose := List.not_mem_nil (settled.in_hand found loose)
  roots := settled.roots

/-- A claim in an untaken range that finds nothing meets a free block that does not serve. -/
theorem not_served_of_nothing (settled : allocator.Settled [])
    (merged : Merged allocator.arena.outline) {tile : Tile} {last : Nat}
    (is_cell : tile.IsCell allocator.space.units allocator.space.maxOrder)
    (ends : tile.stop ≤ last) (untaken : Untaken allocator.arena.outline tile.position last)
    (nothing : ∀ {id block}, allocator.arena.outline id = some block → block.isListed = true →
      tile.Within block.tile → block.pageClass.accepts pageClass = false) :
    ¬ Served allocator.arena.outline pageClass tile.position last := by
  intro served
  have free : ∀ inner, HoldsAt allocator.arena.outline Block.isAllocated inner →
      ¬ tile.Meets inner := by
    rintro inner ⟨id, block, found, allocated, rfl⟩ meets
    have handed : HandedOut allocator.arena.outline id block :=
      ⟨found, of_decide_eq_true allocated⟩
    have touches : block.Touches tile.position last := by
      have before : block.position < tile.stop := meets.2
      have after : tile.position < block.position + block.span := meets.1
      have nonempty := tile.position_lt_stop
      have positive : block.position < block.position + block.span := block.tile.position_lt_stop
      unfold Block.Touches
      omega
    exact untaken id block handed touches
  obtain ⟨id, block, found, listed, within⟩ :=
    (settled.tidy merged).exists_free_around is_cell free
  have touches : block.Touches tile.position last := by
    have before : block.position ≤ tile.position := within.1
    have after : tile.stop ≤ block.position + block.span := within.2
    have nonempty := tile.position_lt_stop
    unfold Block.Touches
    omega
  have serves := served id block found listed touches
  rw [nothing found listed within] at serves
  cases serves

/-- After a tile is claimed, the rest of the range is served just when the whole of it was. -/
theorem Claimed.served_iff {before after : Allocator} {tile : Tile} {hand : List BlockId}
    {id : BlockId} {last : Nat} (claimed : Claimed pageClass tile hand before id after)
    (forest : Forest before.space.units before.space.maxOrder before.arena.outline) :
    Served after.arena.outline pageClass tile.stop last ↔
      Served before.arena.outline pageClass tile.position last := by
  obtain ⟨whole, block, at_whole, listed, serves, within, kept⟩ := claimed.source
  have leaf := Block.isLeaf_of_isListed listed
  constructor
  · intro served other held found free touches
    by_cases same : other = whole
    · subst same
      obtain rfl : block = held := Option.some.inj (at_whole.symm.trans found)
      exact serves
    · have behind := forest.touches_behind at_whole leaf within found
        (Block.isLeaf_of_isListed free) same touches
      exact served other held (kept found free same) free behind
  · intro served other held found free touches
    rcases claimed.fresh found free with old | accepts
    · exact served other held old free (touches.of_behind (Nat.le_of_lt tile.position_lt_stop))
    · exact accepts

/-- What claiming the tiles of a range leaves of the rest of it. -/
theorem served_relabel {blocks : BlockId → Option Block} {id : BlockId} {block : Block}
    {first last : Nat} {state : BlockState} (found : blocks id = some block)
    (before : block.isListed = false) (after : ({ block with state } : Block).isListed = false) :
    Served (Function.update blocks id (some { block with state })) pageClass first last ↔
      Served blocks pageClass first last := by
  have same : ∀ other held, held.isListed = true →
      (Function.update blocks id (some { block with state }) other = some held ↔
        blocks other = some held) := by
    intro other held listed
    rw [update_eq_some_iff]
    constructor
    · rintro (⟨-, changed⟩ | ⟨-, present⟩)
      · obtain rfl := Option.some.inj changed
        rw [after] at listed
        cases listed
      · exact present
    · intro present
      refine .inr ⟨?_, present⟩
      rintro rfl
      obtain rfl : block = held := Option.some.inj (found.symm.trans present)
      rw [before] at listed
      cases listed
  unfold Served
  constructor
  · exact fun served other held present listed =>
      served other held ((same other held listed).mpr present) listed
  · exact fun served other held present listed =>
      served other held ((same other held listed).mp present) listed

/-- What an untaken range is behind a tile that is handed out of it. -/
theorem untaken_behind {before after : BlockId → Option Block} (tile : Tile) {id : BlockId}
    {part : Block} {last : Nat} (place : part.tile = tile)
    (handed : ∀ other held, HandedOut after other held →
      other = id ∧ held = part ∨ HandedOut before other held)
    (untaken : Untaken before tile.position last) : Untaken after tile.stop last := by
  intro other held present touches
  rcases handed other held present with ⟨-, rfl⟩ | old
  · have ends : tile.stop = held.position + held.span := by
      rw [← place]
      rfl
    unfold Block.Touches at touches
    omega
  · exact untaken other held old (touches.of_behind (Nat.le_of_lt tile.position_lt_stop))

/-- After a claimed tile is handed out, that is what is handed out besides what was before. -/
theorem handedOut_of_claimed {middle after : Allocator} {tile : Tile} {hand : List BlockId}
    {id : BlockId} {part : Block} (claim : Claimed pageClass tile hand allocator id middle)
    (at_part : middle.arena.outline id = some part) (loose : part.state = .loose)
    (shown : after.arena.outline =
      Function.update middle.arena.outline id (some { part with state := .allocated })) :
    (∀ held, ¬ HandedOut allocator.arena.outline id held) ∧
      ∀ other held, HandedOut after.arena.outline other held ↔
        other = id ∧ held = { part with state := .allocated } ∨
          HandedOut allocator.arena.outline other held := by
  have unused : ∀ held, ¬ HandedOut allocator.arena.outline id held := by
    intro held old
    obtain ⟨present, allocated⟩ := (claim.handedOut id held).mpr old
    obtain rfl : part = held := Option.some.inj (at_part.symm.trans present)
    rw [loose] at allocated
    cases allocated
  refine ⟨unused, fun other held => ?_⟩
  rw [shown, handedOut_update_iff, claim.handedOut]
  constructor
  · rintro (⟨same, rfl, -⟩ | ⟨-, old⟩)
    · exact .inl ⟨same, rfl⟩
    · exact .inr old
  · rintro (⟨same, rfl⟩ | old)
    · exact .inl ⟨same, rfl, rfl⟩
    · refine .inr ⟨?_, old⟩
      rintro rfl
      exact unused held old

/-- The tiles of a range are claimed, or the range is given back; in an untaken range this depends
on whether its free blocks serve the class. -/
theorem settles_claimAll {cap first last : Nat} (settled : allocator.Settled [])
    (merged : Merged allocator.arena.outline) (same_cap : allocator.space.maxOrder = cap)
    (inside : last ≤ allocator.space.units) {claimed : List BlockId} (nodup : claimed.Nodup)
    (handed : ∀ id ∈ claimed, ∃ block, HandedOut allocator.arena.outline id block) :
    (claimAll pageClass (tiling cap first last) claimed).Yields allocator
      (fun ids after => after.Settled [] ∧ SameBooks allocator after ∧
        Merged after.arena.outline ∧
        (∃ fresh, ids = claimed.reverse ++ fresh ∧ ∀ other held,
          HandedOut after.arena.outline other held →
            HandedOut allocator.arena.outline other held ∨ other ∈ fresh) ∧
        (Untaken allocator.arena.outline first last →
          Served allocator.arena.outline pageClass first last))
      (fun failure after => allocator.Crowded failure ∨
        failure = .refused .exhausted ∧ after.Settled [] ∧ SameBooks allocator after ∧
        Merged after.arena.outline ∧
        (∀ other held, HandedOut after.arena.outline other held ↔
          other ∉ claimed ∧ HandedOut allocator.arena.outline other held) ∧
        (Untaken allocator.arena.outline first last →
          ¬ Served allocator.arena.outline pageClass first last)) := by
  fun_induction tiling cap first last generalizing allocator claimed with
  | case2 first outside =>
    refine ⟨settled, .refl allocator, merged, ⟨[], by simp, fun _ _ => .inl⟩, ?_⟩
    intro _ id block _ _ touches
    unfold Block.Touches at touches
    omega
  | case1 first below order =>
    rename_i ih
    obtain ⟨ends, aligned, capped⟩ := tileOrder_fits cap below
    have is_cell : Tile.IsCell ⟨first, order⟩ allocator.space.units allocator.space.maxOrder :=
      ⟨aligned, same_cap ▸ capped, Nat.le_trans ends inside⟩
    unfold claimAll
    rw [yields_bind]
    refine (settles_claim settled merged is_cell.aligned).mono (fun result middle outcome => ?_)
      fun _ _ => .inl
    rcases outcome with ⟨rfl, rfl, nothing⟩ | ⟨id, rfl, claim⟩
    · dsimp only
      rw [yields_bind]
      refine (settles_forM_release settled merged (List.nodup_reverse.mpr nodup)
        fun id mem => handed id (List.mem_reverse.mp mem)).mono ?_ fun _ _ => False.elim
      rintro _ after ⟨settled_after, books, merged_after, kept⟩
      refine .inr ⟨rfl, settled_after, books, merged_after, fun other held => ?_, fun untaken => ?_⟩
      · rw [kept, List.mem_reverse]
      · exact not_served_of_nothing settled merged is_cell ends untaken nothing
    · dsimp only
      obtain ⟨part, at_part, loose, place⟩ := claim.part
      rw [yields_bind]
      refine (settles_markAllocated claim.settled at_part loose).mono ?_ fun _ _ => False.elim
      rintro _ second ⟨settled_second, books_second, shown⟩
      have books := claim.books.trans books_second
      have unlisted : part.isListed = false := Block.isListed_of_loose loose
      have merged_second : Merged second.arena.outline := claim.merged.relabel rfl shown
      obtain ⟨unused, now⟩ := handedOut_of_claimed claim at_part loose shown
      have fresh_nodup : (id :: claimed).Nodup := by
        refine List.nodup_cons.mpr ⟨fun mem => ?_, nodup⟩
        obtain ⟨held, old⟩ := handed id mem
        exact unused held old
      have fresh_handed : ∀ other ∈ id :: claimed,
          ∃ held, HandedOut second.arena.outline other held := by
        intro other mem
        rcases List.mem_cons.mp mem with rfl | mem
        · exact ⟨_, (now other _).mpr (.inl ⟨rfl, rfl⟩)⟩
        · obtain ⟨held, old⟩ := handed other mem
          exact ⟨held, (now other held).mpr (.inr old)⟩
      have rest_untaken : Untaken allocator.arena.outline first last →
          Untaken second.arena.outline (first + twoPow order) last := by
        have same_place : ({ part with state := .allocated } : Block).tile = ⟨first, order⟩ := place
        exact untaken_behind ⟨first, order⟩ same_place fun other held => (now other held).mp
      have rest_served : Served second.arena.outline pageClass (first + twoPow order) last ↔
          Served allocator.arena.outline pageClass first last := by
        rw [shown, served_relabel at_part unlisted rfl]
        exact claim.served_iff settled.forest
      have next := ih settled_second merged_second (by rw [books.space, same_cap])
        (by rw [books.space]; exact inside) fresh_nodup fresh_handed
      refine next.mono ?_ fun failure after failed => ?_
      · rintro ids after ⟨settled_after, books_after, merged_after, ⟨fresh, all, handed_after⟩,
          served⟩
        refine ⟨settled_after, books.trans books_after, merged_after, ⟨id :: fresh, ?_,
          fun other held present => ?_⟩,
          fun untaken => rest_served.mp (served (rest_untaken untaken))⟩
        · rw [all, List.reverse_cons, List.append_assoc]
          rfl
        · rcases handed_after other held present with earlier | mem
          · rcases (now other held).mp earlier with ⟨rfl, -⟩ | old
            · exact .inr List.mem_cons_self
            · exact .inl old
          · exact .inr (List.mem_cons_of_mem _ mem)
      · rcases failed with crowded | ⟨refused, settled_after, books_after, merged_after, kept,
          not_served⟩
        · exact .inl (books.crowded crowded)
        · refine .inr ⟨refused, settled_after, books.trans books_after, merged_after,
            fun other held => ?_, fun untaken served =>
              not_served (rest_untaken untaken) (rest_served.mpr served)⟩
          rw [kept, now, List.mem_cons]
          constructor
          · rintro ⟨absent, ⟨same, -⟩ | old⟩
            · exact absurd (.inl same) absent
            · exact ⟨fun mem => absent (.inr mem), old⟩
          · rintro ⟨absent, old⟩
            refine ⟨?_, .inr old⟩
            rintro (rfl | mem)
            · exact unused held old
            · exact absent mem

end Placement

end Allocator

end GpuSched.Buddy
