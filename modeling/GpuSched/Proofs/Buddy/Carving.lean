import GpuSched.Proofs.Buddy.Claims
import GpuSched.Proofs.Buddy.Merging

/-!
# Carving a block out of a free one

A search of the free lists answers, and it finds a block when there is one to find. Splitting the
block down leaves one part in hand and the rest free, so what is handed out and what else is free
stays, and every new free part serves whom the block was split for.

Splitting to the left and splitting toward a position take different halves, but both are a chain
of cuts (`Descends`). What one cut keeps is kept by either of them, by induction on the chain.
-/
namespace GpuSched.Buddy.Allocator

open Operation

section Carving

variable {allocator : Allocator} {id : BlockId} {block : Block} {hand : List BlockId}
  {pageClass : PageClass}

/-- A search looks through the free list of the first order, and through the others when no block
there passes the test. -/
theorem search_cons {arena : Arena} {backward : Bool} {accept : Nat → Block → Bool} {order : Nat}
    {orders : List Nat} {blocks : List (BlockId × Block)}
    (walked : arena.listed order backward = .ok blocks) :
    search arena backward accept (order :: orders) =
      match blocks.find? fun listed => accept order listed.2 with
      | some found => .ok (some found)
      | none => search arena backward accept orders := by
  simp only [search, walked, bind, Except.bind]
  rfl

/-- A search answers, and when it finds nothing no free block passes the test. -/
theorem exists_search {arena : Arena} (sound : arena.Sound) (backward : Bool)
    (accept : Nat → Block → Bool) (orders : List Nat)
    (room : ∀ order ∈ orders, order < arena.lists.size) :
    ∃ result, search arena backward accept orders = .ok result ∧
      (result = none → ∀ {id block}, arena.block? id = some block → block.isListed = true →
        block.order ∈ orders → accept block.order block = false) := by
  induction orders with
  | nil => exact ⟨none, rfl, fun _ _ _ _ _ mem => by cases mem⟩
  | cons order orders ih =>
    obtain ⟨result, run, nothing⟩ := ih fun other mem => room other (List.mem_cons_of_mem _ mem)
    obtain ⟨blocks, walked, listed⟩ :=
      Arena.exists_listed sound (room order List.mem_cons_self) backward
    cases first : blocks.find? fun listed => accept order listed.2 with
    | some found =>
      refine ⟨some found, ?_, fun impossible => by cases impossible⟩
      rw [search_cons walked, first]
    | none =>
      refine ⟨result, ?_, fun missing id block under free mem => ?_⟩
      · rw [search_cons walked, first]
        exact run
      · rcases List.mem_cons.mp mem with same | mem
        · have there := (listed id block).mpr ⟨under, same, free⟩
          have fails := List.find?_eq_none.mp first _ there
          rw [same]
          simpa using fails
        · exact nothing missing under free mem

/-- The orders that are looked at. -/
theorem mem_ordersFrom_iff {space : Space} {order other : Nat} :
    other ∈ ordersFrom space order ↔ order ≤ other ∧ other ≤ space.maxOrder := by
  unfold ordersFrom
  rw [List.mem_range'_1]
  omega

/-- The orders that are looked at have free lists. -/
theorem Settled.lists_of_ordersFrom (settled : allocator.Settled hand) {order other : Nat}
    (mem : other ∈ ordersFrom allocator.space order) : other < allocator.arena.lists.size := by
  rw [settled.housed.lists]
  exact Nat.lt_succ_of_le (mem_ordersFrom_iff.mp mem).2

/-- A search around a tile answers, and when it finds nothing no free block around the tile serves
the class. -/
theorem exists_findAround (settled : allocator.Settled hand) (tile : Tile)
    (pageClass : PageClass) :
    ∃ result, allocator.findAround tile pageClass = .ok result ∧
      (result = none → ∀ {id block}, allocator.arena.outline id = some block →
        block.isListed = true → tile.Within block.tile →
          block.pageClass.accepts pageClass = false) := by
  obtain ⟨result, run, nothing⟩ := exists_search settled.sound false
    (fun order block => block.position = tile.position / twoPow order * twoPow order &&
      block.pageClass.accepts pageClass) (ordersFrom allocator.space tile.order)
    fun _ => settled.lists_of_ordersFrom
  refine ⟨result, run, fun missing id drawn found listed within => ?_⟩
  obtain ⟨block, under, rfl⟩ := Arena.block?_of_outline found
  have capped := (settled.forest.fits found).capped
  have place := settled.forest.aligned found
  unfold Tile.Within Tile.stop at within
  unfold Tile.Aligned at place
  rw [Block.isListed_outline] at listed
  simp only [Block.tile_position, Block.tile_order, Block.outline_position, Block.outline_order]
    at within place capped
  have larger : tile.order ≤ block.order := by
    have spans : twoPow tile.order ≤ twoPow block.order := by omega
    exact le_of_twoPow_le spans
  have refused := nothing missing under listed (mem_ordersFrom_iff.mpr ⟨larger, capped⟩)
  have start : block.position = tile.position / twoPow block.order * twoPow block.order := by
    obtain ⟨factor, multiple⟩ := Nat.dvd_of_mod_eq_zero place
    have positive := twoPow_pos tile.order
    have quotient : tile.position / twoPow block.order = factor := by
      rw [Nat.div_eq_iff (twoPow_pos block.order)]
      rw [Nat.mul_comm] at multiple
      omega
    rw [quotient, multiple, Nat.mul_comm]
  rw [decide_eq_true start, Bool.true_and] at refused
  rwa [Block.outline_pageClass]

/-- Nothing is handed out or taken back, free blocks stay, and new ones serve a class. -/
structure Carved (pageClass : PageClass) (before after : BlockId → Option Block) : Prop where
  handedOut : ∀ id block, HandedOut after id block ↔ HandedOut before id block
  kept : ∀ {id block}, before id = some block → block.isListed = true → after id = some block
  fresh : ∀ {id block}, after id = some block → block.isListed = true →
    before id = some block ∨ block.pageClass.accepts pageClass = true

/-- Nothing happened. -/
theorem Carved.refl (pageClass : PageClass) (blocks : BlockId → Option Block) :
    Carved pageClass blocks blocks :=
  ⟨fun _ _ => Iff.rfl, fun found _ => found, fun found _ => .inl found⟩

/-- One carving after another. -/
theorem Carved.trans {before middle after : BlockId → Option Block}
    (one : Carved pageClass before middle) (two : Carved pageClass middle after) :
    Carved pageClass before after where
  handedOut id block := (two.handedOut id block).trans (one.handedOut id block)
  kept found listed := two.kept (one.kept found listed) listed
  fresh found listed := (two.fresh found listed).elim (fun old => one.fresh old listed) .inr

/-- Halving a loose block is carving. -/
theorem carved_of_halved {blocks : BlockId → Option Block} {left right : BlockId}
    {leftHalf rightHalf : Block} {order : Nat}
    (halved : Halved blocks id left right block leftHalf rightHalf order)
    {space : Space} (left_class : leftHalf.pageClass = halfClass space order pageClass)
    (right_class : rightHalf.pageClass = halfClass space order pageClass) :
    Carved pageClass blocks (withHalves blocks id left right block leftHalf rightHalf) where
  handedOut _ _ := halved.handedOut_iff
  kept {other held} found listed := by
    refine halved.kept found ?_
    rintro rfl
    obtain rfl : block = held := Option.some.inj (halved.found.symm.trans found)
    unfold Block.isListed at listed
    rw [halved.loose] at listed
    cases listed
  fresh present listed := by
    rcases halved.listed_cases present listed with old | ⟨-, rfl⟩ | ⟨-, rfl⟩
    · exact .inl old
    · exact .inr (left_class ▸ accepts_halfClass ..)
    · exact .inr (right_class ▸ accepts_halfClass ..)

/-- What carving a loose block in hand leaves: one part of it is in hand instead. -/
structure Carves (pageClass : PageClass) (hand : List BlockId) (before : Allocator)
    (part : BlockId) (after : Allocator) : Prop where
  settled : after.Settled (part :: hand)
  books : SameBooks before after
  merged : Merged after.arena.outline
  carved : Carved pageClass before.arena.outline after.arena.outline

/-- Carving goes on after a first cut. -/
theorem Carves.after {before middle after : Allocator} {first part : BlockId}
    (one : Carves pageClass hand before first middle)
    (two : Carves pageClass hand middle part after) : Carves pageClass hand before part after :=
  ⟨two.settled, one.books.trans two.books, two.merged, one.carved.trans two.carved⟩

/-- Splitting a loose block once and going on with its left half. -/
theorem carves_split (settled : allocator.Settled (id :: hand))
    (merged : Merged allocator.arena.outline) (found : allocator.arena.outline id = some block)
    (loose : block.state = .loose) {order : Nat} (above : block.order = order + 1)
    (pageClass : PageClass) :
    (split id pageClass).Yields allocator
      (fun halves after => Carves pageClass hand allocator halves.1 after ∧
        ∃ leftHalf rightHalf,
          Halved allocator.arena.outline id halves.1 halves.2 block leftHalf rightHalf order ∧
          leftHalf.state = .loose ∧ rightHalf.state = .listed none none ∧
          leftHalf.pageClass = halfClass allocator.space order pageClass ∧
          rightHalf.pageClass = halfClass allocator.space order pageClass ∧
          after.arena.outline =
            withHalves allocator.arena.outline id halves.1 halves.2 block leftHalf rightHalf)
      (fun failure _ => allocator.Crowded failure) := by
  refine (settles_split settled found loose above pageClass).imp fun halves after
    ⟨settled_after, books, leftHalf, rightHalf, halved, left_loose, right_listed, left_class,
      right_class, outline⟩ => ?_
  have left_unlisted : leftHalf.isListed = false := Block.isListed_of_loose left_loose
  refine ⟨⟨settled_after, books, ?_, ?_⟩, leftHalf, rightHalf, halved, left_loose, right_listed,
    left_class, right_class, outline⟩
  · rw [outline]
    exact halved.merged settled.forest merged (.inl left_unlisted)
  · rw [outline]
    exact carved_of_halved halved left_class right_class

/-- A loose block in hand is cut for a page size: one of its halves is in hand instead, and the
other one is free. -/
structure Cuts (pageClass : PageClass) (hand : List BlockId) (before : Allocator) (id : BlockId)
    (block : Block) (part : BlockId) (half : Block) (after : Allocator) : Prop where
  carves : Carves pageClass hand before part after
  loose : half.state = .loose
  halves : ∃ left right leftHalf rightHalf order,
    Halved before.arena.outline id left right block leftHalf rightHalf order ∧
    leftHalf.pageClass = halfClass before.space order pageClass ∧
    rightHalf.pageClass = halfClass before.space order pageClass ∧
    after.arena.outline =
      withHalves before.arena.outline id left right block leftHalf rightHalf ∧
    (part = left ∧ half = leftHalf ∨ part = right ∧ half = rightHalf)

/-- The half in hand is one of the blocks. -/
theorem Cuts.at_part {before after : Allocator} {part : BlockId} {half : Block}
    (cuts : Cuts pageClass hand before id block part half after) :
    after.arena.outline part = some half := by
  obtain ⟨left, right, leftHalf, rightHalf, order, halved, -, -, outline, sides⟩ := cuts.halves
  rw [outline]
  rcases sides with ⟨rfl, rfl⟩ | ⟨rfl, rfl⟩
  · exact withHalves_left halved.apart.1 halved.distinct
  · exact withHalves_right halved.apart.2

/-- A loose block in hand is cut again and again, until a part of it is in hand. -/
inductive Descends (pageClass : PageClass) (hand : List BlockId) :
    Allocator → BlockId → Block → Allocator → BlockId → Block → Prop
  | stays (allocator : Allocator) (id : BlockId) (block : Block) :
      Descends pageClass hand allocator id block allocator id block
  | cuts {before middle after : Allocator} {id first part : BlockId}
      {block firstHalf half : Block}
      (one : Cuts pageClass hand before id block first firstHalf middle)
      (rest : Descends pageClass hand middle first firstHalf after part half) :
      Descends pageClass hand before id block after part half

namespace Descends

variable {before after : Allocator} {part : BlockId} {half : Block}

/-- A descent is carving. -/
theorem carves (descends : Descends pageClass hand before id block after part half)
    (settled : before.Settled (id :: hand)) (merged : Merged before.arena.outline) :
    Carves pageClass hand before part after := by
  induction descends with
  | stays allocator => exact ⟨settled, .refl allocator, merged, .refl pageClass _⟩
  | cuts one _ ih => exact one.carves.after (ih one.carves.settled one.carves.merged)

/-- A descent ends at one of the blocks, and at a loose one. -/
theorem ends (descends : Descends pageClass hand before id block after part half)
    (found : before.arena.outline id = some block) (loose : block.state = .loose) :
    after.arena.outline part = some half ∧ half.state = .loose := by
  induction descends with
  | stays => exact ⟨found, loose⟩
  | cuts one _ ih => exact ih one.at_part one.loose

end Descends

/-- A loose block in hand is split to the left, unless all handles are taken. -/
theorem descends_splitLeft (settled : allocator.Settled (id :: hand))
    (merged : Merged allocator.arena.outline) {levels : Nat}
    (found : allocator.arena.outline id = some block) (loose : block.state = .loose)
    (deep : levels ≤ block.order) :
    (splitLeft pageClass levels id).Yields allocator
      (fun part after => ∃ half, Descends pageClass hand allocator id block after part half ∧
        half.position = block.position ∧ half.order + levels = block.order)
      (fun failure _ => allocator.Crowded failure) := by
  induction levels generalizing allocator id block with
  | zero => exact ⟨block, .stays allocator id block, rfl, rfl⟩
  | succ levels ih =>
    obtain ⟨order, above⟩ : ∃ order, block.order = order + 1 := ⟨block.order - 1, by omega⟩
    unfold splitLeft
    rw [yields_bind]
    refine (carves_split settled merged found loose above pageClass).imp ?_
    rintro ⟨left, right⟩ first ⟨carves, leftHalf, rightHalf, halved, left_loose, -, left_class,
      right_class, outline⟩
    dsimp only at carves halved outline
    have cuts : Cuts pageClass hand allocator id block left leftHalf first :=
      ⟨carves, left_loose, left, right, leftHalf, rightHalf, order, halved, left_class,
        right_class, outline, .inl ⟨rfl, rfl⟩⟩
    have left_position := halved.halves.left_position
    have left_order := halved.halves.left_order
    refine (ih carves.settled carves.merged cuts.at_part left_loose (by omega)).mono ?_
      fun _ _ => carves.books.crowded
    rintro part after ⟨half, rest, position, lower⟩
    exact ⟨half, .cuts cuts rest, by omega, by omega⟩

/-- When the halves of a block change places, the block was cut to the right. -/
theorem cuts_swap (settled : allocator.Settled (id :: hand))
    (merged : Merged allocator.arena.outline) {left right : BlockId} {leftHalf rightHalf : Block}
    {order : Nat} {middle : Allocator}
    (halved : Halved allocator.arena.outline id left right block leftHalf rightHalf order)
    (carves : Carves pageClass hand allocator left middle) (left_loose : leftHalf.state = .loose)
    (right_listed : rightHalf.state = .listed none none)
    (left_class : leftHalf.pageClass = halfClass allocator.space order pageClass)
    (right_class : rightHalf.pageClass = halfClass allocator.space order pageClass)
    (outline : middle.arena.outline =
      withHalves allocator.arena.outline id left right block leftHalf rightHalf) :
    (do changeArena (·.unlink right); list left).Yields middle
      (fun _ after =>
        Cuts pageClass hand allocator id block right { rightHalf with state := .loose } after)
      (fun _ _ => False) := by
  obtain ⟨left_apart, right_apart⟩ := halved.apart
  have at_left : middle.arena.outline left = some leftHalf := by
    rw [outline, withHalves_left left_apart halved.distinct]
  have at_right : middle.arena.outline right = some rightHalf := by
    rw [outline, withHalves_right right_apart]
  have listed : rightHalf.isListed = true := Block.isListed_iff.mpr ⟨_, _, right_listed⟩
  rw [yields_bind]
  refine (settles_unlink carves.settled at_right listed).mono (fun _ second ⟨settled_second,
    books_second, shown_second⟩ => ?_) fun _ _ => False.elim
  have still_left : second.arena.outline left = some leftHalf := by
    rw [shown_second, Function.update_of_ne halved.distinct, at_left]
  have in_hand : second.Settled (left :: right :: hand) :=
    settled_second.perm (List.Perm.swap right left hand)
  refine (settles_list in_hand still_left left_loose).mono (fun _ after ⟨settled_after, books_after,
    shown_after⟩ => ?_) fun _ _ => False.elim
  have swapped : after.arena.outline = withHalves allocator.arena.outline id left right block
      { leftHalf with state := .listed none none } { rightHalf with state := .loose } := by
    rw [shown_after, shown_second, outline, withHalves_update_right right_apart,
      withHalves_update_left left_apart halved.distinct]
  have turned : Halved allocator.arena.outline id left right block
      { leftHalf with state := .listed none none } { rightHalf with state := .loose } order :=
    ⟨halved.found, halved.loose, halved.left_fresh, halved.right_fresh, halved.distinct,
      (halved.halves.withRightState _).withLeftState _, .inr rfl, .inl rfl⟩
  refine ⟨⟨settled_after, (carves.books.trans books_second).trans books_after, ?_, ?_⟩, rfl,
    left, right, _, _, order, turned, left_class, right_class, swapped, .inr ⟨rfl, rfl⟩⟩
  · rw [swapped]
    exact turned.merged settled.forest merged (.inr rfl)
  · rw [swapped]
    exact carved_of_halved turned left_class right_class

/-- A loose block in hand is split toward a position, unless all handles are taken. -/
theorem descends_splitToward (settled : allocator.Settled (id :: hand))
    (merged : Merged allocator.arena.outline) {levels position : Nat}
    (found : allocator.arena.outline id = some block) (loose : block.state = .loose)
    (covers : block.Covers position) (deep : levels ≤ block.order) :
    (splitToward position pageClass levels id).Yields allocator
      (fun part after => ∃ half, Descends pageClass hand allocator id block after part half ∧
        half.Covers position ∧ half.order + levels = block.order)
      (fun failure _ => allocator.Crowded failure) := by
  induction levels generalizing allocator id block with
  | zero => exact ⟨block, .stays allocator id block, covers, rfl⟩
  | succ levels ih =>
    obtain ⟨order, above⟩ : ∃ order, block.order = order + 1 := ⟨block.order - 1, by omega⟩
    unfold splitToward
    rw [yields_bind]
    refine (carves_split settled merged found loose above pageClass).imp ?_
    rintro ⟨left, right⟩ first ⟨carves, leftHalf, rightHalf, halved, left_loose, right_listed,
      left_class, right_class, outline⟩
    dsimp only at carves halved outline ⊢
    have left_order := halved.halves.left_order
    have right_order := halved.halves.right_order
    have sides := halved.halves.covers_iff.mp covers
    have at_right : first.arena.outline right = some rightHalf := by
      rw [outline, withHalves_right halved.apart.2]
    obtain ⟨other, found_right, drawn⟩ := Arena.block?_of_outline at_right
    have placed : other.position = rightHalf.position := by
      rw [← drawn, Block.outline_position]
    rw [yields_bind, yields_block_of found_right, placed]
    split
    · rename_i before
      have on_left : leftHalf.Covers position :=
        sides.resolve_right fun on_right => absurd on_right.1 (by omega)
      have cuts : Cuts pageClass hand allocator id block left leftHalf first :=
        ⟨carves, left_loose, left, right, leftHalf, rightHalf, order, halved, left_class,
          right_class, outline, .inl ⟨rfl, rfl⟩⟩
      refine (ih carves.settled carves.merged cuts.at_part left_loose on_left (by omega)).mono ?_
        fun _ _ => carves.books.crowded
      rintro part after ⟨half, rest, within, lower⟩
      exact ⟨half, .cuts cuts rest, within, by omega⟩
    · rename_i behind
      have on_right : rightHalf.Covers position := by
        refine sides.resolve_left fun on_left => behind ?_
        have bound := on_left.2
        rwa [halved.halves.left_position, Block.span, left_order,
          ← halved.halves.right_position] at bound
      suffices goes_on : ((do changeArena (·.unlink right); list left) >>= fun _ =>
          splitToward position pageClass levels right).Yields first
          (fun part after => ∃ half, Descends pageClass hand allocator id block after part half ∧
            half.Covers position ∧ half.order + (levels + 1) = block.order)
          (fun failure _ => allocator.Crowded failure) by
        simpa only [yields_bind] using goes_on
      rw [yields_bind]
      refine (cuts_swap settled merged halved carves left_loose right_listed left_class
        right_class outline).mono ?_ fun _ _ => False.elim
      rintro _ second cuts
      refine (ih cuts.carves.settled cuts.carves.merged cuts.at_part rfl on_right ?_).mono ?_
        fun _ _ => cuts.carves.books.crowded
      · dsimp only
        omega
      · rintro part after ⟨half, rest, within, lower⟩
        dsimp only at lower
        exact ⟨half, .cuts cuts rest, within, by omega⟩

/-- A free block is taken off its list and cut down to a part of it, which is in hand. -/
structure Extracts (pageClass : PageClass) (hand : List BlockId) (before : Allocator)
    (id : BlockId) (block : Block) (part : BlockId) (half : Block) (after : Allocator) : Prop where
  found : before.arena.outline id = some block
  listed : block.isListed = true
  descends : ∃ first : Allocator, first.Settled (id :: hand) ∧ SameBooks before first ∧
    Merged first.arena.outline ∧ first.arena.outline =
      Function.update before.arena.outline id (some { block with state := .loose }) ∧
    Descends pageClass hand first id { block with state := .loose } after part half

namespace Extracts

variable {before after : Allocator} {part : BlockId} {half : Block}

/-- What is left is settled, with the part in hand, and the totals stay. -/
theorem leaves (extracts : Extracts pageClass hand before id block part half after) :
    after.Settled (part :: hand) ∧ SameBooks before after ∧ Merged after.arena.outline := by
  obtain ⟨first, settled, books, merged, -, descends⟩ := extracts.descends
  have carves := descends.carves settled merged
  exact ⟨carves.settled, books.trans carves.books, carves.merged⟩

/-- The part is one of the blocks, and a loose one. -/
theorem ends (extracts : Extracts pageClass hand before id block part half after) :
    after.arena.outline part = some half ∧ half.state = .loose := by
  obtain ⟨first, -, -, -, shown, descends⟩ := extracts.descends
  exact descends.ends (by rw [shown, Function.update_self]) rfl

/-- Nothing is handed out or taken back. -/
theorem handedOut_iff (extracts : Extracts pageClass hand before id block part half after)
    {other : BlockId} {held : Block} :
    HandedOut after.arena.outline other held ↔ HandedOut before.arena.outline other held := by
  obtain ⟨first, settled, -, merged, shown, descends⟩ := extracts.descends
  have unused := Block.not_allocated_of_isListed extracts.listed
  rw [(descends.carves settled merged).carved.handedOut, shown]
  exact handedOut_relabel extracts.found unused BlockState.noConfusion

/-- The other free blocks stay. -/
theorem kept (extracts : Extracts pageClass hand before id block part half after)
    {other : BlockId} {held : Block} (found : before.arena.outline other = some held)
    (free : held.isListed = true) (apart : other ≠ id) : after.arena.outline other = some held := by
  obtain ⟨first, settled, -, merged, shown, descends⟩ := extracts.descends
  refine (descends.carves settled merged).carved.kept ?_ free
  rw [shown, Function.update_of_ne apart, found]

/-- A new free block serves the class. -/
theorem fresh (extracts : Extracts pageClass hand before id block part half after)
    {other : BlockId} {held : Block} (found : after.arena.outline other = some held)
    (free : held.isListed = true) :
    before.arena.outline other = some held ∨ held.pageClass.accepts pageClass = true := by
  obtain ⟨first, settled, -, merged, shown, descends⟩ := extracts.descends
  refine ((descends.carves settled merged).carved.fresh found free).imp_left fun earlier => ?_
  rw [shown] at earlier
  rcases update_eq_some_iff.mp earlier with ⟨-, changed⟩ | ⟨-, old⟩
  · obtain rfl := Option.some.inj changed
    cases free
  · exact old

end Extracts

/-- A free block is taken off its list and cut down as a loose block is. -/
theorem extracts_of_descends (settled : allocator.Settled hand)
    (merged : Merged allocator.arena.outline) (found : allocator.arena.outline id = some block)
    (listed : block.isListed = true) {step : Operation Allocator BlockId} {good : Block → Prop}
    (cuts : ∀ {first : Allocator}, first.Settled (id :: hand) → Merged first.arena.outline →
      first.arena.outline id = some { block with state := .loose } →
      step.Yields first
        (fun part after => ∃ half,
          Descends pageClass hand first id { block with state := .loose } after part half ∧
          good half)
        (fun failure _ => first.Crowded failure)) :
    (changeArena (·.unlink id) >>= fun _ => step).Yields allocator
      (fun part after => ∃ half, Extracts pageClass hand allocator id block part half after ∧
        good half)
      (fun failure _ => allocator.Crowded failure) := by
  rw [yields_bind]
  refine (settles_unlink settled found listed).mono (fun _ first ⟨settled_first, books,
    shown⟩ => ?_) fun _ _ => False.elim
  have merged_first : Merged first.arena.outline := merged.relabel rfl shown
  refine (cuts settled_first merged_first (by rw [shown, Function.update_self])).mono ?_
    fun _ _ => books.crowded
  rintro part after ⟨half, descends, holds⟩
  exact ⟨half, ⟨found, listed, first, settled_first, books, merged_first, shown, descends⟩, holds⟩

/-- A free block is taken off its list and split to the left, unless all handles are taken. -/
theorem extracts_splitLeft (settled : allocator.Settled hand)
    (merged : Merged allocator.arena.outline) {levels : Nat}
    (found : allocator.arena.outline id = some block) (listed : block.isListed = true)
    (deep : levels ≤ block.order) :
    (do changeArena (·.unlink id); splitLeft pageClass levels id).Yields allocator
      (fun part after => ∃ half, Extracts pageClass hand allocator id block part half after ∧
        half.position = block.position ∧ half.order + levels = block.order)
      (fun failure _ => allocator.Crowded failure) :=
  extracts_of_descends settled merged found listed fun settled_first merged_first at_block =>
    descends_splitLeft settled_first merged_first at_block rfl deep

/-- A free block is taken off its list and split toward a position, unless all handles are
taken. -/
theorem extracts_splitToward (settled : allocator.Settled hand)
    (merged : Merged allocator.arena.outline) {levels position : Nat}
    (found : allocator.arena.outline id = some block) (listed : block.isListed = true)
    (covers : block.Covers position) (deep : levels ≤ block.order) :
    (do changeArena (·.unlink id); splitToward position pageClass levels id).Yields allocator
      (fun part after => ∃ half, Extracts pageClass hand allocator id block part half after ∧
        half.Covers position ∧ half.order + levels = block.order)
      (fun failure _ => allocator.Crowded failure) :=
  extracts_of_descends settled merged found listed fun settled_first merged_first at_block =>
    descends_splitToward settled_first merged_first at_block rfl covers deep

/-- A claim found a free block around a tile and carved the tile out of it. -/
structure Claimed (pageClass : PageClass) (tile : Tile) (hand : List BlockId) (before : Allocator)
    (id : BlockId) (after : Allocator) : Prop where
  settled : after.Settled (id :: hand)
  books : SameBooks before after
  merged : Merged after.arena.outline
  handedOut : ∀ other held,
    HandedOut after.arena.outline other held ↔ HandedOut before.arena.outline other held
  /-- The tile is a loose block. -/
  part : ∃ part, after.arena.outline id = some part ∧ part.state = .loose ∧ part.tile = tile
  /-- It was a part of a free block that serves the class; the other free blocks stay. -/
  source : ∃ whole block, before.arena.outline whole = some block ∧ block.isListed = true ∧
    block.pageClass.accepts pageClass = true ∧ tile.Within block.tile ∧
    ∀ {other held}, before.arena.outline other = some held → held.isListed = true →
      other ≠ whole → after.arena.outline other = some held
  fresh : ∀ {other held}, after.arena.outline other = some held → held.isListed = true →
    before.arena.outline other = some held ∨ held.pageClass.accepts pageClass = true

/-- A claim cuts a tile out of a free block around it, if one serves the class. -/
theorem extracts_claim (settled : allocator.Settled hand) (merged : Merged allocator.arena.outline)
    (tile : Tile) :
    (claim tile pageClass).Yields allocator
      (fun result after =>
        (result = none ∧ after = allocator ∧
          ∀ {id block}, allocator.arena.outline id = some block → block.isListed = true →
            tile.Within block.tile → block.pageClass.accepts pageClass = false) ∨
        ∃ part whole block half, result = some part ∧
          Extracts pageClass hand allocator whole block part half after ∧
          block.pageClass.accepts pageClass = true ∧ tile.order ≤ block.order ∧
          block.Covers tile.position ∧ half.Covers tile.position ∧ half.order = tile.order)
      (fun failure _ => allocator.Crowded failure) := by
  obtain ⟨result, run, nothing⟩ := exists_findAround settled tile pageClass
  unfold claim
  rw [yields_bind, yields_get, yields_bind]
  rw [run, yields_lift_ok]
  cases result with
  | none => exact .inl ⟨rfl, rfl, nothing rfl⟩
  | some entry =>
    obtain ⟨whole, held⟩ := entry
    obtain ⟨larger, under, listed, covers⟩ := findAround_eq_ok settled.tiled run
    obtain ⟨-, accepted, -⟩ := search_eq_ok settled.sound run
    have serves : held.pageClass.accepts pageClass = true := (Bool.and_eq_true_iff.mp accepted).2
    have drawn := Arena.outline_of_block? under
    rw [← Block.isListed_outline] at listed
    rw [← Block.outline_pageClass] at serves
    rw [← Block.outline_order] at larger
    have still_covers : held.outline.Covers tile.position := by
      unfold Block.Covers Block.span at covers ⊢
      rwa [Block.outline_position, Block.outline_order]
    have deep : held.order - tile.order ≤ held.outline.order := by
      rw [Block.outline_order]
      exact Nat.sub_le _ _
    suffices goes_on : ((do
          changeArena (·.unlink whole)
          splitToward tile.position pageClass (held.order - tile.order) whole) >>= fun part =>
        (pure (some part) : Operation Allocator (Option BlockId))).Yields allocator _ _ by
      simpa only [yields_bind] using goes_on
    rw [yields_bind]
    refine (extracts_splitToward settled merged drawn listed still_covers deep).mono ?_
      fun _ _ => id
    rintro part after ⟨half, extracts, within, lower⟩
    rw [Block.outline_order] at lower larger
    exact .inr ⟨part, whole, held.outline, half, rfl, extracts, serves,
      by rwa [Block.outline_order], still_covers, within, by omega⟩

/-- A claim carves a tile out of a free block around it, if one serves the class. -/
theorem settles_claim (settled : allocator.Settled hand) (merged : Merged allocator.arena.outline)
    {tile : Tile} (aligned : tile.Aligned) :
    (claim tile pageClass).Yields allocator
      (fun result after =>
        (result = none ∧ after = allocator ∧
          ∀ {id block}, allocator.arena.outline id = some block → block.isListed = true →
            tile.Within block.tile → block.pageClass.accepts pageClass = false) ∨
        ∃ id, result = some id ∧ Claimed pageClass tile hand allocator id after)
      (fun failure _ => allocator.Crowded failure) := by
  refine (extracts_claim settled merged tile).imp ?_
  rintro result after (missing | ⟨part, whole, block, half, rfl, extracts, serves, larger, covers,
    inside, order⟩)
  · exact .inl missing
  obtain ⟨settled_after, books, merged_after⟩ := extracts.leaves
  obtain ⟨at_part, loose⟩ := extracts.ends
  have within : tile.Within block.tile := by
    refine aligned.within (settled.forest.aligned extracts.found) larger ?_ covers.2
    exact Nat.lt_of_le_of_lt covers.1 tile.position_lt_stop
  have half_tile : half.tile = tile := (settled_after.forest.aligned at_part).eq aligned order
    inside.2 (Nat.lt_of_le_of_lt inside.1 tile.position_lt_stop)
  exact .inr ⟨part, rfl, settled_after, books, merged_after, fun _ _ => extracts.handedOut_iff,
    ⟨half, at_part, loose, half_tile⟩, ⟨whole, block, extracts.found, extracts.listed, serves,
      within, extracts.kept⟩, extracts.fresh⟩

end Carving

end GpuSched.Buddy.Allocator
