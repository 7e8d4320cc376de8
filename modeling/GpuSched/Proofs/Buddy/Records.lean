import GpuSched.Proofs.Buddy.Creation

/-!
# Records of live allocations

The records of an allocator agree with its blocks when each allocation on record has the blocks of
its range and no block is on record twice. As the blocks are leaves of a forest, two allocations
have no unit in common then.
-/
namespace GpuSched.Buddy

open Operation

namespace Space

/-- An order is the least one whose blocks hold a length. -/
def LeastOrder (space : Space) (len order : Nat) : Prop :=
  len ≤ space.blockLength order ∧ ∀ other, len ≤ space.blockLength other → order ≤ other

/-- The tiles of a range of addresses. -/
def rangeTiles (space : Space) (base len : Nat) : List Tile :=
  tiling space.maxOrder (space.position base) (space.position base + len / space.blockSize)

/-- The smallest block is not empty. -/
theorem blockSize_pos (space : Space) : 0 < space.blockSize := twoPow_pos space.blockShift

/-- Later units have later addresses. -/
theorem address_le_address {space : Space} {first second : Nat} (le : first ≤ second) :
    space.address first ≤ space.address second :=
  Nat.add_le_add_left (Nat.mul_le_mul_right _ le) _

/-- Different units have different addresses. -/
theorem address_injective {space : Space} {first second : Nat}
    (same : space.address first = space.address second) : first = second := by
  unfold address at same
  exact Nat.eq_of_mul_eq_mul_right space.blockSize_pos (by omega)

/-- The unit at the address of a unit is that unit. -/
@[simp] theorem position_address (space : Space) (unit : Nat) :
    space.position (space.address unit) = unit := by
  unfold position address
  rw [Nat.add_sub_cancel_left, Nat.mul_div_cancel _ space.blockSize_pos]

/-- The address after a block is that of the first unit after it. -/
theorem address_add_blockLength (space : Space) (unit order : Nat) :
    space.address unit + space.blockLength order = space.address (unit + twoPow order) := by
  unfold address blockLength
  rw [Nat.add_mul, Nat.mul_comm (twoPow order)]
  omega

/-- The units of a space end within it. -/
theorem address_le_limit {space : Space} {unit : Nat} (positive : 0 < unit)
    (within : unit ≤ space.units) : space.address unit ≤ space.limit := by
  have length := Nat.mul_le_mul_right space.blockSize within
  have whole : space.units * space.blockSize ≤ space.limit - space.start :=
    Nat.div_mul_le_self _ _
  have nonempty := Nat.mul_pos positive space.blockSize_pos
  unfold address
  omega

/-- The order that a request for some bytes is served with. -/
abbrev orderOf (space : Space) (len : Nat) : Nat :=
  Alignment.orderFor ((len + space.blockSize - 1) / space.blockSize)

/-- The order of a request is the least one whose blocks hold the length. -/
theorem leastOrder_orderFor (space : Space) (len : Nat) : space.LeastOrder len
    (Alignment.orderFor ((len + space.blockSize - 1) / space.blockSize)) := by
  have positive := space.blockSize_pos
  have bounded : ∀ order, len ≤ space.blockLength order ↔
      Alignment.orderFor ((len + space.blockSize - 1) / space.blockSize) ≤ order := by
    intro order
    rw [Alignment.orderFor_le_iff, Nat.div_le_iff_le_mul_add_pred positive]
    unfold blockLength
    omega
  exact ⟨(bounded _).mpr (Nat.le_refl _), fun other => (bounded other).mp⟩

/-- No other order is the least one whose blocks hold the length. -/
theorem orderOf_eq {space : Space} {len order : Nat} (least : space.LeastOrder len order) :
    space.orderOf len = order := by
  obtain ⟨holds, lowest⟩ := space.leastOrder_orderFor len
  exact Nat.le_antisymm (lowest order least.1) (least.2 _ holds)

/-- A range that can be placed begins and ends at units of the space. -/
theorem of_placeable {space : Space} (aligned : space.start % space.blockSize = 0) {base len : Nat}
    (placeable : Allocator.placeable space base len = true) :
    space.address (space.position base) = base ∧ 0 < len / space.blockSize ∧
      space.address (space.position base + len / space.blockSize) = base + len ∧
      base + len ≤ space.limit := by
  unfold Allocator.placeable at placeable
  simp only [Bool.and_eq_true, decide_eq_true_eq] at placeable
  obtain ⟨⟨⟨⟨nonempty, after⟩, ends⟩, base_aligned⟩, len_aligned⟩ := placeable
  have at_base : space.address (space.position base) = base := by
    unfold address position
    rw [Nat.div_mul_cancel]
    · omega
    · exact Nat.dvd_sub (Nat.dvd_of_mod_eq_zero base_aligned) (Nat.dvd_of_mod_eq_zero aligned)
  have whole : len / space.blockSize * space.blockSize = len :=
    Nat.div_mul_cancel (Nat.dvd_of_mod_eq_zero len_aligned)
  refine ⟨at_base, ?_, ?_, ends⟩
  · exact Nat.div_pos (Nat.le_of_dvd (Nat.pos_of_ne_zero (by simpa using nonempty))
      (Nat.dvd_of_mod_eq_zero len_aligned)) space.blockSize_pos
  · unfold address at at_base ⊢
    rw [Nat.add_mul]
    omega

end Space

section Pairs

variable {α β : Type} {related : α → β → Prop} {left : List α} {right : List β}

/-- Each entry of the first of two paired lists has a partner. -/
theorem exists_partner (paired : List.Forall₂ related left right) {one : α} (mem : one ∈ left) :
    ∃ other ∈ right, related one other := by
  induction paired with
  | nil => cases mem
  | cons together _ ih =>
    rcases List.mem_cons.mp mem with rfl | mem
    · exact ⟨_, List.mem_cons_self, together⟩
    · obtain ⟨other, there, together⟩ := ih mem
      exact ⟨other, List.mem_cons_of_mem _ there, together⟩

/-- Each entry of the second of two paired lists is a partner. -/
theorem exists_partner_of (paired : List.Forall₂ related left right) {other : β}
    (mem : other ∈ right) : ∃ one ∈ left, related one other :=
  exists_partner paired.flip mem

/-- Paired lists stay paired when the pairs are related otherwise. -/
theorem paired_of_mem {related' : α → β → Prop} (paired : List.Forall₂ related left right)
    (also : ∀ one other, other ∈ right → related one other → related' one other) :
    List.Forall₂ related' left right := by
  induction paired with
  | nil => exact .nil
  | cons together _ ih =>
    exact .cons (also _ _ List.mem_cons_self together)
      (ih fun one other mem => also one other (List.mem_cons_of_mem _ mem))

end Pairs

/-- What a block is handed out for. -/
inductive Owner where
  | ordinary (address : Nat)
  | fixed (base : Nat)
  deriving DecidableEq, Repr

namespace Allocator

/-- The records say that a block is handed out for an allocation. -/
def Owns (allocator : Allocator) : Owner → BlockId → Prop
  | .ordinary address, id => allocator.ordinary.find? address = some id
  | .fixed base, id => ∃ range, allocator.fixed.find? base = some range ∧ id ∈ range.tiles

/-- The records of the live allocations agree with the blocks. -/
structure Recorded (allocator : Allocator) : Prop where
  /-- An ordinary allocation starts at its block. -/
  ordinary : ∀ {address id}, allocator.ordinary.find? address = some id →
    ∃ block, allocator.arena.outline id = some block ∧ block.state = .allocated ∧
      address = allocator.space.address block.position
  /-- A fixed allocation has one block for each tile of its range. -/
  fixed : ∀ {base range}, allocator.fixed.find? base = some range →
    placeable allocator.space base range.len = true ∧
      List.Forall₂ allocator.Placed (allocator.space.rangeTiles base range.len) range.tiles
  /-- No block is handed out for two allocations. -/
  apart : ∀ {one other id}, allocator.Owns one id → allocator.Owns other id → one = other

/-- An allocation has all the units from one up to another. -/
def Spans (allocator : Allocator) (owner : Owner) (first last : Nat) : Prop :=
  ∀ unit, first ≤ unit → unit < last →
    ∃ id, allocator.Owns owner id ∧ LeafAt allocator.arena.outline id unit

section Records

variable {allocator before after : Allocator} {owner : Owner} {id : BlockId}

/-- A block that is handed out is a leaf at each of its units. -/
theorem leafAt_of_allocated {block : Block} {unit : Nat}
    (found : allocator.arena.outline id = some block) (allocated : block.state = .allocated)
    (covers : block.Covers unit) : LeafAt allocator.arena.outline id unit :=
  ⟨block, found, Block.isLeaf_of_allocated allocated, covers⟩

/-- A block on record is handed out. -/
theorem Recorded.allocated (recorded : allocator.Recorded) (owns : allocator.Owns owner id) :
    ∃ block, allocator.arena.outline id = some block ∧ block.state = .allocated := by
  cases owner with
  | ordinary address =>
    obtain ⟨block, found, allocated, -⟩ := recorded.ordinary owns
    exact ⟨block, found, allocated⟩
  | fixed base =>
    obtain ⟨range, found, mem⟩ := owns
    obtain ⟨tile, -, block, at_block, allocated, -⟩ :=
      exists_partner_of (recorded.fixed found).2 mem
    exact ⟨block, at_block, allocated⟩

/-- A block that is not handed out is not on record. -/
theorem Recorded.not_owns (recorded : allocator.Recorded) (unused : allocator.Unused id)
    (owner : Owner) : ¬ allocator.Owns owner id := by
  intro owns
  obtain ⟨block, found, allocated⟩ := recorded.allocated owns
  exact unused block found allocated

/-- An ordinary allocation has the units of its block. -/
theorem spans_ordinary {address : Nat} {block : Block}
    (owns : allocator.ordinary.find? address = some id)
    (found : allocator.arena.outline id = some block) (allocated : block.state = .allocated) :
    allocator.Spans (.ordinary address) block.position (block.position + block.span) :=
  fun _ after before => ⟨id, owns, leafAt_of_allocated found allocated ⟨after, before⟩⟩

/-- Blocks that are paired with the tiles of a range have the units of the range. -/
theorem leafAt_of_placed {cap first last : Nat} {ids : List BlockId}
    (placed : List.Forall₂ allocator.Placed (tiling cap first last) ids) {unit : Nat}
    (after : first ≤ unit) (before : unit < last) :
    ∃ id ∈ ids, LeafAt allocator.arena.outline id unit := by
  obtain ⟨tile, mem, from_tile, to_tile⟩ := exists_mem_tiling after before
  obtain ⟨id, there, block, found, allocated, position, order⟩ := exists_partner placed mem
  refine ⟨id, there, leafAt_of_allocated found allocated ⟨by omega, ?_⟩⟩
  unfold Block.span
  rwa [position, order]

/-- A fixed allocation has the units of its range. -/
theorem Recorded.spans_fixed (recorded : allocator.Recorded) {base : Nat} {range : FixedRange}
    (found : allocator.fixed.find? base = some range) :
    allocator.Spans (.fixed base) (allocator.space.position base)
      (allocator.space.position base + range.len / allocator.space.blockSize) := by
  intro unit after before
  obtain ⟨id, mem, leaf⟩ := leafAt_of_placed (recorded.fixed found).2 after before
  exact ⟨id, ⟨range, found, mem⟩, leaf⟩

/-- Two allocations have no units in common. -/
theorem Recorded.disjoint (recorded : allocator.Recorded) (tiled : allocator.Tiled)
    {one other : Owner} (distinct : one ≠ other) {first last start stop : Nat}
    (left : allocator.Spans one first last) (right : allocator.Spans other start stop)
    (left_nonempty : first < last) (right_nonempty : start < stop) :
    last ≤ start ∨ stop ≤ first := by
  by_contra overlap
  rw [not_or, Nat.not_le, Nat.not_le] at overlap
  obtain ⟨id, owns, leaf⟩ := left (max first start) (by omega) (by omega)
  obtain ⟨id', owns', leaf'⟩ := right (max first start) (by omega) (by omega)
  obtain rfl := tiled.forest.leafAt_unique leaf leaf'
  exact distinct (recorded.apart owns owns')

/-- A step on blocks leaves the records. -/
theorem Spares.owns_iff {gone : List BlockId} (spares : Spares gone before after) :
    after.Owns owner id ↔ before.Owns owner id := by
  cases owner <;> simp only [Owns, spares.ordinary, spares.fixed]

/-- Records survive a step that spares the blocks on record. -/
theorem Recorded.spared (recorded : before.Recorded) {gone : List BlockId}
    (spares : Spares gone before after)
    (unowned : ∀ owner id, before.Owns owner id → id ∉ gone) : after.Recorded where
  ordinary {address id} found := by
    rw [spares.ordinary] at found
    obtain ⟨block, at_block, allocated, start⟩ := recorded.ordinary found
    have spared := unowned (.ordinary address) id found
    exact ⟨block, spares.allocated at_block allocated spared, allocated,
      by rw [spares.space, start]⟩
  fixed {base range} found := by
    rw [spares.fixed] at found
    obtain ⟨placeable, placed⟩ := recorded.fixed found
    rw [spares.space]
    refine ⟨placeable, paired_of_mem placed fun tile id mem at_tile => ?_⟩
    exact at_tile.spared spares (unowned (.fixed base) id ⟨range, found, mem⟩)
  apart owns owns' := recorded.apart (spares.owns_iff.mp owns) (spares.owns_iff.mp owns')

/-- A new ordinary record owns its block, the other records own what they did. -/
theorem owns_insert_ordinary {address : Nat} {held : BlockId} :
    ({ allocator with ordinary := allocator.ordinary.insert address id } : Allocator).Owns owner
        held ↔
      owner = .ordinary address ∧ held = id ∨
        owner ≠ .ordinary address ∧ allocator.Owns owner held := by
  cases owner with
  | ordinary other =>
    simp only [Owns, Table.find?_insert, Owner.ordinary.injEq]
    by_cases same : other = address
    · simp [same, eq_comm]
    · simp [same]
  | fixed base => simp [Owns]

/-- A new fixed record owns its blocks, the other records own what they did. -/
theorem owns_insert_fixed {base : Nat} {range : FixedRange} {held : BlockId} :
    ({ allocator with fixed := allocator.fixed.insert base range } : Allocator).Owns owner held ↔
      owner = .fixed base ∧ held ∈ range.tiles ∨
        owner ≠ .fixed base ∧ allocator.Owns owner held := by
  cases owner with
  | ordinary address => simp [Owns]
  | fixed other =>
    simp only [Owns, Table.find?_insert, Owner.fixed.injEq]
    by_cases same : other = base <;> simp [same]

/-- Without an ordinary record the other records own what they did. -/
theorem owns_erase_ordinary {address : Nat} {held : BlockId} :
    ({ allocator with ordinary := allocator.ordinary.erase address } : Allocator).Owns owner held ↔
      owner ≠ .ordinary address ∧ allocator.Owns owner held := by
  cases owner with
  | ordinary other =>
    simp only [Owns, Table.find?_erase, ne_eq, Owner.ordinary.injEq]
    by_cases same : other = address <;> simp [same]
  | fixed base => simp [Owns]

/-- Without a fixed record the other records own what they did. -/
theorem owns_erase_fixed {base : Nat} {held : BlockId} :
    ({ allocator with fixed := allocator.fixed.erase base } : Allocator).Owns owner held ↔
      owner ≠ .fixed base ∧ allocator.Owns owner held := by
  cases owner with
  | ordinary address => simp [Owns]
  | fixed other =>
    simp only [Owns, Table.find?_erase, ne_eq, Owner.fixed.injEq]
    by_cases same : other = base <;> simp [same]

/-- An ordinary allocation with a block that is not on record goes on record. -/
theorem Recorded.insert_ordinary (recorded : allocator.Recorded) {block : Block}
    (found : allocator.arena.outline id = some block) (allocated : block.state = .allocated)
    (unowned : ∀ owner, ¬ allocator.Owns owner id) :
    ({ allocator with
      ordinary := allocator.ordinary.insert (allocator.space.address block.position) id } :
      Allocator).Recorded where
  ordinary {address other} present := by
    dsimp only at present ⊢
    rw [Table.find?_insert] at present
    split at present
    · rename_i same
      obtain rfl := Option.some.inj present
      exact ⟨block, found, allocated, same⟩
    · exact recorded.ordinary present
  fixed present := recorded.fixed present
  apart {one other held} owns owns' := by
    rcases owns_insert_ordinary.mp owns with ⟨rfl, rfl⟩ | ⟨-, old⟩ <;>
      rcases owns_insert_ordinary.mp owns' with ⟨rfl, same⟩ | ⟨-, old'⟩
    · rfl
    · exact absurd old' (unowned other)
    · subst same
      exact absurd old (unowned one)
    · exact recorded.apart old old'

/-- A fixed allocation with blocks that are not on record goes on record. -/
theorem Recorded.insert_fixed (recorded : allocator.Recorded) {base : Nat} {range : FixedRange}
    (placeable : placeable allocator.space base range.len = true)
    (placed : List.Forall₂ allocator.Placed (allocator.space.rangeTiles base range.len) range.tiles)
    (unowned : ∀ owner, ∀ id ∈ range.tiles, ¬ allocator.Owns owner id) :
    ({ allocator with fixed := allocator.fixed.insert base range } : Allocator).Recorded where
  ordinary present := recorded.ordinary present
  fixed {other held} present := by
    dsimp only at present ⊢
    rw [Table.find?_insert] at present
    split at present
    · rename_i same
      subst same
      obtain rfl := Option.some.inj present
      exact ⟨placeable, placed⟩
    · exact recorded.fixed present
  apart {one other held} owns owns' := by
    rcases owns_insert_fixed.mp owns with ⟨rfl, mem⟩ | ⟨-, old⟩ <;>
      rcases owns_insert_fixed.mp owns' with ⟨rfl, mem'⟩ | ⟨-, old'⟩
    · rfl
    · exact absurd old' (unowned other held mem)
    · exact absurd old (unowned one held mem')
    · exact recorded.apart old old'

/-- The other records stay when an ordinary one is struck out. -/
theorem Recorded.erase_ordinary (recorded : allocator.Recorded) (address : Nat) :
    ({ allocator with ordinary := allocator.ordinary.erase address } : Allocator).Recorded where
  ordinary {other id} present := by
    dsimp only at present ⊢
    rw [Table.find?_erase] at present
    split at present
    · cases present
    · exact recorded.ordinary present
  fixed present := recorded.fixed present
  apart owns owns' :=
    recorded.apart (owns_erase_ordinary.mp owns).2 (owns_erase_ordinary.mp owns').2

/-- The other records stay when a fixed one is struck out. -/
theorem Recorded.erase_fixed (recorded : allocator.Recorded) (base : Nat) :
    ({ allocator with fixed := allocator.fixed.erase base } : Allocator).Recorded where
  ordinary present := recorded.ordinary present
  fixed {other range} present := by
    dsimp only at present ⊢
    rw [Table.find?_erase] at present
    split at present
    · cases present
    · exact recorded.fixed present
  apart owns owns' := recorded.apart (owns_erase_fixed.mp owns).2 (owns_erase_fixed.mp owns').2

end Records

end Allocator

end GpuSched.Buddy
