import GpuSched.Proofs.Buddy.Placement
import GpuSched.Proofs.Buddy.Records

/-!
# What a call leaves

A call grants a range, gives one back, or is refused; or it is stopped, where no handle is left or a
total of bytes is too large. What it does to the blocks, to the records and to the totals is said
once for each of the three calls, with the reasons for which it is refused or stopped. What callers
can rely on is derived from this.
-/
namespace GpuSched.Buddy

open Operation

/-- A range that can be placed ends in the units of the space. -/
theorem Space.le_units_of_placeable {space : Space} (aligned : space.start % space.blockSize = 0)
    {base len : Nat} (placeable : Allocator.placeable space base len = true) :
    space.position base + len / space.blockSize ≤ space.units := by
  obtain ⟨-, -, stop, inside⟩ := Space.of_placeable aligned placeable
  unfold Space.units
  rw [Nat.le_div_iff_mul_le space.blockSize_pos]
  unfold Space.address at stop
  omega

namespace Allocator

/-- There is a record of an allocation. -/
def HasRecord (allocator : Allocator) : Owner → Prop
  | .ordinary address => ∃ id, allocator.ordinary.find? address = some id
  | .fixed base => ∃ range, allocator.fixed.find? base = some range

section Records

variable {allocator before after : Allocator} {owner : Owner} {id : BlockId}

/-- Whoever owns a block has a record. -/
theorem hasRecord_of_owns (owns : allocator.Owns owner id) : allocator.HasRecord owner := by
  cases owner with
  | ordinary address => exact ⟨id, owns⟩
  | fixed base =>
    obtain ⟨range, found, -⟩ := owns
    exact ⟨range, found⟩

/-- A settled allocator stays settled whatever is on record. -/
theorem Settled.withBooks {hand : List BlockId} (settled : allocator.Settled hand)
    (ordinary : Table BlockId) (fixed : Table FixedRange) (requested reserved freed : Nat) :
    ({ allocator with ordinary, fixed, requested, reserved, freed } : Allocator).Settled hand :=
  ⟨settled.sound, settled.forest, settled.housed, settled.sized, settled.counted, settled.roots,
    settled.in_hand⟩

/-- A step on blocks leaves the ordinary records. -/
theorem SameBooks.ordinary (same : SameBooks before after) : after.ordinary = before.ordinary := by
  unfold SameBooks at same
  have tables := congrArg Allocator.ordinary same
  exact tables

/-- A step on blocks leaves the fixed records. -/
theorem SameBooks.fixed (same : SameBooks before after) : after.fixed = before.fixed := by
  unfold SameBooks at same
  have tables := congrArg Allocator.fixed same
  exact tables

/-- A step on blocks leaves the total of bytes asked for. -/
theorem SameBooks.requested (same : SameBooks before after) :
    after.requested = before.requested := by
  unfold SameBooks at same
  have totals := congrArg Allocator.requested same
  exact totals

/-- A step on blocks leaves the total of bytes handed out. -/
theorem SameBooks.reserved (same : SameBooks before after) : after.reserved = before.reserved := by
  unfold SameBooks at same
  have totals := congrArg Allocator.reserved same
  exact totals

/-- A step on blocks leaves the total of bytes that came back. -/
theorem SameBooks.freed (same : SameBooks before after) : after.freed = before.freed := by
  unfold SameBooks at same
  have totals := congrArg Allocator.freed same
  exact totals

/-- A step on blocks leaves what is owned. -/
theorem SameBooks.owns_iff (same : SameBooks before after) :
    after.Owns owner id ↔ before.Owns owner id := by
  cases owner <;> simp only [Owns, same.ordinary, same.fixed]

/-- A step on blocks leaves the records. -/
theorem SameBooks.hasRecord_iff (same : SameBooks before after) :
    after.HasRecord owner ↔ before.HasRecord owner := by
  cases owner <;> simp only [HasRecord, same.ordinary, same.fixed]

/-- A new ordinary record is added to those there are. -/
theorem of_hasRecord_insert_ordinary {address : Nat}
    (has : ({ allocator with ordinary := allocator.ordinary.insert address id } :
      Allocator).HasRecord owner) : owner = .ordinary address ∨ allocator.HasRecord owner := by
  cases owner with
  | ordinary other =>
    obtain ⟨held, found⟩ := has
    by_cases same : other = address
    · exact .inl (same ▸ rfl)
    · rw [Table.find?_insert, if_neg same] at found
      exact .inr ⟨held, found⟩
  | fixed base => exact .inr has

/-- A new fixed record is added to those there are. -/
theorem of_hasRecord_insert_fixed {base : Nat} {range : FixedRange}
    (has : ({ allocator with fixed := allocator.fixed.insert base range } :
      Allocator).HasRecord owner) : owner = .fixed base ∨ allocator.HasRecord owner := by
  cases owner with
  | ordinary address => exact .inr has
  | fixed other =>
    obtain ⟨held, found⟩ := has
    by_cases same : other = base
    · exact .inl (same ▸ rfl)
    · rw [Table.find?_insert, if_neg same] at found
      exact .inr ⟨held, found⟩

/-- An ordinary record that is struck out is gone. -/
theorem of_hasRecord_erase_ordinary {address : Nat}
    (has : ({ allocator with ordinary := allocator.ordinary.erase address } :
      Allocator).HasRecord owner) : owner ≠ .ordinary address ∧ allocator.HasRecord owner := by
  cases owner with
  | ordinary other =>
    obtain ⟨held, found⟩ := has
    by_cases same : other = address
    · rw [Table.find?_erase, if_pos same] at found
      cases found
    · rw [Table.find?_erase, if_neg same] at found
      exact ⟨fun equal => same (Owner.ordinary.inj equal), held, found⟩
  | fixed base => exact ⟨Owner.noConfusion, has⟩

/-- A fixed record that is struck out is gone. -/
theorem of_hasRecord_erase_fixed {base : Nat}
    (has : ({ allocator with fixed := allocator.fixed.erase base } : Allocator).HasRecord owner) :
    owner ≠ .fixed base ∧ allocator.HasRecord owner := by
  cases owner with
  | ordinary address => exact ⟨Owner.noConfusion, has⟩
  | fixed other =>
    obtain ⟨held, found⟩ := has
    by_cases same : other = base
    · rw [Table.find?_erase, if_pos same] at found
      cases found
    · rw [Table.find?_erase, if_neg same] at found
      exact ⟨fun equal => same (Owner.fixed.inj equal), held, found⟩

end Records

section Steps

variable {allocator : Allocator}

/-- A sum that does not fit stops a call. -/
theorem of_fit_eq_error {limit value : Nat} {failure : Failure}
    (run : Checked.fit limit value = .error failure) :
    limit ≤ value ∧ failure = .aborted .overflow := by
  unfold Checked.fit at run
  split at run
  · cases run
  · rename_i large
    exact ⟨Nat.le_of_not_lt large, (Except.error.inj run).symm⟩

/-- Accounting adds to the totals of bytes, or stops the call when one of them gets too large. -/
theorem settles_account {asked given : Nat} {good : Unit → Allocator → Prop}
    {bad : Failure → Allocator → Prop}
    (works : allocator.requested + asked < Checked.limit64 →
      allocator.reserved + given < Checked.limit64 →
      good () { allocator with
        requested := allocator.requested + asked, reserved := allocator.reserved + given })
    (stopped : ∀ after, Checked.limit64 ≤ allocator.requested + asked ∨
      Checked.limit64 ≤ allocator.reserved + given → bad (.aborted .overflow) after) :
    (account asked given).Yields allocator good bad := by
  unfold account Checked.add64
  simp only [yields_bind, yields_get, yields_modify]
  refine yields_lift_of (fun requested run => ?_) fun failure run => ?_
  · obtain ⟨short, rfl⟩ := Checked.fit_eq_ok_iff.mp run
    refine yields_lift_of (fun reserved run => ?_) fun failure run => ?_
    · obtain ⟨also_short, rfl⟩ := Checked.fit_eq_ok_iff.mp run
      exact works short also_short
    · obtain ⟨large, rfl⟩ := of_fit_eq_error run
      exact stopped _ (.inr large)
  · obtain ⟨large, rfl⟩ := of_fit_eq_error run
    exact stopped _ (.inl large)

/-- Accounting for what came back adds to its total, or stops the call when it gets too large. -/
theorem settles_accountFreed {bytes : Nat} {good : Unit → Allocator → Prop}
    {bad : Failure → Allocator → Prop}
    (works : good () { allocator with freed := allocator.freed + bytes })
    (stopped : ∀ after, Checked.limit64 ≤ allocator.freed + bytes →
      bad (.aborted .overflow) after) :
    (accountFreed bytes).Yields allocator good bad := by
  unfold accountFreed Checked.add64
  simp only [yields_bind, yields_get, yields_modify]
  refine yields_lift_of (fun freed run => ?_) fun failure run => ?_
  · obtain ⟨-, rfl⟩ := Checked.fit_eq_ok_iff.mp run
    exact works
  · obtain ⟨large, rfl⟩ := of_fit_eq_error run
    exact stopped _ large

/-- A free block of an order or above serves a class. -/
def Serves (allocator : Allocator) (order : Nat) (pageClass : PageClass) : Prop :=
  ∃ id block, allocator.arena.outline id = some block ∧ block.isListed = true ∧
    order ≤ block.order ∧ block.pageClass.accepts pageClass = true

/-- A search for a free block answers, and it finds one if there is one. -/
theorem exists_findFree {hand : List BlockId} (settled : allocator.Settled hand) (order : Nat)
    (pageClass : PageClass) :
    ∃ result, allocator.findFree order pageClass = .ok result ∧
      (result.isSome = true ↔ allocator.Serves order pageClass) := by
  obtain ⟨result, run, nothing⟩ := exists_search settled.sound (allocator.space.fromTail pageClass)
    (fun _ block => block.pageClass.accepts pageClass) (ordersFrom allocator.space order)
    fun _ => settled.lists_of_ordersFrom
  refine ⟨result, run, ?_⟩
  constructor
  · intro found
    obtain ⟨⟨id, block⟩, rfl⟩ := Option.isSome_iff_exists.mp found
    obtain ⟨larger, under, listed⟩ := findFree_eq_ok settled.tiled run
    obtain ⟨-, serves, -⟩ := search_eq_ok settled.sound run
    refine ⟨id, block.outline, Arena.outline_of_block? under, ?_, ?_, ?_⟩
    · rwa [Block.isListed_outline]
    · rwa [Block.outline_order]
    · rwa [Block.outline_pageClass]
  · rintro ⟨id, drawn, found, listed, larger, serves⟩
    obtain ⟨block, under, rfl⟩ := Arena.block?_of_outline found
    have capped := (settled.forest.fits found).capped
    rw [Block.outline_order] at larger capped
    rw [Block.isListed_outline] at listed
    rw [Block.outline_pageClass] at serves
    cases result with
    | some entry => rfl
    | none =>
      have fails := nothing rfl under listed (mem_ordersFrom_iff.mpr ⟨larger, capped⟩)
      rw [serves] at fails
      cases fails

/-- The blocks that are paired with the tiles of a range are different ones. -/
theorem nodup_of_placed {cap first last : Nat} {ids : List BlockId}
    (placed : List.Forall₂ allocator.Placed (tiling cap first last) ids) : ids.Nodup := by
  fun_induction tiling cap first last generalizing ids with
  | case1 first below order =>
    rename_i ih
    obtain ⟨id, rest, ⟨block, found, -, position, -⟩, later, rfl⟩ :=
      List.forall₂_cons_left_iff.mp placed
    refine List.nodup_cons.mpr ⟨fun mem => ?_, ih later⟩
    obtain ⟨tile, there, held, also, -, same, -⟩ := exists_partner_of later mem
    obtain rfl : block = held := Option.some.inj (found.symm.trans also)
    have behind := (of_mem_tiling there).1
    have positive := twoPow_pos order
    dsimp only at position
    omega
  | case2 =>
    obtain rfl := List.forall₂_nil_left_iff.mp placed
    exact .nil

end Steps

/-- The first unit of a range. -/
abbrev firstUnit (allocator : Allocator) (base : Nat) : Nat := allocator.space.position base

/-- The first unit after a range. -/
abbrev lastUnit (allocator : Allocator) (base len : Nat) : Nat :=
  allocator.space.position base + len / allocator.space.blockSize

/-- A range was granted: blocks are handed out for its owner, it is on record, and its bytes are in
the totals. -/
structure Grants (before : Allocator) (owner : Owner) (asked given : Nat) (after : Allocator) :
    Prop where
  settled : after.Settled []
  merged : Merged after.arena.outline
  space : after.space = before.space
  handed : ∀ {id block}, HandedOut after.arena.outline id block →
    after.Owns owner id ∨ HandedOut before.arena.outline id block
  owns : ∀ {other id}, other ≠ owner → before.Owns other id → after.Owns other id
  recorded : ∀ {other}, after.HasRecord other → other = owner ∨ before.HasRecord other
  requested : after.requested = before.requested + asked
  reserved : after.reserved = before.reserved + given
  freed : after.freed = before.freed
  requested_lt : after.requested < Checked.limit64
  reserved_lt : after.reserved < Checked.limit64

/-- A request was refused: what is handed out and the books are as before. -/
structure Denies (before after : Allocator) : Prop where
  settled : after.Settled []
  merged : Merged after.arena.outline
  books : SameBooks before after
  handed : ∀ id block,
    HandedOut after.arena.outline id block ↔ HandedOut before.arena.outline id block

/-- A range was given back: the blocks of its owner are not handed out any more, its record is
struck, and its bytes are in the total of those that came back. -/
structure Strikes (before : Allocator) (owner : Owner) (bytes : Nat) (after : Allocator) :
    Prop where
  settled : after.Settled []
  merged : Merged after.arena.outline
  space : after.space = before.space
  handed : ∀ {id block}, HandedOut after.arena.outline id block →
    ¬ before.Owns owner id ∧ HandedOut before.arena.outline id block
  owns : ∀ {other id}, other ≠ owner → before.Owns other id → after.Owns other id
  recorded : ∀ {other}, after.HasRecord other → other ≠ owner ∧ before.HasRecord other
  requested : after.requested = before.requested
  reserved : after.reserved = before.reserved
  freed : after.freed = before.freed + bytes

/-- The bytes that a grant would add make a total too large. -/
def Overflows (allocator : Allocator) (asked given : Nat) : Prop :=
  Checked.limit64 ≤ allocator.requested + asked ∨ Checked.limit64 ≤ allocator.reserved + given

section Effects

variable {allocator : Allocator}

/-- Why an ordinary request is refused. -/
inductive Refusal (allocator : Allocator) (len : Nat) (pageClass : PageClass) : Error → Prop
  | empty (empty : len = 0) : Refusal allocator len pageClass
      (.invalidConfig (allocator.space.name ++ ": zero-length allocation"))
  | tooLarge (nonempty : 0 < len) (large : allocator.space.maxOrder < allocator.space.orderOf len) :
      Refusal allocator len pageClass
        (.tooLarge len (allocator.space.orderOf len) allocator.space.maxOrder)
  | exhausted (nonempty : 0 < len)
      (capped : allocator.space.orderOf len ≤ allocator.space.maxOrder)
      (nothing : ¬ allocator.Serves (allocator.space.orderOf len) pageClass) :
      Refusal allocator len pageClass .exhausted

/-- Take a free block off its list, split it and hand out the part at its start. -/
def handOut (pageClass : PageClass) (levels : Nat) (id : BlockId) :
    Operation Allocator BlockId := do
  changeArena (·.unlink id)
  let part ← splitLeft pageClass levels id
  markAllocated part
  return part

/-- The three steps that hand a part out are one. -/
theorem yields_handOut_bind {α : Type} {pageClass : PageClass} {levels : Nat} {id : BlockId}
    {next : BlockId → Operation Allocator α} {good : α → Allocator → Prop}
    {bad : Failure → Allocator → Prop} :
    (do
      changeArena (·.unlink id)
      let part ← splitLeft pageClass levels id
      markAllocated part
      next part : Operation Allocator α).Yields allocator good bad ↔
      (handOut pageClass levels id >>= next).Yields allocator good bad := by
  simp only [handOut, yields_bind, yields_pure]

/-- What is handed out was cut out of the free block, unless all handles are taken. -/
theorem extracts_handOut {hand : List BlockId} {id : BlockId} (settled : allocator.Settled hand)
    (merged : Merged allocator.arena.outline) {block : Block} {pageClass : PageClass} {levels : Nat}
    (found : allocator.arena.outline id = some block) (listed : block.isListed = true)
    (deep : levels ≤ block.order) :
    (handOut pageClass levels id).Yields allocator
      (fun part after => ∃ half middle,
        Extracts pageClass hand allocator id block part half middle ∧ after.Settled hand ∧
        SameBooks middle after ∧ after.arena.outline =
          Function.update middle.arena.outline part (some { half with state := .allocated }))
      (fun failure _ => allocator.Crowded failure) := by
  suffices goes_on : ((do changeArena (·.unlink id); splitLeft pageClass levels id) >>= fun part =>
      markAllocated part >>= fun _ => pure part).Yields allocator _ _ by
    simpa only [handOut, yields_bind] using goes_on
  rw [yields_bind]
  refine (extracts_splitLeft settled merged found listed deep).imp ?_
  rintro part middle ⟨half, extracts, -, -⟩
  obtain ⟨at_part, loose⟩ := extracts.ends
  rw [yields_bind]
  exact (settles_markAllocated extracts.leaves.1 at_part loose).mono
    (fun _ after ⟨settled_after, books, marked⟩ =>
      ⟨half, middle, extracts, settled_after, books, marked⟩) fun _ _ => False.elim

/-- A part of a free block is handed out and nothing else, unless all handles are taken. -/
theorem settles_handOut {hand : List BlockId} {id : BlockId} (settled : allocator.Settled hand)
    (merged : Merged allocator.arena.outline) {block : Block} {pageClass : PageClass} {levels : Nat}
    (found : allocator.arena.outline id = some block) (listed : block.isListed = true)
    (deep : levels ≤ block.order) :
    (handOut pageClass levels id).Yields allocator
      (fun part after => after.Settled hand ∧ SameBooks allocator after ∧
        Merged after.arena.outline ∧
        (∃ held, after.arena.block? part = some held) ∧ ∀ other held,
          HandedOut after.arena.outline other held →
            other = part ∨ HandedOut allocator.arena.outline other held)
      (fun failure _ => allocator.Crowded failure) := by
  refine (extracts_handOut settled merged found listed deep).imp ?_
  rintro part after ⟨half, middle, extracts, settled_after, books_after, marked⟩
  obtain ⟨-, books, merged_middle⟩ := extracts.leaves
  have at_part : after.arena.outline part = some { half with state := .allocated } := by
    rw [marked, Function.update_self]
  refine ⟨settled_after, books.trans books_after, merged_middle.relabel rfl marked,
    ⟨_, Arena.block?_of_unlisted_outline at_part rfl⟩, fun other held now => ?_⟩
  rw [marked] at now
  rcases handedOut_update_iff.mp now with ⟨same, -⟩ | ⟨-, before⟩
  · exact .inl same
  · exact .inr (extracts.handedOut_iff.mp before)

/-- What holds of a request that fails, and of one that hands out a part of a free block that serves
it, whatever the totals are, holds of an ordinary request. -/
theorem yields_allocate_of_handOut (settled : allocator.Settled [])
    (merged : Merged allocator.arena.outline) (len : Nat) (wanted : PageClass)
    {good : Nat → Allocator → Prop} {bad : Failure → Allocator → Prop}
    (refused : ∀ error, bad (.refused error) allocator)
    (stopped : ∀ reason after, bad (.aborted reason) after)
    (works : ∀ {id block levels}, allocator.arena.outline id = some block →
      block.isListed = true → levels ≤ block.order →
      block.pageClass.accepts (allocator.space.classFor wanted) = true →
      (handOut (allocator.space.classFor wanted) levels id).Yields allocator
        (fun part after => ∀ address requested reserved, good address { after with
          ordinary := after.ordinary.insert address part, requested, reserved }) bad) :
    (allocate len wanted).Yields allocator good bad := by
  unfold allocate
  simp only [yields_bind, yields_get]
  split
  · exact refused _
  split
  · exact refused _
  obtain ⟨result, run, -⟩ := exists_findFree settled (allocator.space.orderOf len)
    (allocator.space.classFor wanted)
  simp only [yields_bind, yields_get]
  rw [run, yields_lift_ok]
  cases result with
  | none => exact refused _
  | some entry =>
    obtain ⟨id, block⟩ := entry
    obtain ⟨-, under, listed⟩ := findFree_eq_ok settled.tiled run
    obtain ⟨-, serves, -⟩ := search_eq_ok settled.sound run
    have drawn := Arena.outline_of_block? under
    rw [← Block.isListed_outline] at listed
    rw [← Block.outline_pageClass] at serves
    have deep : block.order - allocator.space.orderOf len ≤ block.outline.order := by
      rw [Block.outline_order]
      exact Nat.sub_le _ _
    refine yields_handOut_bind.mpr ?_
    rw [yields_bind]
    refine ((settles_handOut settled merged drawn listed deep).and
      (works drawn listed deep serves)).mono ?_ fun _ _ failed => failed.2
    rintro part third ⟨⟨-, -, -, ⟨held, at_third⟩, -⟩, holds⟩
    simp only [yields_bind, yields_modify, yields_block_of at_third]
    exact settles_account (fun _ _ => holds _ _ _) fun _ _ => stopped _ _

/-- An ordinary request is granted when a free block serves it, unless the call is stopped. -/
theorem settles_allocate (settled : allocator.Settled []) (merged : Merged allocator.arena.outline)
    (len : Nat) (wanted : PageClass) :
    (allocate len wanted).Yields allocator
      (fun address after => 0 < len ∧ allocator.space.orderOf len ≤ allocator.space.maxOrder ∧
        allocator.Serves (allocator.space.orderOf len) (allocator.space.classFor wanted) ∧
        allocator.Grants (.ordinary address) len
          (allocator.space.blockLength (allocator.space.orderOf len)) after)
      (fun failure after =>
        (∃ error, failure = .refused error ∧ after = allocator ∧
          Refusal allocator len (allocator.space.classFor wanted) error) ∨
        0 < len ∧ allocator.space.orderOf len ≤ allocator.space.maxOrder ∧
          allocator.Serves (allocator.space.orderOf len) (allocator.space.classFor wanted) ∧
          (allocator.Crowded failure ∨ failure = .aborted .overflow ∧
            allocator.Overflows len
              (allocator.space.blockLength (allocator.space.orderOf len)))) := by
  unfold allocate
  simp only [yields_bind, yields_get]
  split
  · rename_i empty
    exact .inl ⟨_, rfl, rfl, .empty empty⟩
  rename_i nonempty
  have positive : 0 < len := Nat.pos_of_ne_zero nonempty
  split
  · rename_i large
    exact .inl ⟨_, rfl, rfl, .tooLarge positive large⟩
  rename_i not_large
  have capped := Nat.le_of_not_lt not_large
  obtain ⟨result, run, found_iff⟩ := exists_findFree settled (allocator.space.orderOf len)
    (allocator.space.classFor wanted)
  simp only [yields_bind, yields_get]
  rw [run, yields_lift_ok]
  cases result with
  | none => exact .inl ⟨_, rfl, rfl, .exhausted positive capped fun serves =>
      Bool.false_ne_true (found_iff.mpr serves)⟩
  | some entry =>
    obtain ⟨id, block⟩ := entry
    have serves := found_iff.mp rfl
    obtain ⟨larger, under, listed⟩ := findFree_eq_ok settled.tiled run
    have drawn := Arena.outline_of_block? under
    have drawn_listed : block.outline.isListed = true := by rwa [Block.isListed_outline]
    have deep : block.order - allocator.space.orderOf len ≤ block.outline.order := by
      rw [Block.outline_order]
      exact Nat.sub_le _ _
    refine yields_handOut_bind.mpr ?_
    rw [yields_bind]
    refine (settles_handOut settled merged drawn drawn_listed deep).mono (fun id third
      ⟨settled_third, books, merged_third, ⟨part, at_third⟩, handed⟩ => ?_)
      fun _ _ crowded => .inr ⟨positive, capped, serves, .inl crowded⟩
    simp only [yields_bind, yields_modify, yields_block_of at_third]
    refine settles_account (fun requested_lt reserved_lt => ?_) fun _ large => ?_
    · refine ⟨positive, capped, serves, ?_⟩
      exact {
        settled := settled_third.withBooks ..
        merged := merged_third
        space := books.space
        handed := fun now => (handed _ _ now).imp_left fun same =>
          owns_insert_ordinary.mpr (.inl ⟨rfl, same⟩)
        owns := fun apart owned => owns_insert_ordinary.mpr (.inr ⟨apart, books.owns_iff.mpr owned⟩)
        recorded := fun has =>
          (of_hasRecord_insert_ordinary has).imp_right books.hasRecord_iff.mp
        requested := congrArg (· + len) books.requested
        reserved := congrArg (· + _) books.reserved
        freed := books.freed
        requested_lt, reserved_lt }
    · dsimp only at large
      rw [books.requested, books.reserved] at large
      exact .inr ⟨positive, capped, serves, .inr ⟨rfl, large⟩⟩

/-- A fixed request is granted when it is well placed, overlaps with nothing on record, and the free
blocks in the range serve it, unless the call is stopped. -/
theorem settles_allocateFixed (settled : allocator.Settled [])
    (merged : Merged allocator.arena.outline)
    (aligned : allocator.space.start % allocator.space.blockSize = 0) {base len : Nat}
    {wanted : PageClass} {busy : Bool} (checked : allocator.overlaps base len = .ok busy) :
    (allocateFixed base len wanted).Yields allocator
      (fun answer after => answer = base ∧ placeable allocator.space base len = true ∧
        busy = false ∧ allocator.Grants (.fixed base) len len after ∧
        (Untaken allocator.arena.outline (allocator.firstUnit base) (allocator.lastUnit base len) →
          Served allocator.arena.outline (allocator.space.classFor wanted)
            (allocator.firstUnit base) (allocator.lastUnit base len)))
      (fun failure after =>
        failure = .refused (.invalidRange base len) ∧
          placeable allocator.space base len = false ∧ after = allocator ∨
        placeable allocator.space base len = true ∧
          (failure = .refused (.rangeInUse base len) ∧ busy = true ∧ after = allocator ∨
          busy = false ∧ (allocator.Crowded failure ∨
            failure = .refused .exhausted ∧ allocator.Denies after ∧
              (Untaken allocator.arena.outline (allocator.firstUnit base)
                  (allocator.lastUnit base len) →
                ¬ Served allocator.arena.outline (allocator.space.classFor wanted)
                  (allocator.firstUnit base) (allocator.lastUnit base len)) ∨
            failure = .aborted .overflow ∧ allocator.Overflows len len ∧
              (Untaken allocator.arena.outline (allocator.firstUnit base)
                  (allocator.lastUnit base len) →
                Served allocator.arena.outline (allocator.space.classFor wanted)
                  (allocator.firstUnit base) (allocator.lastUnit base len))))) := by
  unfold allocateFixed
  simp only [yields_bind, yields_get]
  split
  · rename_i refused
    exact .inl ⟨rfl, by simpa using refused, rfl⟩
  rename_i accepted
  have placeable : placeable allocator.space base len = true := by simpa using accepted
  simp only [yields_bind, yields_get]
  rw [checked, yields_lift_ok]
  cases busy with
  | true => exact .inr ⟨placeable, .inl ⟨rfl, rfl, rfl⟩⟩
  | false =>
    rw [if_neg Bool.false_ne_true]
    simp only [yields_bind, yields_modify]
    refine (settles_claimAll settled merged rfl (Space.le_units_of_placeable aligned placeable)
      List.nodup_nil fun _ mem => absurd mem List.not_mem_nil).mono (fun ids after ⟨settled_after,
        books, merged_after, ⟨fresh, same, handed⟩, served⟩ => ?_) fun failure after failed => ?_
    · rw [List.reverse_nil, List.nil_append] at same
      subst same
      refine settles_account (fun requested_lt reserved_lt => ?_) fun _ large => ?_
      · refine ⟨rfl, placeable, trivial, ?_, served⟩
        exact {
          settled := settled_after.withBooks ..
          merged := merged_after
          space := books.space
          handed := fun {other held} now => (handed other held now).symm.imp_left fun mem =>
            owns_insert_fixed.mpr (.inl ⟨rfl, mem⟩)
          owns := fun apart owned => owns_insert_fixed.mpr (.inr ⟨apart, books.owns_iff.mpr owned⟩)
          recorded := fun has => (of_hasRecord_insert_fixed has).imp_right books.hasRecord_iff.mp
          requested := congrArg (· + len) books.requested
          reserved := congrArg (· + len) books.reserved
          freed := books.freed
          requested_lt, reserved_lt }
      · dsimp only at large
        rw [books.requested, books.reserved] at large
        exact .inr ⟨placeable, .inr ⟨trivial, .inr (.inr ⟨rfl, large, served⟩)⟩⟩
    · refine .inr ⟨placeable, .inr ⟨trivial, ?_⟩⟩
      rcases failed with crowded | ⟨refused, settled_after, books, merged_after, handed, not_served⟩
      · exact .inl crowded
      · refine .inr (.inl ⟨refused, ⟨settled_after, merged_after, books, fun id block => ?_⟩,
          not_served⟩)
        rw [handed]
        exact and_iff_right List.not_mem_nil

/-- What an address is released for: the allocation on record there, with its bytes. -/
inductive OnRecord (allocator : Allocator) (address : Nat) : Owner → Nat → Prop
  | ordinary {id : BlockId} {block : Block}
      (found : allocator.ordinary.find? address = some id)
      (handed : HandedOut allocator.arena.outline id block) :
      OnRecord allocator address (.ordinary address) (allocator.space.blockLength block.order)
  | fixed {range : FixedRange} (absent : allocator.ordinary.find? address = none)
      (found : allocator.fixed.find? address = some range) :
      OnRecord allocator address (.fixed address) range.len

/-- A release gives back what is on record at the address, unless the total of what came back gets
too large; without a record nothing happens. -/
theorem settles_free (settled : allocator.Settled []) (merged : Merged allocator.arena.outline)
    (recorded : allocator.Recorded) {address : Nat} :
    (free address).Yields allocator
      (fun _ after => (∃ owner bytes, allocator.OnRecord address owner bytes ∧
          allocator.Strikes owner bytes after) ∨
        allocator.ordinary.find? address = none ∧ allocator.fixed.find? address = none ∧
          after = allocator)
      (fun failure _ => failure = .aborted .overflow ∧ ∃ owner bytes,
        allocator.OnRecord address owner bytes ∧ Checked.limit64 ≤ allocator.freed + bytes) := by
  unfold free
  simp only [yields_bind, yields_get]
  split
  · rename_i id found
    obtain ⟨block, at_id, allocated, -⟩ := recorded.ordinary found
    have unlisted : block.isListed = false := Block.isListed_of_allocated allocated
    have record : allocator.OnRecord address (.ordinary address) _ :=
      .ordinary found ⟨at_id, allocated⟩
    have under : ({ allocator with ordinary := allocator.ordinary.erase address } :
        Allocator).arena.block? id = some block := Arena.block?_of_unlisted_outline at_id unlisted
    simp only [yields_bind, yields_set, yields_block_of under]
    refine settles_accountFreed ?_ fun _ large => ⟨rfl, _, _, record, large⟩
    have struck := settled.withBooks (allocator.ordinary.erase address) allocator.fixed
      allocator.requested allocator.reserved
      (allocator.freed + allocator.space.blockLength block.order)
    refine (settles_release struck merged ⟨at_id, allocated⟩).mono (fun _ after
      ⟨settled_after, books, merged_after, handed⟩ => ?_) fun _ _ => False.elim
    refine .inl ⟨_, _, record, ?_⟩
    exact {
      settled := settled_after
      merged := merged_after
      space := books.space
      handed := fun {other held} now => by
        obtain ⟨apart, old⟩ := (handed other held).mp now
        exact ⟨fun owns => apart (Option.some.inj (owns.symm.trans found)), old⟩
      owns := fun apart owned => books.owns_iff.mpr (owns_erase_ordinary.mpr ⟨apart, owned⟩)
      recorded := fun has => of_hasRecord_erase_ordinary (books.hasRecord_iff.mp has)
      requested := books.requested
      reserved := books.reserved
      freed := books.freed }
  · rename_i absent
    split
    · rename_i range found
      have record : allocator.OnRecord address (.fixed address) range.len := .fixed absent found
      simp only [yields_bind, yields_set]
      refine settles_accountFreed ?_ fun _ large => ⟨rfl, _, _, record, large⟩
      have struck := settled.withBooks allocator.ordinary (allocator.fixed.erase address)
        allocator.requested allocator.reserved (allocator.freed + range.len)
      have placed := (recorded.fixed found).2
      have in_use : ∀ id ∈ range.tiles,
          ∃ block, HandedOut allocator.arena.outline id block := by
        intro id mem
        obtain ⟨tile, -, block, at_id, allocated, -⟩ := exists_partner_of placed mem
        exact ⟨block, at_id, allocated⟩
      refine (settles_forM_release struck merged (nodup_of_placed placed) in_use).mono
        (fun _ after ⟨settled_after, books, merged_after, handed⟩ => ?_) fun _ _ => False.elim
      refine .inl ⟨_, _, record, ?_⟩
      exact {
        settled := settled_after
        merged := merged_after
        space := books.space
        handed := fun {other held} now => by
          obtain ⟨apart, old⟩ := (handed other held).mp now
          refine ⟨fun ⟨same, present, there⟩ => ?_, old⟩
          obtain rfl : range = same := Option.some.inj (found.symm.trans present)
          exact apart there
        owns := fun apart owned => books.owns_iff.mpr (owns_erase_fixed.mpr ⟨apart, owned⟩)
        recorded := fun has => of_hasRecord_erase_fixed (books.hasRecord_iff.mp has)
        requested := books.requested
        reserved := books.reserved
        freed := books.freed }
    · rename_i missing
      exact .inr ⟨absent, missing, rfl⟩

end Effects

end Allocator

end GpuSched.Buddy
