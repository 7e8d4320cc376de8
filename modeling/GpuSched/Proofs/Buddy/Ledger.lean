import GpuSched.Proofs.Buddy.Records

/-!
# Live allocations never overlap

A ledger lists what the callers of an allocator hold: it is made of the calls and their answers
alone. Along every run each range of the ledger is on record with the allocator, at its own address
and with a block of the least order that holds it, so the reserved ranges are disjoint.
-/
namespace GpuSched.Buddy

open Operation

/-- A range that was granted to a caller. -/
inductive Holding where
  | ordinary (address len : Nat)
  | fixed (base len : Nat)
  deriving DecidableEq, Repr

namespace Holding

/-- The address that was answered. -/
def start : Holding → Nat
  | .ordinary address _ => address
  | .fixed base _ => base

/-- The record of the range. -/
def owner : Holding → Owner
  | .ordinary address _ => .ordinary address
  | .fixed base _ => .fixed base

/-- The range is on record, an ordinary one with a block of the least order that holds it. -/
def Live (allocator : Allocator) : Holding → Prop
  | .ordinary address len => ∃ id block, allocator.ordinary.find? address = some id ∧
      allocator.arena.outline id = some block ∧ block.state = .allocated ∧
      allocator.space.LeastOrder len block.order
  | .fixed base len => ∃ range, allocator.fixed.find? base = some range ∧ range.len = len

end Holding

namespace Allocator

/-- The order of the block of an ordinary allocation. -/
def orderAt (allocator : Allocator) (address : Nat) : Option Nat :=
  ((allocator.ordinary.find? address).bind allocator.arena.block?).map (·.order)

/-- The first address after the range that is reserved for a holding. -/
def stopOf (allocator : Allocator) : Holding → Nat
  | .ordinary address _ =>
      address + allocator.space.blockLength ((allocator.orderAt address).getD 0)
  | .fixed base len => base + len

/-- What the callers hold after a call, from its result. -/
def Request.settle (ledger : List Holding) : Request → Except Failure Nat → List Holding
  | .allocate len _, .ok address => .ordinary address len :: ledger
  | .allocateFixed _ len _, .ok base => .fixed base len :: ledger
  | .allocate _ _, .error _ | .allocateFixed _ _ _, .error _ => ledger
  | .free address, _ => ledger.filter (·.start != address)

/-- The runs of an allocator, with what the callers hold. A call may be answered, refused, or
stopped where a sum leaves its word; a failed check of a block ends a run. -/
inductive Reached (request : SpaceRequest) : Allocator → List Holding → Prop
  | start {allocator : Allocator} (created : create request = .ok allocator) :
      Reached request allocator []
  | step {allocator changed : Allocator} {ledger : List Holding} {result : Except Failure Nat}
      (reached : Reached request allocator ledger) (call : Request)
      (run : perform call allocator = (result, changed))
      (goes_on : ∀ check, result ≠ .error (.aborted (.block check))) :
      Reached request changed (call.settle ledger result)

/-- Carry out some calls one after another, unless a check of a block fails. -/
def performAll (allocator : Allocator) (ledger : List Holding) :
    List Request → Option (Allocator × List Holding)
  | [] => some (allocator, ledger)
  | call :: calls =>
      match perform call allocator with
      | (.error (.aborted (.block _)), _) => none
      | (result, changed) => performAll changed (call.settle ledger result) calls

/-- Calls that are carried out one after another make up a run. -/
theorem Reached.performAll {request : SpaceRequest} {allocator changed : Allocator}
    {ledger held : List Holding} {calls : List Request}
    (reached : Reached request allocator ledger)
    (run : allocator.performAll ledger calls = some (changed, held)) :
    Reached request changed held := by
  induction calls generalizing allocator ledger with
  | nil =>
    obtain ⟨rfl, rfl⟩ := Prod.mk.inj (Option.some.inj run)
    exact reached
  | cons call calls ih =>
    rw [Allocator.performAll] at run
    split at run
    · cases run
    · rename_i result next not_halted outcome
      refine ih (reached.step call outcome fun check same => ?_) run
      subst same
      exact not_halted check rfl

/-- The allocator is tiled, its space is the one that was asked for, its records agree with its
blocks, and each range of the ledger is on record, no two of them in one place. -/
structure Kept (allocator : Allocator) (request : SpaceRequest) (ledger : List Holding) : Prop where
  tiled : allocator.Tiled
  space : Space.create request = .ok allocator.space
  recorded : allocator.Recorded
  live : ∀ holding ∈ ledger, holding.Live allocator
  distinct : ledger.Pairwise fun one other => one.owner ≠ other.owner

section Keeping

variable {request : SpaceRequest} {allocator before after : Allocator} {ledger : List Holding}
  {id : BlockId} {block : Block}

/-- The totals of bytes play no part. -/
theorem Kept.withTotals (kept : allocator.Kept request ledger) (requested reserved freed : Nat) :
    ({ allocator with requested, reserved, freed } : Allocator).Kept request ledger :=
  ⟨⟨kept.tiled.sound, kept.tiled.forest⟩, kept.space,
    ⟨kept.recorded.ordinary, kept.recorded.fixed, kept.recorded.apart⟩, kept.live, kept.distinct⟩

/-- Callers may hold less. -/
theorem Kept.filter (kept : allocator.Kept request ledger) (keep : Holding → Bool) :
    allocator.Kept request (ledger.filter keep) :=
  ⟨kept.tiled, kept.space, kept.recorded,
    fun holding mem => kept.live holding (List.mem_filter.mp mem).1, kept.distinct.filter keep⟩

/-- Callers may hold all but the latest range. -/
theorem Kept.tail {holding : Holding} (kept : allocator.Kept request (holding :: ledger)) :
    allocator.Kept request ledger :=
  ⟨kept.tiled, kept.space, kept.recorded,
    fun other mem => kept.live other (List.mem_cons_of_mem _ mem),
    (List.pairwise_cons.mp kept.distinct).2⟩

/-- A range on record has a record. -/
theorem Kept.exists_owns (kept : allocator.Kept request ledger) {holding : Holding}
    (mem : holding ∈ ledger) :
    (∃ address id, holding.owner = .ordinary address ∧
      allocator.ordinary.find? address = some id) ∨
    ∃ base range, holding.owner = .fixed base ∧ allocator.fixed.find? base = some range := by
  have live := kept.live holding mem
  cases holding with
  | ordinary address len =>
    obtain ⟨id, -, found, -⟩ := live
    exact .inl ⟨address, id, rfl, found⟩
  | fixed base len =>
    obtain ⟨range, found, -⟩ := live
    exact .inr ⟨base, range, rfl, found⟩

/-- A step on blocks keeps what it spares. -/
theorem Kept.spared (kept : before.Kept request ledger) {gone : List BlockId} (tiled : after.Tiled)
    (spares : Spares gone before after)
    (unowned : ∀ owner id, before.Owns owner id → id ∉ gone) : after.Kept request ledger where
  tiled := tiled
  space := by
    rw [spares.space]
    exact kept.space
  recorded := kept.recorded.spared spares unowned
  live holding mem := by
    have live := kept.live holding mem
    cases holding with
    | ordinary address len =>
      obtain ⟨id, block, found, at_block, allocated, least⟩ := live
      have spared := unowned (.ordinary address) id found
      exact ⟨id, block, by rw [spares.ordinary, found],
        spares.allocated at_block allocated spared, allocated, by rwa [spares.space]⟩
    | fixed base len =>
      obtain ⟨range, found, same⟩ := live
      exact ⟨range, by rw [spares.fixed, found], same⟩
  distinct := kept.distinct

/-- No ordinary allocation is where a block lies that is on no record. -/
theorem Kept.fresh_ordinary (kept : allocator.Kept request ledger)
    (found : allocator.arena.outline id = some block) (allocated : block.state = .allocated)
    (unowned : ∀ owner, ¬ allocator.Owns owner id) :
    allocator.ordinary.find? (allocator.space.address block.position) = none := by
  by_contra taken
  obtain ⟨other, present⟩ := Option.ne_none_iff_exists'.mp taken
  obtain ⟨held, at_other, in_use, start⟩ := kept.recorded.ordinary present
  have position := Space.address_injective start
  have first : held.Covers held.position := ⟨Nat.le_refl _, by
    have := twoPow_pos held.order
    unfold Block.span
    omega⟩
  have second : block.Covers held.position := ⟨by omega, by
    have := twoPow_pos block.order
    unfold Block.span
    omega⟩
  obtain rfl := kept.tiled.forest.leafAt_unique (leafAt_of_allocated at_other in_use first)
    (leafAt_of_allocated found allocated second)
  exact unowned (.ordinary _) present

/-- No fixed allocation is where blocks lie that are on no record. -/
theorem Kept.fresh_fixed (kept : allocator.Kept request ledger) {base len : Nat}
    {ids : List BlockId}
    (placeable : placeable allocator.space base len = true)
    (placed : List.Forall₂ allocator.Placed (allocator.space.rangeTiles base len) ids)
    (unowned : ∀ owner, ∀ id ∈ ids, ¬ allocator.Owns owner id) :
    allocator.fixed.find? base = none := by
  by_contra taken
  obtain ⟨range, present⟩ := Option.ne_none_iff_exists'.mp taken
  have aligned := Space.start_mod_blockSize kept.space
  have nonempty := (Space.of_placeable aligned placeable).2.1
  have other_nonempty := (Space.of_placeable aligned (kept.recorded.fixed present).1).2.1
  obtain ⟨id, mem, leaf⟩ := leafAt_of_placed placed (Nat.le_refl _) (by omega)
  obtain ⟨other, owns, other_leaf⟩ :=
    kept.recorded.spans_fixed present _ (Nat.le_refl _) (by omega)
  obtain rfl := kept.tiled.forest.leafAt_unique leaf other_leaf
  exact unowned (.fixed base) id mem owns

/-- An ordinary allocation is granted. -/
theorem Kept.grant_ordinary (kept : allocator.Kept request ledger)
    (found : allocator.arena.outline id = some block) (allocated : block.state = .allocated)
    (unowned : ∀ owner, ¬ allocator.Owns owner id) {len : Nat}
    (least : allocator.space.LeastOrder len block.order) :
    ({ allocator with
      ordinary := allocator.ordinary.insert (allocator.space.address block.position) id } :
      Allocator).Kept request
        (.ordinary (allocator.space.address block.position) len :: ledger) where
  tiled := ⟨kept.tiled.sound, kept.tiled.forest⟩
  space := kept.space
  recorded := kept.recorded.insert_ordinary found allocated unowned
  live holding mem := by
    rcases List.mem_cons.mp mem with rfl | mem
    · exact ⟨id, block, by simp [Table.find?_insert], found, allocated, least⟩
    · have live := kept.live holding mem
      cases holding with
      | ordinary address len =>
        obtain ⟨other, held, present, rest⟩ := live
        have apart : address ≠ allocator.space.address block.position := by
          rintro rfl
          rw [kept.fresh_ordinary found allocated unowned] at present
          cases present
        exact ⟨other, held, by rw [Table.find?_insert, if_neg apart, present], rest⟩
      | fixed base len => exact live
  distinct := by
    refine List.pairwise_cons.mpr ⟨fun holding mem same => ?_, kept.distinct⟩
    rcases kept.exists_owns mem with ⟨address, other, owner, present⟩ | ⟨base, range, owner, -⟩
    · rw [owner] at same
      obtain rfl := Owner.ordinary.inj same
      rw [kept.fresh_ordinary found allocated unowned] at present
      cases present
    · rw [owner] at same
      cases same

/-- A fixed allocation is granted. -/
theorem Kept.grant_fixed (kept : allocator.Kept request ledger) (base : Nat) (range : FixedRange)
    (placeable : placeable allocator.space base range.len = true)
    (placed : List.Forall₂ allocator.Placed (allocator.space.rangeTiles base range.len) range.tiles)
    (unowned : ∀ owner, ∀ id ∈ range.tiles, ¬ allocator.Owns owner id) :
    ({ allocator with fixed := allocator.fixed.insert base range } : Allocator).Kept request
      (.fixed base range.len :: ledger) where
  tiled := ⟨kept.tiled.sound, kept.tiled.forest⟩
  space := kept.space
  recorded := kept.recorded.insert_fixed placeable placed unowned
  live holding mem := by
    rcases List.mem_cons.mp mem with rfl | mem
    · exact ⟨range, by simp [Table.find?_insert], rfl⟩
    · have live := kept.live holding mem
      cases holding with
      | ordinary address len => exact live
      | fixed other len =>
        obtain ⟨held, present, same⟩ := live
        have apart : other ≠ base := by
          rintro rfl
          rw [kept.fresh_fixed placeable placed unowned] at present
          cases present
        exact ⟨held, by rw [Table.find?_insert, if_neg apart, present], same⟩
  distinct := by
    refine List.pairwise_cons.mpr ⟨fun holding mem same => ?_, kept.distinct⟩
    rcases kept.exists_owns mem with ⟨address, other, owner, -⟩ | ⟨other, held, owner, present⟩
    · rw [owner] at same
      cases same
    · rw [owner] at same
      obtain rfl := Owner.fixed.inj same
      rw [kept.fresh_fixed placeable placed unowned] at present
      cases present

/-- What is held elsewhere stays when an ordinary allocation is struck out. -/
theorem Kept.strike_ordinary (kept : allocator.Kept request ledger) (address : Nat) :
    ({ allocator with ordinary := allocator.ordinary.erase address } : Allocator).Kept request
      (ledger.filter (·.start != address)) where
  tiled := ⟨kept.tiled.sound, kept.tiled.forest⟩
  space := kept.space
  recorded := kept.recorded.erase_ordinary address
  live holding mem := by
    obtain ⟨mem, elsewhere⟩ := List.mem_filter.mp mem
    have live := kept.live holding mem
    cases holding with
    | ordinary other len =>
      obtain ⟨id, block, present, rest⟩ := live
      have apart : other ≠ address := by simpa [Holding.start] using elsewhere
      exact ⟨id, block, by rw [Table.find?_erase, if_neg apart, present], rest⟩
    | fixed base len => exact live
  distinct := kept.distinct.filter _

/-- What is held elsewhere stays when a fixed allocation is struck out. -/
theorem Kept.strike_fixed (kept : allocator.Kept request ledger) (base : Nat) :
    ({ allocator with fixed := allocator.fixed.erase base } : Allocator).Kept request
      (ledger.filter (·.start != base)) where
  tiled := ⟨kept.tiled.sound, kept.tiled.forest⟩
  space := kept.space
  recorded := kept.recorded.erase_fixed base
  live holding mem := by
    obtain ⟨mem, elsewhere⟩ := List.mem_filter.mp mem
    have live := kept.live holding mem
    cases holding with
    | ordinary address len => exact live
    | fixed other len =>
      obtain ⟨range, present, same⟩ := live
      have apart : other ≠ base := by simpa [Holding.start] using elsewhere
      exact ⟨range, by rw [Table.find?_erase, if_neg apart, present], same⟩
  distinct := kept.distinct.filter _

end Keeping

section Calls

variable {request : SpaceRequest} {allocator : Allocator} {ledger : List Holding}

/-- Accounting changes the totals of bytes only. -/
theorem yields_account {asked given : Nat} (kept : allocator.Kept request ledger)
    {failed : List Holding}
    (still : ∀ after : Allocator, after.Kept request ledger → after.Kept request failed) :
    (account asked given).Yields allocator (fun _ after => after.Kept request ledger)
      (fun failure after => Halts failure ∨ after.Kept request failed) := by
  unfold account
  simp only [yields_bind, yields_get, yields_modify]
  refine yields_lift_of (fun requested _ => ?_) fun _ _ => .inr (still _ kept)
  refine yields_lift_of (fun reserved _ => ?_) fun _ _ => .inr (still _ ?_)
  · exact kept.withTotals requested reserved allocator.freed
  · exact kept.withTotals requested allocator.reserved allocator.freed

/-- Accounting for what came back changes the total only. -/
theorem yields_accountFreed {bytes : Nat} (kept : allocator.Kept request ledger)
    {good : Unit → Allocator → Prop} (works : ∀ freed, good () { allocator with freed }) :
    (accountFreed bytes).Yields allocator good
      (fun failure after => Halts failure ∨ after.Kept request ledger) := by
  unfold accountFreed
  simp only [yields_bind, yields_get, yields_modify]
  exact yields_lift_of (fun freed _ => works freed) fun _ _ => .inr kept

/-- What is intact and on no record keeps the ledger. -/
theorem Kept.of_intact {before after : Allocator} {gone : List BlockId} {failure : Failure}
    (kept : before.Kept request ledger) (unowned : ∀ owner id, before.Owns owner id → id ∉ gone)
    (intact : Intact gone before failure after) : Halts failure ∨ after.Kept request ledger :=
  intact.imp_right fun ⟨tiled, spares⟩ => kept.spared tiled spares unowned

/-- An ordinary request is granted with a block of the least order, or nothing is granted. -/
theorem yields_allocate (kept : allocator.Kept request ledger) {len : Nat} {wanted : PageClass} :
    (allocate len wanted).Yields allocator
      (fun address after => after.Kept request (.ordinary address len :: ledger))
      (fun failure after => Halts failure ∨ after.Kept request ledger) := by
  have untouched {failure : Failure} : Halts failure ∨ allocator.Kept request ledger := .inr kept
  have nothing : ∀ owner id, allocator.Owns owner id → id ∉ ([] : List BlockId) :=
    fun _ _ _ => List.not_mem_nil
  unfold allocate
  simp only [yields_bind, yields_get]
  split
  · exact untouched
  · split
    · exact untouched
    · simp only [yields_bind, yields_get]
      refine yields_lift_of (fun found run => ?_) fun _ _ => untouched
      split
      · exact untouched
      · rename_i id block
        obtain ⟨larger, under, listed⟩ := findFree_eq_ok kept.tiled run
        simp only [yields_bind]
        refine (yields_unlink kept.tiled).mono (fun _ first ⟨tiled_first, unlinked, held, at_held,
          _, shown⟩ => ?_) fun _ _ => kept.of_intact nothing
        rw [under, Option.some.injEq] at at_held
        subst at_held
        have at_block : first.arena.outline id = some { block with state := .loose } := by
          rw [shown, Function.update_self]
        refine (yields_splitLeft tiled_first at_block rfl).mono (fun part second ⟨tiled_second,
          splitting, leaf, at_leaf, loose, _, lower⟩ => ?_)
          fun _ _ intact => kept.of_intact nothing (.after unlinked intact)
        have so_far := unlinked.then splitting
        have unused : allocator.Unused part := by
          refine so_far.unused (unused_of_outline at_leaf ?_)
          rw [loose]
          exact BlockState.noConfusion
        refine (yields_markAllocated tiled_second).mono (fun _ third ⟨tiled_third, marked, same,
          at_same, _, marked_outline⟩ => ?_)
          fun _ _ intact => kept.of_intact nothing (.after so_far intact)
        rw [at_leaf, Option.some.injEq] at at_same
        subst at_same
        have spares := so_far.then marked
        have kept_third := kept.spared tiled_third spares nothing
        have at_part : third.arena.outline part = some { leaf with state := .allocated } := by
          rw [marked_outline, Function.update_self]
        refine yields_block (fun taken at_taken => ?_) fun _ halts => .inl halts
        have position : taken.position = leaf.position := by
          rw [Arena.outline_of_block? at_taken, Option.some.injEq] at at_part
          rw [← Block.outline_position taken, at_part]
        dsimp only at lower
        have order : leaf.order = Alignment.orderFor
            ((len + allocator.space.blockSize - 1) / allocator.space.blockSize) := by
          omega
        have least : third.space.LeastOrder len leaf.order := by
          rw [spares.space, order]
          exact Space.leastOrder_orderFor allocator.space len
        have granted := kept_third.grant_ordinary at_part rfl
          (fun owner owns => kept.recorded.not_owns unused owner (spares.owns_iff.mp owns)) least
        rw [yields_modify, position, ← spares.space]
        exact (yields_account granted fun _ => Kept.tail).imp fun _ _ kept => kept

/-- A fixed request is granted as asked, or nothing is granted. -/
theorem yields_allocateFixed (kept : allocator.Kept request ledger) {base len : Nat}
    {wanted : PageClass} :
    (allocateFixed base len wanted).Yields allocator
      (fun answer after => after.Kept request (.fixed answer len :: ledger))
      (fun failure after => Halts failure ∨ after.Kept request ledger) := by
  have untouched {failure : Failure} : Halts failure ∨ allocator.Kept request ledger := .inr kept
  have nothing : ∀ owner id, allocator.Owns owner id → id ∉ ([] : List BlockId) :=
    fun _ _ _ => List.not_mem_nil
  unfold allocateFixed
  simp only [yields_bind, yields_get]
  split
  · exact untouched
  · rename_i accepted
    have placeable : placeable allocator.space base len = true := by simpa using accepted
    simp only [yields_bind, yields_get]
    refine yields_lift_of (fun busy _ => ?_) fun _ _ => untouched
    split
    · exact untouched
    · simp only [yields_bind, yields_modify]
      refine (yields_claimAll kept.tiled fun tile mem => (of_mem_tiling mem).2.2.1).mono
        (fun ids after ⟨tiled_after, spares, fresh, same, placed, unused⟩ => ?_)
        fun _ _ => kept.of_intact nothing
      rw [List.reverse_nil, List.nil_append] at same
      subst same
      have kept_after := kept.spared tiled_after spares nothing
      have granted := kept_after.grant_fixed base ⟨len, ids⟩
        (by rw [spares.space]; exact placeable) (by rw [spares.space]; exact placed)
        fun owner id mem owns => kept.recorded.not_owns (unused id mem) owner
          (spares.owns_iff.mp owns)
      exact (yields_account granted fun _ => Kept.tail).imp fun _ _ kept => kept

/-- A fixed request is answered with the base that it asks for. -/
theorem yields_base (allocator : Allocator) (base len : Nat) (wanted : PageClass) :
    (allocateFixed base len wanted).Yields allocator (fun answer _ => answer = base)
      fun _ _ => True := by
  unfold allocateFixed
  simp only [yields_bind, yields_get]
  split
  · trivial
  simp only [yields_bind, yields_get]
  refine yields_of_forall (fun busy _ => ?_) fun _ _ => trivial
  split
  · trivial
  simp only [yields_bind]
  refine yields_of_forall (fun ids _ => ?_) fun _ _ => trivial
  refine yields_of_forall (fun _ _ => ?_) fun _ _ => trivial
  exact yields_of_forall (fun _ _ => rfl) fun _ _ => trivial

/-- A release gives up what starts at the address and keeps what is held elsewhere. -/
theorem yields_free (kept : allocator.Kept request ledger) {address : Nat} :
    (free address).Yields allocator
      (fun _ after => after.Kept request (ledger.filter (·.start != address)))
      (fun failure after =>
        Halts failure ∨ after.Kept request (ledger.filter (·.start != address))) := by
  unfold free
  simp only [yields_bind, yields_get]
  split
  · rename_i id found
    simp only [yields_bind, yields_set]
    have struck := kept.strike_ordinary address
    refine yields_block (fun block _ => ?_) fun _ halts => .inl halts
    refine yields_accountFreed struck fun freed => ?_
    have counted := struck.withTotals allocator.requested allocator.reserved freed
    have unowned : ∀ owner held, ({ allocator with
        ordinary := allocator.ordinary.erase address, freed } : Allocator).Owns owner held →
          held ∉ [id] := by
      intro owner held owns mem
      obtain ⟨other, owns⟩ := owns_erase_ordinary.mp owns
      rw [List.mem_singleton.mp mem] at owns
      exact other (kept.recorded.apart owns found)
    exact (yields_release counted.tiled).mono
      (fun _ _ ⟨tiled, spares⟩ => counted.spared tiled spares unowned)
      fun _ _ => counted.of_intact unowned
  · split
    · rename_i range found
      simp only [yields_bind, yields_set]
      have struck := kept.strike_fixed address
      refine yields_accountFreed struck fun freed => ?_
      have counted := struck.withTotals allocator.requested allocator.reserved freed
      have unowned : ∀ owner held, ({ allocator with
          fixed := allocator.fixed.erase address, freed } : Allocator).Owns owner held →
            held ∉ range.tiles := by
        intro owner held owns mem
        obtain ⟨other, owns⟩ := owns_erase_fixed.mp owns
        exact other (kept.recorded.apart owns ⟨range, found, mem⟩)
      exact (yields_forM_release counted.tiled range.tiles).mono
        (fun _ _ ⟨tiled, spares⟩ => counted.spared tiled spares unowned)
        fun _ _ => counted.of_intact unowned
    · exact kept.filter _

/-- Every call keeps the records and the ledger together. -/
theorem yields_perform (kept : allocator.Kept request ledger) (call : Request) :
    (perform call).Yields allocator
      (fun answer after => after.Kept request (call.settle ledger (.ok answer)))
      (fun failure after =>
        Halts failure ∨ after.Kept request (call.settle ledger (.error failure))) := by
  cases call with
  | allocate len pageClass => exact yields_allocate kept
  | allocateFixed base len pageClass => exact yields_allocateFixed kept
  | free address =>
    unfold perform
    rw [yields_bind]
    exact yields_free kept

end Calls

section Runs

variable {request : SpaceRequest} {allocator : Allocator} {ledger : List Holding}

/-- Along a run the records and the ledger stay together. -/
theorem Reached.kept (reached : Reached request allocator ledger) :
    allocator.Kept request ledger := by
  induction reached with
  | start created =>
    obtain ⟨tiled, ordinary, fixed, space⟩ := tiled_create created
    refine ⟨tiled, space, ⟨fun found => ?_, fun found => ?_, fun {one other id} owns _ => ?_⟩, ?_,
      .nil⟩
    · rw [ordinary] at found
      cases found
    · rw [fixed] at found
      cases found
    · cases one with
      | ordinary address =>
        unfold Owns at owns
        rw [ordinary] at owns
        cases owns
      | fixed base =>
        obtain ⟨range, found, -⟩ := owns
        rw [fixed] at found
        cases found
    · simp
  | @step before after _ result _ call run goes_on kept =>
    have outcome := yields_perform kept call
    cases result with
    | ok answer => exact outcome.of_ok run
    | error failure =>
      rcases outcome.of_error run with ⟨check, halted⟩ | kept
      · exact absurd (congrArg Except.error halted) (goes_on check)
      · exact kept

/-- An ordinary holding has a block on record, which starts at its address. -/
theorem Kept.block_of_ordinary (kept : allocator.Kept request ledger) {address len : Nat}
    (mem : Holding.ordinary address len ∈ ledger) :
    ∃ id block, allocator.ordinary.find? address = some id ∧
      allocator.arena.outline id = some block ∧ block.state = .allocated ∧
      address = allocator.space.address block.position ∧
      allocator.orderAt address = some block.order ∧
      allocator.space.LeastOrder len block.order := by
  obtain ⟨id, block, found, at_block, allocated, least⟩ := kept.live _ mem
  obtain ⟨held, at_held, -, start⟩ := kept.recorded.ordinary found
  rw [at_block, Option.some.injEq] at at_held
  subst at_held
  have unlisted : block.isListed = false := Block.isListed_of_allocated allocated
  have under := Arena.block?_of_unlisted_outline at_block unlisted
  refine ⟨id, block, found, at_block, allocated, start, ?_, least⟩
  unfold orderAt
  rw [found, Option.bind_some, under, Option.map_some]

/-- The units of a holding, and the record that has them. -/
theorem Kept.units (kept : allocator.Kept request ledger) {holding : Holding}
    (mem : holding ∈ ledger) :
    ∃ first last, first < last ∧ allocator.space.address first = holding.start ∧
      allocator.space.address last = allocator.stopOf holding ∧
      allocator.space.address last ≤ allocator.space.limit ∧
      allocator.Spans holding.owner first last := by
  cases holding with
  | ordinary address len =>
    obtain ⟨id, block, found, at_block, allocated, start, order, -⟩ := kept.block_of_ordinary mem
    have positive := twoPow_pos block.order
    have stop : allocator.space.address (block.position + block.span) =
        allocator.stopOf (.ordinary address len) := by
      unfold stopOf
      dsimp only
      rw [order, Option.getD_some, Block.span, ← Space.address_add_blockLength, ← start]
    refine ⟨block.position, block.position + block.span, ?_, start.symm, stop, ?_,
      spans_ordinary found at_block allocated⟩
    · unfold Block.span
      omega
    · refine Space.address_le_limit ?_ (kept.tiled.forest.fits at_block).inside
      unfold Block.span
      omega
  | fixed base len =>
    obtain ⟨range, found, rfl⟩ := kept.live _ mem
    obtain ⟨start, nonempty, stop, inside⟩ := Space.of_placeable
      (Space.start_mod_blockSize kept.space) (kept.recorded.fixed found).1
    exact ⟨_, _, by omega, start, stop, stop ▸ inside, kept.recorded.spans_fixed found⟩

/-- In every run, whatever is called, the reserved ranges of the live allocations are disjoint and
lie in the space, and an ordinary allocation has an aligned block of the least order that holds what
was asked for. -/
theorem reached_disjoint (reached : Reached request allocator ledger) :
    Space.create request = .ok allocator.space ∧
      ledger.Pairwise (fun one other =>
        allocator.stopOf one ≤ other.start ∨ allocator.stopOf other ≤ one.start) ∧
      (∀ holding ∈ ledger, allocator.space.start ≤ holding.start ∧
        holding.start < allocator.stopOf holding ∧
        allocator.stopOf holding ≤ allocator.space.limit) ∧
      (∀ address len, Holding.ordinary address len ∈ ledger → ∃ order,
        allocator.orderAt address = some order ∧ allocator.space.LeastOrder len order ∧
        (address - allocator.space.start) % allocator.space.blockLength order = 0) ∧
      ∀ base len, Holding.fixed base len ∈ ledger →
        (allocator.fixed.find? base).map (·.len) = some len := by
  have kept := reached.kept
  refine ⟨kept.space, ?_, fun holding mem => ?_, fun address len mem => ?_, fun base len mem => ?_⟩
  · refine kept.distinct.imp_of_mem fun {one other} mem mem' distinct => ?_
    obtain ⟨first, last, nonempty, start, stop, -, spans⟩ := kept.units mem
    obtain ⟨first', last', nonempty', start', stop', -, spans'⟩ := kept.units mem'
    rcases kept.recorded.disjoint kept.tiled distinct spans spans' nonempty nonempty' with le | le
    · exact .inl (by rw [← stop, ← start']; exact Space.address_le_address le)
    · exact .inr (by rw [← stop', ← start]; exact Space.address_le_address le)
  · obtain ⟨first, last, nonempty, start, stop, inside, -⟩ := kept.units mem
    rw [← start, ← stop]
    refine ⟨Nat.le_add_right _ _, ?_, inside⟩
    exact Nat.add_lt_add_left (Nat.mul_lt_mul_of_pos_right nonempty allocator.space.blockSize_pos) _
  · obtain ⟨id, block, -, at_block, -, start, order, least⟩ := kept.block_of_ordinary mem
    refine ⟨block.order, order, least, ?_⟩
    have aligned := Nat.dvd_of_mod_eq_zero (kept.tiled.forest.fits at_block).aligned
    rw [start]
    unfold Space.address Space.blockLength
    rw [Nat.add_sub_cancel_left, Nat.mul_comm block.position]
    exact Nat.mod_eq_zero_of_dvd (Nat.mul_dvd_mul_left _ aligned)
  · obtain ⟨range, found, same⟩ := kept.live _ mem
    rw [found, Option.map_some, same]

/-- Three calls leave two ranges to their callers, side by side in a space of eight blocks. -/
theorem reached_disjoint_of_calls : ∃ allocator,
    Reached { name := "heap", base := 0x1000, length := 0x8000, blockSize := 0x1000 } allocator
      [.fixed 0x5000 0x3000, .ordinary 0x1000 0x1800] ∧
    [Holding.fixed 0x5000 0x3000, .ordinary 0x1000 0x1800].Pairwise fun one other =>
      allocator.stopOf one ≤ other.start ∨ allocator.stopOf other ≤ one.start := by
  have outcome : ((create
      { name := "heap", base := 0x1000, length := 0x8000, blockSize := 0x1000 }).toOption.bind
        fun allocator => (allocator.performAll [] [.allocate 0x1800 .any,
          .allocateFixed 0x5000 0x3000 .any, .allocate 0x3000 .any]).map (·.2)) =
        some [.fixed 0x5000 0x3000, .ordinary 0x1000 0x1800] := by decide +kernel
  obtain ⟨first, created, ran⟩ := Option.bind_eq_some_iff.mp outcome
  obtain ⟨⟨allocator, held⟩, run, rfl⟩ := Option.map_eq_some_iff.mp ran
  have started : create { name := "heap", base := 0x1000, length := 0x8000, blockSize := 0x1000 } =
      .ok first := by
    unfold Except.toOption at created
    split at created
    · cases created
      assumption
    · cases created
  have reached := (Reached.start started).performAll run
  exact ⟨allocator, reached, (reached_disjoint reached).2.1⟩

end Runs

end Allocator

end GpuSched.Buddy
