import GpuSched.Proofs.Buddy.Availability
import GpuSched.Proofs.Buddy.Upkeep
import GpuSched.Proofs.Buddy.Zones

/-!
# Calls for page sizes

A call for a page size leaves the blocks of every directory entry to one page size and hands out
blocks that serve it. So in an allocator that is only called so, what callers hold for different
page sizes never meets within one directory entry (`Allotted.not_both`).
-/
namespace GpuSched.Buddy

open Operation

/-- A holding has a byte in a window of a space. -/
def Space.Reaches (space : Space) (holding : Holding) (order index : Nat) : Prop :=
  holding.start < space.windowAt order index + space.blockLength order ∧
    space.windowAt order index < holding.start + space.bytesOf holding

namespace Allocator

/-- The blocks of an allocator are for the page sizes of their relatives. -/
abbrev IsZoned (allocator : Allocator) : Prop := Zoned allocator.space allocator.arena.outline

/-- What sheds blocks keeps their page sizes. -/
theorem IsZoned.shed {before after : Allocator} (zoned : before.IsZoned)
    (shed : Shed before after) : after.IsZoned := by
  unfold IsZoned
  rw [shed.1]
  exact Zoned.shed zoned (Arena.sheds_outline shed.2)

/-- Another state of a block does not change what the blocks are for. -/
theorem IsZoned.relabel {before after : Allocator} {id : BlockId} {block : Block}
    {state : BlockState} (zoned : before.IsZoned) (books : SameBooks before after)
    (found : before.arena.outline id = some block)
    (shown : after.arena.outline =
      Function.update before.arena.outline id (some { block with state })) : after.IsZoned := by
  unfold IsZoned
  rw [books.space, shown]
  exact Zoned.shed zoned (sheds_relabel found state)

/-- An operation that sheds blocks yields an allocator whose blocks keep their page sizes. -/
theorem yields_zoned {α : Type} {allocator : Allocator} {operation : Operation Allocator α}
    (zoned : allocator.IsZoned) (respects : Respects Shed operation) :
    operation.Yields allocator (fun _ after => after.IsZoned) fun _ after => after.IsZoned :=
  (respects_iff_yields.mp respects allocator).mono (fun _ _ => zoned.shed) fun _ _ => zoned.shed

section Splitting

variable {allocator : Allocator} {id : BlockId} {block : Block} {hand : List BlockId}
  {pageClass : PageClass}

/-- A descent for a page size from a block that serves it ends at a part that serves it. -/
theorem Descends.zoned {before after : Allocator} {part : BlockId} {half : Block}
    (descends : Descends pageClass hand before id block after part half)
    (settled : before.Settled (id :: hand)) (zoned : before.IsZoned)
    (serves : block.pageClass.accepts pageClass = true) (sized : pageClass ≠ .any) :
    after.IsZoned ∧ half.pageClass.accepts pageClass = true := by
  induction descends with
  | stays => exact ⟨zoned, serves⟩
  | cuts one _ ih =>
    obtain ⟨left, right, leftHalf, rightHalf, order, halved, left_class, right_class, outline,
      sides⟩ := one.halves
    refine ih one.carves.settled ?_ ?_
    · unfold IsZoned
      rw [one.carves.books.space, outline]
      exact zoned.halved settled.forest halved left_class right_class serves sized
    · rcases sides with ⟨-, rfl⟩ | ⟨-, rfl⟩
      · rw [left_class]
        exact accepts_halfClass ..
      · rw [right_class]
        exact accepts_halfClass ..

/-- A part that is cut for a page size out of a free block that serves it serves it too. -/
theorem Extracts.zoned {before after : Allocator} {part : BlockId} {half : Block}
    (extracts : Extracts pageClass hand before id block part half after) (zoned : before.IsZoned)
    (serves : block.pageClass.accepts pageClass = true) (sized : pageClass ≠ .any) :
    after.IsZoned ∧ half.pageClass.accepts pageClass = true := by
  obtain ⟨first, settled, books, -, shown, descends⟩ := extracts.descends
  exact descends.zoned settled (zoned.relabel books extracts.found shown) serves sized

/-- What is split off a free block that serves a page size and is handed out serves it too, and
nothing else is handed out. -/
theorem zoned_handOut (settled : allocator.Settled hand) (merged : Merged allocator.arena.outline)
    (zoned : allocator.IsZoned) {levels : Nat} (found : allocator.arena.outline id = some block)
    (listed : block.isListed = true) (deep : levels ≤ block.order)
    (serves : block.pageClass.accepts pageClass = true) (sized : pageClass ≠ .any) :
    (handOut pageClass levels id).Yields allocator
      (fun _ after => after.IsZoned ∧ ∀ other held, HandedOut after.arena.outline other held →
        held.pageClass.accepts pageClass = true ∨ HandedOut allocator.arena.outline other held)
      (fun failure _ => allocator.Crowded failure) := by
  refine (extracts_handOut settled merged found listed deep).imp ?_
  rintro part after ⟨half, middle, extracts, -, books, marked⟩
  obtain ⟨zoned_middle, half_serves⟩ := extracts.zoned zoned serves sized
  refine ⟨zoned_middle.relabel books extracts.ends.1 marked, fun other held now => ?_⟩
  rw [marked] at now
  rcases handedOut_update_iff.mp now with ⟨-, rfl, -⟩ | ⟨-, before⟩
  · exact .inl half_serves
  · exact .inr (extracts.handedOut_iff.mp before)

/-- A tile that is claimed for a page size serves it. -/
theorem zoned_claim (settled : allocator.Settled hand) (merged : Merged allocator.arena.outline)
    (zoned : allocator.IsZoned) {tile : Tile} (sized : pageClass ≠ .any) :
    (claim tile pageClass).Yields allocator
      (fun result after => after.IsZoned ∧ ∀ id part, result = some id →
        after.arena.outline id = some part → part.pageClass.accepts pageClass = true)
      (fun failure _ => allocator.Crowded failure) := by
  refine (extracts_claim settled merged tile).imp ?_
  rintro result after (⟨rfl, rfl, -⟩ | ⟨id, whole, block, half, rfl, extracts, serves, -⟩)
  · exact ⟨zoned, fun _ _ impossible => by cases impossible⟩
  · obtain ⟨zoned_after, half_serves⟩ := extracts.zoned zoned serves sized
    refine ⟨zoned_after, fun other part same at_part => ?_⟩
    obtain rfl := Option.some.inj same
    obtain rfl := Option.some.inj (extracts.ends.1.symm.trans at_part)
    exact half_serves

/-- The tiles that are claimed for a page size serve it, and nothing else is handed out. -/
theorem zoned_claimAll (settled : allocator.Settled []) (merged : Merged allocator.arena.outline)
    (zoned : allocator.IsZoned) {tiles : List Tile} (aligned : ∀ tile ∈ tiles, tile.Aligned)
    {claimed : List BlockId} (sized : pageClass ≠ .any) :
    (claimAll pageClass tiles claimed).Yields allocator
      (fun _ after => after.IsZoned ∧ ∀ other held, HandedOut after.arena.outline other held →
        held.pageClass.accepts pageClass = true ∨ HandedOut allocator.arena.outline other held)
      (fun failure after => allocator.Crowded failure ∨ after.IsZoned) := by
  induction tiles generalizing allocator claimed with
  | nil => exact ⟨zoned, fun _ _ => .inr⟩
  | cons tile tiles ih =>
    obtain ⟨place, places⟩ := List.forall_mem_cons.mp aligned
    unfold claimAll
    rw [yields_bind]
    refine ((settles_claim settled merged place).and (zoned_claim settled merged zoned sized)).mono
      ?_ fun _ _ crowded => .inl crowded.1
    rintro result middle ⟨⟨rfl, rfl, -⟩ | ⟨id, rfl, claim⟩, zoned_middle, part_serves⟩
    · dsimp only
      rw [yields_bind]
      refine (yields_zoned zoned (respects_forM respects_release claimed.reverse)).mono ?_
        fun _ _ => .inr
      exact fun _ _ => .inr
    · obtain ⟨part, at_part, loose, -⟩ := claim.part
      dsimp only
      rw [yields_bind]
      refine (settles_markAllocated claim.settled at_part loose).mono ?_ fun _ _ => False.elim
      rintro _ second ⟨settled_second, books_second, shown⟩
      have books := claim.books.trans books_second
      have zoned_second := zoned_middle.relabel books_second at_part shown
      refine (ih settled_second (claim.merged.relabel rfl shown) zoned_second places).mono ?_
        fun _ _ => Or.imp_left books.crowded
      rintro _ after ⟨zoned_after, handed⟩
      refine ⟨zoned_after, fun other held now => ?_⟩
      rcases handed other held now with serves | earlier
      · exact .inl serves
      · rw [shown] at earlier
        rcases handedOut_update_iff.mp earlier with ⟨-, rfl, -⟩ | ⟨-, before⟩
        · exact .inl (part_serves id part rfl at_part)
        · exact .inr ((claim.handedOut other held).mp before)

end Splitting

section Calls

variable {allocator : Allocator} {wanted : PageClass}

/-- A granted ordinary request hands out blocks for its page size only. -/
theorem zoned_allocate (settled : allocator.Settled []) (merged : Merged allocator.arena.outline)
    (zoned : allocator.IsZoned) (known : allocator.space.directoryOrder.isSome = true) (len : Nat)
    (sized : wanted ≠ .any) :
    (allocate len wanted).Yields allocator
      (fun _ after => after.IsZoned ∧ ∀ id block, HandedOut after.arena.outline id block →
        block.pageClass.accepts wanted = true ∨ HandedOut allocator.arena.outline id block)
      (fun failure after => (∃ reason, failure = .aborted reason) ∨ after.IsZoned) := by
  have class_eq : allocator.space.classFor wanted = wanted := if_pos known
  refine yields_allocate_of_handOut settled merged len wanted (fun _ => .inr zoned)
    (fun _ _ => .inl ⟨_, rfl⟩) fun drawn listed deep serves => ?_
  rw [class_eq] at serves ⊢
  exact (zoned_handOut settled merged zoned drawn listed deep serves sized).mono
    (fun _ _ outcome _ _ _ => outcome) fun _ _ crowded => .inl ⟨_, crowded.1⟩

/-- A granted fixed request hands out blocks for its page size only. -/
theorem zoned_allocateFixed (settled : allocator.Settled [])
    (merged : Merged allocator.arena.outline) (zoned : allocator.IsZoned)
    (known : allocator.space.directoryOrder.isSome = true) (base len : Nat)
    (sized : wanted ≠ .any) :
    (allocateFixed base len wanted).Yields allocator
      (fun _ after => after.IsZoned ∧ ∀ id block, HandedOut after.arena.outline id block →
        block.pageClass.accepts wanted = true ∨ HandedOut allocator.arena.outline id block)
      (fun failure after => (∃ reason, failure = .aborted reason) ∨ after.IsZoned) := by
  have class_eq : allocator.space.classFor wanted = wanted := if_pos known
  unfold allocateFixed
  simp only [yields_bind, yields_get, class_eq]
  split
  · exact .inr zoned
  simp only [yields_bind, yields_get]
  refine yields_lift_of (fun busy _ => ?_) fun _ _ => .inr zoned
  split
  · exact .inr zoned
  simp only [yields_bind, yields_modify]
  refine (zoned_claimAll settled merged zoned (fun tile mem => (of_mem_tiling mem).2.2.1)
    sized).mono (fun ids after outcome => ?_) fun _ _ => Or.imp_left fun crowded => ⟨_, crowded.1⟩
  exact settles_account (fun _ _ => outcome) fun _ _ => .inl ⟨_, rfl⟩

/-- A release adds no block and leaves the shapes of all. -/
theorem sheds_free (address : Nat) :
    (free address).Yields allocator (fun _ after => Shed allocator after)
      fun _ after => Shed allocator after := by
  have counts (bytes : Nat) : Respects Shed (accountFreed bytes) :=
    respects_get.bind fun _ => (respects_lift _).bind fun _ =>
      respects_modify fun _ => ⟨rfl, .refl _⟩
  unfold free
  simp only [yields_bind, yields_get]
  split
  · rename_i id found
    rw [yields_bind, yields_set]
    have step := (respects_block id).bind fun block =>
      (counts (allocator.space.blockLength block.order)).bind fun _ => respects_release id
    exact respects_iff_yields.mp step
      { allocator with ordinary := allocator.ordinary.erase address }
  · split
    · rename_i range found
      rw [yields_bind, yields_set]
      have step := (counts range.len).bind fun _ => respects_forM respects_release range.tiles
      exact respects_iff_yields.mp step { allocator with fixed := allocator.fixed.erase address }
    · exact Std.Refl.refl (r := Shed) allocator

/-- A release leaves the other blocks for their page sizes. -/
theorem zoned_free (zoned : allocator.IsZoned) (address : Nat) :
    (free address).Yields allocator (fun _ after => after.IsZoned) fun _ after => after.IsZoned :=
  (sheds_free address).mono (fun _ _ => zoned.shed) fun _ _ => zoned.shed

end Calls

/-- The blocks of a holding serve a page size. -/
def Suits (allocator : Allocator) (holding : Holding) (pageClass : PageClass) : Prop :=
  ∀ {id block}, allocator.Owns holding.owner id → allocator.arena.outline id = some block →
    block.pageClass.accepts pageClass = true

/-- What callers hold, each with the page size that it was asked for. -/
structure Allotted (allocator : Allocator) (request : SpaceRequest)
    (grants : List (Holding × PageClass)) : Prop where
  ready : allocator.Ready request (grants.map (·.1))
  zoned : allocator.IsZoned
  known : allocator.space.directoryOrder.isSome = true
  sized : ∀ grant ∈ grants, grant.2 ≠ .any
  suits : ∀ grant ∈ grants, allocator.Suits grant.1 grant.2

section Holdings

variable {request : SpaceRequest} {allocator before after : Allocator} {ledger : List Holding}
  {holding other : Holding} {pageClass : PageClass} {grants : List (Holding × PageClass)}

/-- A block that was handed out before a grant was on record for another holding, and still is. -/
theorem Grants.exists_owner (tended : before.Tended ledger)
    (kept : after.Kept request (holding :: ledger)) {asked given : Nat}
    (grants : before.Grants holding.owner asked given after) {id : BlockId} {block : Block}
    (handed : HandedOut before.arena.outline id block) :
    ∃ owner, owner ≠ holding.owner ∧ before.Owns owner id ∧ after.Owns owner id := by
  obtain ⟨owner, owns⟩ := tended.owned handed
  obtain ⟨old, mem, rfl⟩ := tended.granted (hasRecord_of_owns owns)
  have apart : old.owner ≠ holding.owner := (List.rel_of_pairwise_cons kept.distinct mem).symm
  exact ⟨old.owner, apart, owns, grants.owns apart owns⟩

/-- A grant leaves the other holdings their page sizes. -/
theorem Grants.suits_of_mem (tended : before.Tended ledger)
    (kept : after.Kept request (holding :: ledger)) {asked given : Nat}
    (grants : before.Grants holding.owner asked given after) (mem : other ∈ ledger)
    (suits : before.Suits other pageClass) : after.Suits other pageClass := by
  intro id block owns found
  have apart : holding.owner ≠ other.owner := List.rel_of_pairwise_cons kept.distinct mem
  obtain ⟨held, present, allocated⟩ := kept.recorded.allocated owns
  obtain rfl := Option.some.inj (found.symm.trans present)
  rcases grants.handed ⟨found, allocated⟩ with new | old
  · exact absurd (kept.recorded.apart new owns) apart
  · obtain ⟨owner, -, owned, still⟩ := grants.exists_owner tended kept old
    rw [kept.recorded.apart still owns] at owned
    exact suits owned old.1

/-- A grant for a page size serves it. -/
theorem Grants.suits_new (tended : before.Tended ledger)
    (kept : after.Kept request (holding :: ledger)) {asked given : Nat}
    (grants : before.Grants holding.owner asked given after)
    (serves : ∀ id block, HandedOut after.arena.outline id block →
      block.pageClass.accepts pageClass = true ∨ HandedOut before.arena.outline id block) :
    after.Suits holding pageClass := by
  intro id block owns found
  obtain ⟨held, present, allocated⟩ := kept.recorded.allocated owns
  obtain rfl := Option.some.inj (found.symm.trans present)
  rcases serves id block ⟨found, allocated⟩ with holds | old
  · exact holds
  · obtain ⟨owner, apart, -, still⟩ := grants.exists_owner tended kept old
    exact absurd (kept.recorded.apart still owns) apart

/-- A refusal leaves the holdings their page sizes. -/
theorem Denies.suits (denies : before.Denies after) (kept : after.Kept request ledger)
    (suits : before.Suits other pageClass) : after.Suits other pageClass := by
  intro id block owns found
  obtain ⟨held, present, allocated⟩ := kept.recorded.allocated owns
  obtain rfl := Option.some.inj (found.symm.trans present)
  exact suits (denies.books.owns_iff.mp owns) ((denies.handed id block).mp ⟨found, allocated⟩).1

/-- A release leaves the other holdings their page sizes. -/
theorem Strikes.suits (tended : before.Tended ledger) {left : List Holding}
    (kept : after.Kept request left) {owner : Owner} {bytes : Nat}
    (strikes : before.Strikes owner bytes after) (suits : before.Suits other pageClass) :
    after.Suits other pageClass := by
  intro id block owns found
  obtain ⟨held, present, allocated⟩ := kept.recorded.allocated owns
  obtain rfl := Option.some.inj (found.symm.trans present)
  obtain ⟨not_owned, old⟩ := strikes.handed ⟨found, allocated⟩
  obtain ⟨holder, owned⟩ := tended.owned old
  have apart : holder ≠ owner := by
    rintro rfl
    exact not_owned owned
  rw [kept.recorded.apart (strikes.owns apart owned) owns] at owned
  exact suits owned old.1

/-- An ordinary request for a page size is granted for it, or nothing changes. -/
theorem Allotted.allocate (allotted : allocator.Allotted request grants) (len : Nat)
    (sized : pageClass ≠ .any) :
    (allocate len pageClass).Yields allocator
      (fun address after => after.Allotted request ((.ordinary address len, pageClass) :: grants))
      (fun failure after => (∃ reason, failure = .aborted reason) ∨
        after.Allotted request grants) := by
  obtain ⟨kept, tended, balanced⟩ := allotted.ready
  refine (((allotted.ready.allocate len pageClass).and
    (settles_allocate tended.settled tended.merged len pageClass)).and
    (zoned_allocate tended.settled tended.merged allotted.zoned allotted.known len sized)).mono
      ?_ ?_
  · rintro address after ⟨⟨ready, -, -, -, granted⟩, zoned, serves⟩
    refine ⟨ready, zoned, granted.space ▸ allotted.known, ?_, ?_⟩
    · exact List.forall_mem_cons.mpr ⟨sized, allotted.sized⟩
    · refine List.forall_mem_cons.mpr ⟨granted.suits_new tended ready.kept serves, ?_⟩
      exact fun grant mem => granted.suits_of_mem tended ready.kept (List.mem_map_of_mem mem)
        (allotted.suits grant mem)
  · rintro failure after ⟨⟨-, ⟨_, -, rfl, -⟩ | ⟨-, -, -, crowded | ⟨stopped, -⟩⟩⟩, -⟩
    · exact .inr allotted
    · exact .inl ⟨_, crowded.1⟩
    · exact .inl ⟨_, stopped⟩

/-- A fixed request for a page size is granted for it, or what is held stays. -/
theorem Allotted.allocateFixed (allotted : allocator.Allotted request grants) (base len : Nat)
    (sized : pageClass ≠ .any) :
    (allocateFixed base len pageClass).Yields allocator
      (fun answer after => after.Allotted request ((.fixed answer len, pageClass) :: grants))
      (fun failure after => (∃ reason, failure = .aborted reason) ∨
        after.Allotted request grants) := by
  obtain ⟨kept, tended, balanced⟩ := allotted.ready
  obtain ⟨busy, checked, -⟩ := exists_overlaps kept tended base len
  refine (((allotted.ready.allocateFixed base len pageClass).and
    (settles_allocateFixed tended.settled tended.merged (Space.start_mod_blockSize kept.space)
      checked)).and
    (zoned_allocateFixed tended.settled tended.merged allotted.zoned allotted.known base len
      sized)).mono ?_ ?_
  · rintro answer after ⟨⟨ready, rfl, -, -, granted, -⟩, zoned, serves⟩
    refine ⟨ready, zoned, granted.space ▸ allotted.known, ?_, ?_⟩
    · exact List.forall_mem_cons.mpr ⟨sized, allotted.sized⟩
    · refine List.forall_mem_cons.mpr ⟨granted.suits_new tended ready.kept serves, ?_⟩
      exact fun grant mem => granted.suits_of_mem tended ready.kept (List.mem_map_of_mem mem)
        (allotted.suits grant mem)
  · rintro failure after ⟨⟨fails, ⟨-, -, rfl⟩ | ⟨-, ⟨-, -, rfl⟩ |
      ⟨-, crowded | ⟨refused, denies, -⟩ | ⟨stopped, -⟩⟩⟩⟩, zoned⟩
    · exact .inr allotted
    · exact .inr allotted
    · exact .inl ⟨_, crowded.1⟩
    · subst refused
      rcases fails with ⟨-, -, ready⟩ | crowded | ⟨stopped, -⟩
      · have zoned : after.IsZoned := zoned.resolve_left fun ⟨_, stopped⟩ => by cases stopped
        refine .inr ⟨ready, zoned, denies.books.space ▸ allotted.known, allotted.sized, ?_⟩
        exact fun grant mem => denies.suits ready.kept (allotted.suits grant mem)
      · cases crowded.1
      · cases stopped
    · exact .inl ⟨_, stopped⟩

/-- A release leaves what starts elsewhere. -/
theorem Allotted.free (allotted : allocator.Allotted request grants) (address : Nat) :
    (free address).Yields allocator
      (fun _ after => after.Allotted request (grants.filter (·.1.start != address)))
      (fun _ _ => False) := by
  obtain ⟨kept, tended, balanced⟩ := allotted.ready
  refine (((allotted.ready.free address).and
    (settles_free tended.settled tended.merged kept.recorded)).and
    (zoned_free allotted.zoned address)).mono ?_ fun _ _ impossible => impossible.1.1
  rintro _ after ⟨⟨ready, effect⟩, zoned⟩
  have still : ((grants.filter (·.1.start != address)).map (·.1)) =
      (grants.map (·.1)).filter (·.start != address) := by
    rw [List.filter_map]
    rfl
  rw [← still] at ready
  have sized : ∀ grant ∈ grants.filter (·.1.start != address), grant.2 ≠ .any :=
    fun grant mem => allotted.sized grant (List.mem_of_mem_filter mem)
  rcases effect with ⟨owner, bytes, -, strikes⟩ | ⟨-, -, rfl⟩
  · refine ⟨ready, zoned, strikes.space ▸ allotted.known, sized, fun grant mem => ?_⟩
    exact strikes.suits tended ready.kept (allotted.suits grant (List.mem_of_mem_filter mem))
  · exact ⟨ready, zoned, allotted.known, sized,
      fun grant mem => allotted.suits grant (List.mem_of_mem_filter mem)⟩

/-- Nothing is held of a new allocator. -/
theorem allotted_create (created : create request = .ok allocator)
    (known : allocator.space.directoryOrder.isSome = true) : allocator.Allotted request [] := by
  have ready := ready_create created
  obtain ⟨-, -, unused⟩ := settled_create created
  refine ⟨ready, Zoned.of_roots fun id block found => ?_, known, by simp, by simp⟩
  by_contra related
  obtain ⟨family, related⟩ := Option.ne_none_iff_exists'.mp related
  obtain ⟨parent, above, no_leaf, -⟩ := ready.tended.tidy.forest.exists_parent found related
  obtain ⟨-, ⟨inner, held, present, allocated, -⟩, -⟩ :=
    ready.tended.tidy.exists_allocated above no_leaf
  exact unused inner held ⟨present, of_decide_eq_true allocated⟩

end Holdings

section Directories

variable {request : SpaceRequest} {allocator : Allocator} {grants : List (Holding × PageClass)}
  {one other : Holding × PageClass} {order index : Nat}

/-- What is held in a window has a block on record there. -/
theorem Kept.exists_block_in (kept : allocator.Kept request ledger) {holding : Holding}
    (mem : holding ∈ ledger) (reaches : allocator.space.Reaches holding order index) :
    ∃ id block, allocator.Owns holding.owner id ∧ allocator.arena.outline id = some block ∧
      block.state = .allocated ∧ Tile.Meets ⟨index * twoPow order, order⟩ block.tile := by
  obtain ⟨first, last, nonempty, start, stop, -, spans⟩ := kept.units mem
  obtain ⟨before, after⟩ := reaches
  rw [kept.stopOf_eq mem] at stop
  rw [← start, Space.windowAt_eq, Space.address_add_blockLength] at before
  rw [← stop, Space.windowAt_eq] at after
  have start_before := Space.address_lt_iff.mp before
  have stop_after := Space.address_lt_iff.mp after
  have positive := twoPow_pos order
  obtain ⟨id, owns, held, present, -, covers⟩ :=
    spans (max first (index * twoPow order)) (by omega) (by omega)
  obtain ⟨block, found, allocated⟩ := kept.recorded.allocated owns
  obtain rfl := Option.some.inj (found.symm.trans present)
  have in_cell : max first (index * twoPow order) < index * twoPow order + twoPow order := by omega
  exact ⟨id, block, owns, found, allocated,
    Nat.lt_of_le_of_lt (Nat.le_max_right ..) covers.2, Nat.lt_of_le_of_lt covers.1 in_cell⟩

/-- What is held for different page sizes does not reach into one directory entry. -/
theorem Allotted.not_both (allotted : allocator.Allotted request grants) (mem : one ∈ grants)
    (also_mem : other ∈ grants) (differ : one.2 ≠ other.2)
    (tagged : allocator.space.tags order = true) (capped : order ≤ allocator.space.maxOrder)
    (inside : allocator.space.windowAt order index + allocator.space.blockLength order ≤
      allocator.space.limit) (reaches : allocator.space.Reaches one.1 order index) :
    ¬ allocator.space.Reaches other.1 order index := by
  intro also_reaches
  obtain ⟨kept, tended, -⟩ := allotted.ready
  have tidy := tended.tidy
  have is_cell : Tile.IsCell ⟨index * twoPow order, order⟩ allocator.space.units
      allocator.space.maxOrder :=
    ⟨Nat.mul_mod_left _ _, capped, Space.windowAt_le_limit_iff.mp inside⟩
  -- Each of the two has a block of its own in the cell, which is smaller than the cell.
  obtain ⟨id, block, owns, found, allocated, meets⟩ :=
    kept.exists_block_in (List.mem_map_of_mem mem) reaches
  obtain ⟨id', held, also_owns, present, also_allocated, also_meets⟩ :=
    kept.exists_block_in (List.mem_map_of_mem also_mem) also_reaches
  have owners : one.1.owner ≠ other.1.owner := by
    have symm : Std.Symm fun a b : Holding × PageClass => a.1.owner ≠ b.1.owner :=
      ⟨fun _ _ => Ne.symm⟩
    refine (List.pairwise_map.mp kept.distinct).forall mem also_mem fun same => differ ?_
    rw [same]
  have apart : id ≠ id' := by
    rintro rfl
    exact owners (kept.recorded.apart owns also_owns)
  have leaf := Block.isLeaf_of_allocated allocated
  have also_leaf := Block.isLeaf_of_allocated also_allocated
  have smaller := tidy.forest.order_lt_of_meets is_cell.aligned found leaf meets present also_leaf
    also_meets apart
  have also_smaller := tidy.forest.order_lt_of_meets is_cell.aligned present also_leaf also_meets
    found leaf meets apart.symm
  obtain ⟨same, sized⟩ := tidy.same_class allotted.zoned is_cell tagged found present meets
    also_meets smaller also_smaller
  have serves := eq_of_accepts (allotted.suits one mem owns found) sized (allotted.sized one mem)
  have also_serves := eq_of_accepts (allotted.suits other also_mem also_owns present)
    (same ▸ sized) (allotted.sized other also_mem)
  exact differ (serves.symm.trans (same.trans also_serves))

end Directories

end Allocator

end GpuSched.Buddy
