import GpuSched.Proofs.Buddy.Overlaps

/-!
# Totals of bytes

The bytes that were handed out and have not come back are those that are reserved for what callers
hold. So the total of what came back never exceeds that of what was handed out, and only a grant can
make a total too large. A call that is stopped otherwise finds no handle left.
-/
namespace GpuSched.Buddy

open Operation

/-- The bytes that are reserved for a holding. -/
def Space.bytesOf (space : Space) : Holding → Nat
  | .ordinary _ len => space.blockLength (space.orderOf len)
  | .fixed _ len => len

/-- The bytes that are reserved for what callers hold. -/
def Space.heldBytes (space : Space) (ledger : List Holding) : Nat := (ledger.map space.bytesOf).sum

namespace Allocator

/-- The totals of bytes are below the limit of a word, and what was handed out has come back or is
reserved for what callers hold. -/
structure Balanced (allocator : Allocator) (ledger : List Holding) : Prop where
  requested_lt : allocator.requested < Checked.limit64
  reserved_lt : allocator.reserved < Checked.limit64
  reserved : allocator.freed + allocator.space.heldBytes ledger = allocator.reserved

/-- Between two calls the records, the blocks and the totals agree with what callers hold. -/
structure Ready (allocator : Allocator) (request : SpaceRequest) (ledger : List Holding) :
    Prop where
  kept : allocator.Kept request ledger
  tended : allocator.Tended ledger
  balanced : allocator.Balanced ledger

section Balance

variable {request : SpaceRequest} {allocator before after : Allocator} {ledger : List Holding}

/-- The range of a holding ends after the bytes that are reserved for it. -/
theorem Kept.stopOf_eq (kept : allocator.Kept request ledger) {holding : Holding}
    (mem : holding ∈ ledger) :
    allocator.stopOf holding = holding.start + allocator.space.bytesOf holding := by
  cases holding with
  | ordinary address len =>
    obtain ⟨_, block, -, -, -, -, order, least⟩ := kept.block_of_ordinary mem
    unfold stopOf Space.bytesOf Holding.start
    dsimp only
    rw [order, Option.getD_some, Space.orderOf_eq least]
  | fixed base len => rfl

/-- Callers hold ranges from different addresses. -/
theorem Kept.starts (kept : allocator.Kept request ledger) :
    ledger.Pairwise fun one other => one.start ≠ other.start :=
  kept.distinct.imp_of_mem fun mem mem' distinct => kept.start_ne mem mem' distinct

/-- Without the range from an address its bytes are missing. -/
theorem heldBytes_filter (space : Space) {holding : Holding}
    (starts : ledger.Pairwise fun one other => one.start ≠ other.start) (mem : holding ∈ ledger) :
    space.bytesOf holding + space.heldBytes (ledger.filter (·.start != holding.start)) =
      space.heldBytes ledger := by
  induction ledger with
  | nil => cases mem
  | cons head rest ih =>
    obtain ⟨apart, starts⟩ := List.pairwise_cons.mp starts
    unfold Space.heldBytes at ih ⊢
    rw [List.map_cons, List.sum_cons]
    rcases List.mem_cons.mp mem with rfl | mem
    · have others : rest.filter (·.start != holding.start) = rest :=
        List.filter_eq_self.mpr fun other there => by simpa using (apart other there).symm
      rw [List.filter_cons_of_neg (by simp), others]
    · have stays : (head.start != holding.start) = true := by simpa using apart holding mem
      rw [List.filter_cons_of_pos (by simpa using stays), List.map_cons, List.sum_cons,
        ← ih starts mem]
      omega

/-- What is on record at an address has the bytes that are reserved for its holding. -/
theorem Ready.exists_holding (ready : allocator.Ready request ledger) {address bytes : Nat}
    {owner : Owner} (record : allocator.OnRecord address owner bytes) :
    ∃ holding ∈ ledger, holding.owner = owner ∧ holding.start = address ∧
      bytes = allocator.space.bytesOf holding := by
  cases record with
  | ordinary found handed =>
    obtain ⟨len, mem⟩ := ready.tended.exists_ordinary found
    obtain ⟨id, block, present, at_id, -, -, -, least⟩ := ready.kept.block_of_ordinary mem
    obtain rfl := Option.some.inj (found.symm.trans present)
    obtain rfl := Option.some.inj (handed.1.symm.trans at_id)
    refine ⟨_, mem, rfl, rfl, ?_⟩
    unfold Space.bytesOf
    dsimp only
    rw [Space.orderOf_eq least]
  | fixed absent found =>
    obtain ⟨len, mem⟩ := ready.tended.exists_fixed found
    obtain ⟨range, present, same⟩ := ready.kept.live _ mem
    obtain rfl := Option.some.inj (found.symm.trans present)
    exact ⟨_, mem, rfl, rfl, same⟩

/-- Without a record at an address no caller holds a range from there. -/
theorem Kept.filter_of_no_record (kept : allocator.Kept request ledger) {address : Nat}
    (absent : allocator.ordinary.find? address = none)
    (missing : allocator.fixed.find? address = none) :
    ledger.filter (·.start != address) = ledger := by
  refine List.filter_eq_self.mpr fun holding mem => ?_
  have elsewhere : holding.start ≠ address := by
    rintro rfl
    have record := kept.hasRecord mem
    cases holding with
    | ordinary start len =>
      obtain ⟨id, found⟩ := record
      cases absent.symm.trans found
    | fixed base len =>
      obtain ⟨range, found⟩ := record
      cases missing.symm.trans found
  simpa using elsewhere

/-- A grant adds its bytes to what is reserved. -/
theorem Balanced.grant (balanced : before.Balanced ledger) {holding : Holding} {asked : Nat}
    (grants : before.Grants holding.owner asked (before.space.bytesOf holding) after) :
    after.Balanced (holding :: ledger) where
  requested_lt := grants.requested_lt
  reserved_lt := grants.reserved_lt
  reserved := by
    have earlier := balanced.reserved
    unfold Space.heldBytes at earlier ⊢
    rw [grants.space, grants.freed, grants.reserved, List.map_cons, List.sum_cons]
    omega

/-- A refusal leaves the totals. -/
theorem Balanced.deny (balanced : before.Balanced ledger) (books : SameBooks before after) :
    after.Balanced ledger where
  requested_lt := books.requested ▸ balanced.requested_lt
  reserved_lt := books.reserved ▸ balanced.reserved_lt
  reserved := by
    rw [books.space, books.freed, books.reserved]
    exact balanced.reserved

/-- A release moves its bytes to what came back. -/
theorem Balanced.strike (balanced : before.Balanced ledger) {holding : Holding}
    (starts : ledger.Pairwise fun one other => one.start ≠ other.start) (mem : holding ∈ ledger)
    (strikes : before.Strikes holding.owner (before.space.bytesOf holding) after) :
    after.Balanced (ledger.filter (·.start != holding.start)) where
  requested_lt := strikes.requested ▸ balanced.requested_lt
  reserved_lt := strikes.reserved ▸ balanced.reserved_lt
  reserved := by
    have earlier := balanced.reserved
    have less := heldBytes_filter before.space starts mem
    rw [strikes.space, strikes.freed, strikes.reserved]
    omega

end Balance

end Allocator

end GpuSched.Buddy
