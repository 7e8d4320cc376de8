import GpuSched.Proofs.Buddy.Claims
import GpuSched.Proofs.Rounding

/-!
# New allocators

A space starts at a multiple of its block size. The allocator of a space lists one block for each
tile of the space, so it is tiled from the start.
-/
namespace GpuSched.Buddy

open Operation (bind_eq_ok_iff pure_eq_ok_iff)

/-- A branch that fails leaves the other one to a value. -/
theorem ite_error_eq_ok_iff {α : Type} {condition : Prop} [Decidable condition] {failure : Failure}
    {rest : Except Failure α} {value : α} :
    (if condition then .error failure else rest) = .ok value ↔ ¬ condition ∧ rest = .ok value := by
  split <;> simp_all

/-- Rounding up to a power of two gives a multiple of it that is not less. -/
theorem of_alignUp {value align result : Nat} (power : Alignment.isPowerOfTwo align = true)
    (run : Alignment.alignUp value align = .ok result) : result % align = 0 ∧ value ≤ result := by
  rw [Alignment.eq_of_alignUp power run]
  exact ⟨Nat.mod_eq_zero_of_dvd (Alignment.dvd_roundUp value align),
    Alignment.le_roundUp (Alignment.pos_of_isPowerOfTwo power) value⟩

/-- Rounding down to a power of two gives a multiple of it that is not greater. -/
theorem of_alignDown {value align result : Nat} (power : Alignment.isPowerOfTwo align = true)
    (run : Alignment.alignDown value align = .ok result) : result % align = 0 ∧ result ≤ value := by
  rw [Alignment.alignDown_eq power] at run
  obtain rfl := Except.ok.inj run
  exact ⟨Nat.mul_mod_left _ _, Nat.div_mul_le_self _ _⟩

/-- A multiple of a power of two is rounded to itself. -/
theorem alignUp_of_dvd {value align result : Nat} (power : Alignment.isPowerOfTwo align = true)
    (run : Alignment.alignUp value align = .ok result) (multiple : align ∣ value) :
    result = value := by
  rw [Alignment.eq_of_alignUp power run]
  exact Alignment.roundUp_eq (Alignment.pos_of_isPowerOfTwo power) multiple

/-- A multiple of a power of two is rounded to itself. -/
theorem alignDown_of_dvd {value align result : Nat} (power : Alignment.isPowerOfTwo align = true)
    (run : Alignment.alignDown value align = .ok result) (multiple : align ∣ value) :
    result = value := by
  rw [Alignment.alignDown_eq power] at run
  obtain rfl := Except.ok.inj run
  exact Nat.div_mul_cancel multiple

/-- A space is the part of the range asked for that consists of whole blocks. -/
theorem Space.of_create_eq_ok {request : SpaceRequest} {space : Space}
    (run : Space.create request = .ok space) :
    Alignment.isPowerOfTwo request.blockSize = true ∧
      request.base + request.length < Checked.limit64 ∧
      Alignment.alignUp request.base request.blockSize = .ok space.start ∧
      Alignment.alignDown (request.base + request.length) request.blockSize = .ok space.limit ∧
      space.blockShift = request.blockSize.log2 ∧ space.length = request.length ∧
      space.start < space.limit := by
  unfold Space.create Space.refusing at run
  simp only [bind, Except.bind, ite_error_eq_ok_iff] at run
  obtain ⟨power, -, fits, run⟩ := run
  have power : Alignment.isPowerOfTwo request.blockSize = true := by simpa using power
  refine ⟨power, Nat.lt_of_not_le fits, ?_⟩
  split at run
  on_goal 1 => obtain ⟨-, run⟩ := ite_error_eq_ok_iff.mp run
  all_goals
    split at run
    · cases run
    · rename_i start started
      split at run
      · cases run
      · rename_i limit limited
        obtain ⟨longer, run⟩ := ite_error_eq_ok_iff.mp run
        split at run
        · cases run
        · obtain rfl := pure_eq_ok_iff.mp run
          exact ⟨started, limited, rfl, rfl, Nat.lt_of_not_le longer⟩

/-- A space without a cap on orders has blocks up to its whole length, and the directory entries
asked for. -/
theorem Space.orders_of_create {request : SpaceRequest} {space : Space}
    (run : Space.create request = .ok space) (uncapped : request.maxOrder = none) :
    space.maxOrder = space.units.log2 ∧
      directoryOrderOf request space.blockShift = .ok space.directoryOrder := by
  unfold Space.create Space.refusing at run
  simp only [uncapped, bind, Except.bind, ite_error_eq_ok_iff] at run
  obtain ⟨-, -, -, run⟩ := run
  split at run
  · cases run
  · split at run
    · cases run
    · obtain ⟨-, run⟩ := ite_error_eq_ok_iff.mp run
      split at run
      · cases run
      · rename_i known
        obtain rfl := pure_eq_ok_iff.mp run
        exact ⟨Nat.min_self _, known⟩

/-- The blocks of a space have the length asked for. -/
theorem Space.blockSize_eq {request : SpaceRequest} {space : Space}
    (run : Space.create request = .ok space) : space.blockSize = request.blockSize := by
  obtain ⟨power, -, -, -, shift, -⟩ := Space.of_create_eq_ok run
  unfold Space.blockSize
  rw [shift]
  exact beq_iff_eq.mp power

/-- A space starts at a multiple of its block size. -/
theorem Space.start_mod_blockSize {request : SpaceRequest} {space : Space}
    (run : Space.create request = .ok space) : space.start % space.blockSize = 0 := by
  obtain ⟨power, -, start, -⟩ := Space.of_create_eq_ok run
  rw [Space.blockSize_eq run]
  exact (of_alignUp power start).1

/-- A space ends where addresses do, or before. -/
theorem Space.limit_lt {request : SpaceRequest} {space : Space}
    (run : Space.create request = .ok space) : space.limit < Checked.limit64 := by
  obtain ⟨power, fits, -, limit, -⟩ := Space.of_create_eq_ok run
  exact Nat.lt_of_le_of_lt (of_alignDown power limit).2 fits

/-- The units of a space fill it. -/
theorem Space.units_mul_blockSize {request : SpaceRequest} {space : Space}
    (run : Space.create request = .ok space) :
    space.units * space.blockSize = space.limit - space.start := by
  obtain ⟨power, -, start, limit, -⟩ := Space.of_create_eq_ok run
  unfold Space.units
  rw [Space.blockSize_eq run]
  refine Nat.div_mul_cancel (Nat.dvd_sub ?_ ?_)
  · exact Nat.dvd_of_mod_eq_zero (of_alignDown power limit).1
  · exact Nat.dvd_of_mod_eq_zero (of_alignUp power start).1

/-- A space lies in the range asked for. -/
theorem Space.limit_sub_start_le {request : SpaceRequest} {space : Space}
    (run : Space.create request = .ok space) : space.limit - space.start ≤ space.length := by
  obtain ⟨power, -, start, limit, -, length, -⟩ := Space.of_create_eq_ok run
  have from_base := (of_alignUp power start).2
  have to_end := (of_alignDown power limit).2
  omega

namespace Allocator

/-- An arena without blocks is sound. -/
theorem sound_create (maxOrder : Nat) : (Arena.create maxOrder).Sound where
  queued := by
    refine ⟨fun _ => [], fun _ => .nil, ?_, ?_, ?_⟩
    · intro order before id after parts
      simp at parts
    · intro id block found
      cases found
    · intro order list present
      unfold Arena.create at present
      rw [Array.getElem?_replicate] at present
      split at present
      · obtain rfl := Option.some.inj present
        rfl
      · cases present
  vacant_nodup := .nil
  vacant id mem := by cases mem

/-- Listing the tiles of the rest of a space completes its forest. -/
theorem populate_tiling {arena changed : Arena} {maxOrder position stop : Nat}
    (below : position ≤ stop) (sound : arena.Sound)
    (forest : Forest position maxOrder arena.outline)
    (run : populate arena (tiling maxOrder position stop) = .ok changed) :
    changed.Sound ∧ Forest stop maxOrder changed.outline := by
  fun_induction tiling maxOrder position stop generalizing arena with
  | case1 position inner order =>
    rename_i ih
    obtain ⟨ends, aligned, capped⟩ := tileOrder_fits maxOrder inner
    simp only [populate, List.foldlM_cons, bind_eq_ok_iff] at run
    obtain ⟨listed, ⟨⟨id, filled⟩, inserted, pushed⟩, run⟩ := run
    obtain ⟨fresh, sound, shown⟩ := Arena.sound_insert sound rfl inserted
    obtain ⟨block, found, loose, sound, also_shown⟩ := Arena.sound_pushBack sound pushed
    have at_id : filled.outline id = some { position, order } := by
      rw [shown, Function.update_self]
    have same := Arena.block?_of_unlisted_outline at_id rfl
    dsimp only at found
    rw [same, Option.some.injEq] at found
    subst found
    have outline : listed.outline = Function.update arena.outline id
        (some { position, order, state := .listed none none }) := by
      rw [also_shown, shown, Function.update_idem]
    refine ih ends sound ?_ run
    have leaf : ({ position, order, state := .listed none none } : Block).isLeaf = true := rfl
    rw [outline]
    exact forest.plant (Arena.outline_eq_none_iff.mpr fresh) rfl aligned capped rfl leaf
  | case2 position outside =>
    obtain rfl := pure_eq_ok_iff.mp run
    obtain rfl : position = stop := by omega
    exact ⟨sound, forest⟩

/-- A new allocator is tiled, has no live allocations, and has the space that was asked for. -/
theorem tiled_create {request : SpaceRequest} {allocator : Allocator}
    (run : create request = .ok allocator) :
    allocator.Tiled ∧ allocator.ordinary = .empty ∧ allocator.fixed = .empty ∧
      Space.create request = .ok allocator.space := by
  simp only [create, ofSpace, bind_eq_ok_iff, pure_eq_ok_iff] at run
  obtain ⟨space, created, arena, populated, rfl⟩ := run
  have empty : (Arena.create space.maxOrder).outline = fun _ => none := rfl
  have ⟨sound, forest⟩ := populate_tiling (Nat.zero_le space.units) (sound_create space.maxOrder)
    (by rw [empty]; exact .none) populated
  exact ⟨⟨sound, forest⟩, rfl, rfl, created⟩

end Allocator

end GpuSched.Buddy
