import GpuSched.Buddy.Tiling

/-!
# The greedy tiling covers its range

Each tile of a tiling is aligned, lies in the range and does not exceed the cap, and every unit of
the range lies in a tile.
-/
namespace GpuSched.Buddy

/-- The tile at a position ends within the range, is aligned and keeps the cap. -/
theorem tileOrder_fits (cap : Nat) {position stop : Nat} (below : position < stop) :
    position + twoPow (tileOrder cap position stop) ≤ stop ∧
      position % twoPow (tileOrder cap position stop) = 0 ∧ tileOrder cap position stop ≤ cap := by
  unfold tileOrder
  have bound := Alignment.alignedOrder_le (min cap (stop - position).log2) position
  refine ⟨?_, Alignment.mod_twoPow_alignedOrder _ _, Nat.le_trans bound (Nat.min_le_left _ _)⟩
  have nonempty : stop - position ≠ 0 := by omega
  have length := Nat.le_trans (twoPow_le_twoPow (Nat.le_trans bound (Nat.min_le_right _ _)))
    (twoPow_log2_le nonempty)
  omega

/-- The tiles of a range are aligned, lie in the range and keep the cap. -/
theorem of_mem_tiling {cap position stop : Nat} {tile : Tile}
    (mem : tile ∈ tiling cap position stop) :
    position ≤ tile.position ∧ tile.stop ≤ stop ∧ tile.position % twoPow tile.order = 0 ∧
      tile.order ≤ cap := by
  fun_induction tiling cap position stop with
  | case1 position below order ih =>
    obtain ⟨ends, aligned, capped⟩ := tileOrder_fits cap below
    rcases List.mem_cons.mp mem with rfl | later
    · exact ⟨Nat.le_refl _, ends, aligned, capped⟩
    · obtain ⟨after, rest⟩ := ih later
      exact ⟨by omega, rest⟩
  | case2 => cases mem

/-- Every unit of a range lies in one of its tiles. -/
theorem exists_mem_tiling {cap position stop unit : Nat} (after : position ≤ unit)
    (before : unit < stop) :
    ∃ tile ∈ tiling cap position stop, tile.position ≤ unit ∧ unit < tile.stop := by
  fun_induction tiling cap position stop with
  | case1 position below order ih =>
    by_cases first : unit < position + twoPow order
    · exact ⟨⟨position, order⟩, List.mem_cons_self, after, first⟩
    · obtain ⟨tile, mem, within⟩ := ih (by omega)
      exact ⟨tile, List.mem_cons_of_mem _ mem, within⟩
  | case2 => omega

/-- A range has at least as many units as tiles. -/
theorem length_tiling_le (cap position stop : Nat) :
    (tiling cap position stop).length ≤ stop - position := by
  fun_induction tiling cap position stop with
  | case1 position below order ih =>
    have positive := twoPow_pos order
    rw [List.length_cons]
    omega
  | case2 => exact Nat.zero_le _

end GpuSched.Buddy
