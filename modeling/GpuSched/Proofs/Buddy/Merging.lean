import GpuSched.Proofs.Buddy.Settled

/-!
# Free halves are joined

When a block comes back it may have a free buddy, and so may each block that a join makes free. The
joining goes up as long as this is so, and stops at the latest at a block without a parent. So after
every release no two halves of one block are both free again.
-/
namespace GpuSched.Buddy.Allocator

open Operation

section Merging

variable {allocator : Allocator} {id : BlockId} {block : Block} {hand : List BlockId}

/-- Two loose halves in hand that are given back leave their parent in hand. -/
theorem Settled.join {half buddy parent : Block} {family : Family}
    (settled : allocator.Settled (family.buddy :: id :: hand)) {arena : Arena} {count : OrderCount}
    (joined : Joined allocator.arena.outline id half buddy parent family) (sound : arena.Sound)
    (outline : arena.outline =
      withoutHalves allocator.arena.outline family.parent id family.buddy parent)
    (housed : arena.Housed (allocator.space.maxOrder + 1) (2 * allocator.space.units - 1))
    (present : allocator.counts[parent.order]? = some count) :
    ({ allocator with
      arena
      counts := allocator.counts.setIfInBounds parent.order
        { count with split := count.split - 1 } } : Allocator).Settled
        (family.parent :: hand) where
  sound := sound
  forest := by
    rw [outline]
    exact joined.forest settled.forest
  housed := housed
  sized := (Array.size_setIfInBounds ..).trans settled.sized
  counted := by
    have finite := finitelyMany_outline allocator.arena
    dsimp only
    rw [outline]
    refine settled.counted.step present (fun other => ?_) fun other => ?_
    · rw [(joined.ncard finite other).1]
    · have one_less := (joined.ncard finite other).2
      have counted := (settled.counted parent.order count present).2
      have own := (joined.ncard finite parent.order).2
      rw [if_pos rfl] at own
      dsimp only
      by_cases same : other = parent.order
      · subst same
        simp only [if_true] at one_less ⊢
        omega
      · simp only [if_neg same] at one_less ⊢
        exact one_less
  roots tile := by
    dsimp only
    rw [outline, joined.roots_iff]
    exact settled.roots tile
  in_hand {other held} found loose := by
    dsimp only at found
    rw [outline] at found
    rcases withoutHalves_eq_some_iff.mp found with ⟨rfl, -⟩ | ⟨-, not_buddy, not_half, found⟩
    · exact List.mem_cons_self
    · have mem := (List.mem_cons.mp (settled.in_hand found loose)).resolve_left not_buddy
      exact List.mem_cons_of_mem _ ((List.mem_cons.mp mem).resolve_left not_half)

/-- Two loose halves can be given back and their parent made loose. -/
theorem Settled.exists_merge {half buddy parent : Block} {family : Family}
    (settled : allocator.Settled hand)
    (joined : Joined allocator.arena.outline id half buddy parent family) :
    ∃ third fourth fifth, allocator.arena.remove id = .ok (half, third) ∧
      third.remove family.buddy = .ok (buddy, fourth) ∧
      fourth.block? family.parent = some parent ∧
      fourth.update family.parent ({ · with state := .loose }) = .ok fifth ∧ fifth.Sound ∧
      fifth.Housed (allocator.space.maxOrder + 1) (2 * allocator.space.units - 1) ∧
      fifth.outline =
        withoutHalves allocator.arena.outline family.parent id family.buddy parent := by
  obtain ⟨not_half, not_buddy⟩ := joined.apart
  have half_unlisted : half.isListed = false := Block.isListed_of_loose joined.half_loose
  have buddy_unlisted : buddy.isListed = false := by
    unfold Block.isListed
    rw [joined.buddy_loose]
  have parent_unlisted := Block.isListed_of_not_leaf joined.no_leaf
  obtain ⟨third, remove_half, third_sound, third_housed, third_outline⟩ :=
    Arena.exists_remove settled.sound settled.housed joined.at_half half_unlisted
  have still_buddy : third.outline family.buddy = some buddy := by
    rw [third_outline, Function.update_of_ne joined.distinct.symm, joined.at_buddy]
  obtain ⟨fourth, remove_buddy, fourth_sound, fourth_housed, fourth_outline⟩ :=
    Arena.exists_remove third_sound third_housed still_buddy buddy_unlisted
  have still_parent : fourth.outline family.parent = some parent := by
    rw [fourth_outline, Function.update_of_ne not_buddy, third_outline,
      Function.update_of_ne not_half, joined.at_parent]
  obtain ⟨fifth, free_parent, fifth_sound, fifth_room, fifth_outline⟩ :=
    Arena.answers_update fourth_sound still_parent parent_unlisted ({ · with state := .loose }) rfl
  have fifth_housed := fourth_housed.sameRoom fifth_room fifth_outline
  have outline : fifth.outline =
      withoutHalves allocator.arena.outline family.parent id family.buddy parent := by
    unfold withoutHalves
    rw [fifth_outline, fourth_outline, third_outline]
  exact ⟨third, fourth, fifth, remove_half, remove_buddy,
    Arena.block?_of_unlisted_outline still_parent parent_unlisted, free_parent, fifth_sound,
    fifth_housed, outline⟩

/-- The number of split blocks of the order of a split block is not zero. -/
theorem Settled.split_pos (settled : allocator.Settled hand)
    (found : allocator.arena.outline id = some block) (no_leaf : block.isLeaf = false)
    {count : OrderCount} (present : allocator.counts[block.order]? = some count) :
    1 ≤ count.split := by
  rw [(settled.counted block.order count present).2]
  have whole : block.isSplit = true := by unfold Block.isSplit; rw [no_leaf]; rfl
  exact (Set.ncard_pos (finitelyMany_outline allocator.arena).handlesOf).mpr
    ⟨id, block, found, whole, rfl⟩

/-- Join two loose halves: give their handles back and list their parent. -/
def mergeHalves (id : BlockId) (family : Family) : Operation Allocator Unit := do
  let _ ← withArena (·.remove id)
  let _ ← withArena (·.remove family.buddy)
  let parent ← Allocator.block family.parent
  changeArena (·.update family.parent ({ · with state := .loose }))
  changeCount parent.order fun count => do
    return { count with split := ← Checked.sub count.split 1 }
  list family.parent

/-- Free halves are taken off their lists and then joined. -/
theorem joinHalves_eq (id : BlockId) (family : Family) : joinHalves id family = (do
    changeArena (·.unlink id)
    changeArena (·.unlink family.buddy)
    mergeHalves id family) := rfl

/-- Two loose halves are joined up to the listing of their parent. -/
theorem Settled.exists_merged {half buddy parent : Block} {family : Family}
    (settled : allocator.Settled (family.buddy :: id :: hand))
    (joined : Joined allocator.arena.outline id half buddy parent family) :
    ∃ third fourth arena counts, allocator.arena.remove id = .ok (half, third) ∧
      third.remove family.buddy = .ok (buddy, fourth) ∧
      fourth.block? family.parent = some parent ∧
      fourth.update family.parent ({ · with state := .loose }) = .ok arena ∧
      arena.outline = withoutHalves allocator.arena.outline family.parent id family.buddy parent ∧
      ({ allocator with arena, counts } : Allocator).Settled (family.parent :: hand) ∧
      ∀ (good : Unit → Allocator → Prop) (bad : Failure → Allocator → Prop),
        (list family.parent).Yields { allocator with arena, counts } good bad →
          (mergeHalves id family).Yields allocator good bad := by
  obtain ⟨third, fourth, fifth, remove_half, remove_buddy, at_parent, free_parent, sound, housed,
    outline⟩ := settled.exists_merge joined
  obtain ⟨count, present⟩ := settled.has_count joined.at_parent
  have positive := settled.split_pos joined.at_parent joined.no_leaf present
  have fewer : (do return { count with split := ← Checked.sub count.split 1 } :
      Except Failure OrderCount) = .ok { count with split := count.split - 1 } := by
    rw [Checked.sub_of_le positive]
    rfl
  refine ⟨third, fourth, fifth, _, remove_half, remove_buddy, at_parent, free_parent, outline,
    settled.join joined sound outline housed present, fun good bad listing => ?_⟩
  unfold mergeHalves
  simp only [yields_bind]
  refine (yields_withArena_of remove_half).mpr ?_
  refine (yields_withArena_of remove_buddy).mpr ?_
  refine (yields_block_of at_parent).mpr ?_
  refine (yields_changeArena_of free_parent).mpr ?_
  exact yields_changeCount_of present fewer listing

/-- A free half and its free buddy, off their lists, can be joined. -/
theorem joined_of_unlinked {first second : BlockId → Option Block} {buddy : Block}
    {family : Family} {units maxOrder : Nat} (forest : Forest units maxOrder first)
    (found : first id = some block) (related : block.family = some family)
    (at_buddy : first family.buddy = some buddy) (listed : block.isListed = true)
    (buddy_listed : buddy.isListed = true)
    (unlinked : second = Function.update (Function.update first id
      (some { block with state := .loose })) family.buddy (some { buddy with state := .loose })) :
    ∃ parent, parent.order = block.order + 1 ∧
      Joined second id { block with state := .loose } { buddy with state := .loose } parent
        family := by
  have distinct : id ≠ family.buddy := (forest.buddy_ne found related).symm
  obtain ⟨held, under, back⟩ := forest.exists_buddy found related
  obtain rfl : buddy = held := Option.some.inj (at_buddy.symm.trans under)
  obtain ⟨parent, above, no_leaf, order, -⟩ := forest.exists_parent found related
  have not_id := forest.parent_ne found related found (Block.isLeaf_of_isListed listed)
  have not_buddy := forest.parent_ne found related at_buddy (Block.isLeaf_of_isListed buddy_listed)
  refine ⟨parent, order, ?_, rfl, related, ?_, rfl, back, ?_, no_leaf, distinct⟩
  · rw [unlinked, Function.update_of_ne distinct, Function.update_self]
  · rw [unlinked, Function.update_self]
  · rw [unlinked, Function.update_of_ne not_buddy, Function.update_of_ne not_id, above]

/-- After a free half and its buddy are off their lists, no halves of one block are free. -/
theorem merged_of_unlinked {first second : BlockId → Option Block} {buddy : Block} {other : BlockId}
    (merged : MergedBut id first)
    (unlinked : second = Function.update (Function.update first id
      (some { block with state := .loose })) other (some { buddy with state := .loose })) :
    Merged second := by
  intro one two pair
  rw [unlinked] at pair
  have earlier := pair.of_relabel rfl
  rcases merged one two (earlier.of_relabel rfl) with same | same
  · obtain ⟨held, _, _, under, is_listed, -⟩ := earlier
    rw [same, Function.update_self, Option.some.injEq] at under
    rw [← under] at is_listed
    cases is_listed
  · obtain ⟨_, held, _, -, -, -, -, under, is_listed⟩ := earlier
    rw [same, Function.update_self, Option.some.injEq] at under
    rw [← under] at is_listed
    cases is_listed

/-- A free half and its free buddy become their free parent. -/
theorem settles_joinHalves (settled : allocator.Settled hand)
    (merged : MergedBut id allocator.arena.outline) {buddy : Block} {family : Family}
    (found : allocator.arena.outline id = some block) (listed : block.isListed = true)
    (related : block.family = some family)
    (at_buddy : allocator.arena.outline family.buddy = some buddy)
    (buddy_listed : buddy.isListed = true) :
    (joinHalves id family).Yields allocator
      (fun _ after => after.Settled hand ∧ SameBooks allocator after ∧
        MergedBut family.parent after.arena.outline ∧
        (∃ parent, after.arena.outline family.parent = some parent ∧ parent.isListed = true ∧
          parent.order = block.order + 1) ∧
        ∀ other held,
          HandedOut after.arena.outline other held ↔ HandedOut allocator.arena.outline other held)
      (fun _ _ => False) := by
  have distinct : id ≠ family.buddy := (settled.forest.buddy_ne found related).symm
  rw [joinHalves_eq]
  simp only [yields_bind]
  refine (settles_unlink settled found listed).mono (fun _ first ⟨settled_first, books_first,
    shown_first⟩ => ?_) fun _ _ => False.elim
  have still : first.arena.outline family.buddy = some buddy := by
    rw [shown_first, Function.update_of_ne distinct.symm, at_buddy]
  refine (settles_unlink settled_first still buddy_listed).mono (fun _ second ⟨settled_second,
    books_second, shown_second⟩ => ?_) fun _ _ => False.elim
  rw [shown_first] at shown_second
  obtain ⟨parent, order, joined⟩ := joined_of_unlinked settled.forest found related at_buddy listed
    buddy_listed shown_second
  obtain ⟨_, _, fifth, counts, -, -, -, -, outline, settled_fifth, merges⟩ :=
    settled_second.exists_merged joined
  have at_loose : fifth.outline family.parent = some { parent with state := .loose } := by
    rw [outline]
    exact withoutHalves_eq_some_iff.mpr (.inl ⟨rfl, rfl⟩)
  refine merges _ _ ((settles_list settled_fifth at_loose rfl).mono (fun _ after ⟨settled_after,
    books_after, shown_after⟩ => ?_) fun _ _ => False.elim)
  dsimp only at shown_after
  refine ⟨settled_after, ?_, ?_, ⟨{ parent with state := .listed none none }, ?_, rfl, order⟩, ?_⟩
  · have step : SameBooks second { second with arena := fifth, counts } := rfl
    exact ((books_first.trans books_second).trans step).trans books_after
  · intro one two pair
    rw [shown_after, outline] at pair
    exact pair.of_list (merged_of_unlinked merged shown_second).withoutHalves
  · rw [shown_after, Function.update_self]
  · intro other held
    have still_listed : Function.update allocator.arena.outline id
        (some { block with state := .loose }) family.buddy = some buddy := by
      rw [Function.update_of_ne distinct.symm, at_buddy]
    calc HandedOut after.arena.outline other held
        ↔ HandedOut fifth.outline other held := by
          rw [shown_after]
          exact handedOut_relabel at_loose BlockState.noConfusion BlockState.noConfusion
      _ ↔ HandedOut second.arena.outline other held := by
          rw [outline]
          exact joined.handedOut_iff
      _ ↔ HandedOut (Function.update allocator.arena.outline id
            (some { block with state := .loose })) other held := by
          rw [shown_second]
          exact handedOut_relabel still_listed (Block.not_allocated_of_isListed buddy_listed)
            BlockState.noConfusion
      _ ↔ HandedOut allocator.arena.outline other held :=
          handedOut_relabel found (Block.not_allocated_of_isListed listed) BlockState.noConfusion

/-- Joining upward from a free block leaves no two halves of one block free. -/
theorem settles_coalesce {levels : Nat} (settled : allocator.Settled hand)
    (merged : MergedBut id allocator.arena.outline)
    (found : allocator.arena.outline id = some block) (listed : block.isListed = true)
    (enough : allocator.space.maxOrder ≤ block.order + levels) :
    (coalesce levels id).Yields allocator
      (fun _ after => after.Settled hand ∧ SameBooks allocator after ∧
        Merged after.arena.outline ∧ ∀ other held,
          HandedOut after.arena.outline other held ↔ HandedOut allocator.arena.outline other held)
      (fun _ _ => False) := by
  have done (alone : ∀ family buddy, block.family = some family →
      allocator.arena.outline family.buddy = some buddy → block.isListed = true →
        buddy.isListed = false) :
      allocator.Settled hand ∧ SameBooks allocator allocator ∧ Merged allocator.arena.outline ∧
        ∀ other held, HandedOut allocator.arena.outline other held ↔
          HandedOut allocator.arena.outline other held :=
    ⟨settled, .refl allocator, merged.merged settled.forest found alone, fun _ _ => Iff.rfl⟩
  induction levels generalizing allocator id block with
  | zero =>
    have root : block.family = none := by
      by_contra related
      obtain ⟨family, related⟩ := Option.ne_none_iff_exists'.mp related
      obtain ⟨parent, above, -, order, -⟩ := settled.forest.exists_parent found related
      have capped := (settled.forest.fits above).capped
      omega
    obtain ⟨half, at_id, rfl⟩ := Arena.block?_of_outline found
    rw [Block.outline_family] at root
    unfold coalesce
    rw [yields_bind, yields_block_of at_id, root]
    refine done fun family _ related _ _ => ?_
    rw [Block.outline_family, root] at related
    cases related
  | succ levels ih =>
    obtain ⟨half, at_id, rfl⟩ := Arena.block?_of_outline found
    unfold coalesce
    rw [yields_bind, yields_block_of at_id]
    split
    · rename_i family related
      have drawn_related : half.outline.family = some family := by rwa [Block.outline_family]
      obtain ⟨drawn_buddy, at_drawn, -⟩ := settled.forest.exists_buddy found drawn_related
      obtain ⟨buddy, at_buddy, rfl⟩ := Arena.block?_of_outline at_drawn
      rw [yields_bind, yields_block_of at_buddy]
      split
      · rename_i both
        have buddy_listed : buddy.outline.isListed = true := by
          rw [Block.isListed_outline]
          exact (Bool.and_eq_true_iff.mp both).2
        suffices goes_on : (do joinHalves id family; coalesce levels family.parent).Yields allocator
            (fun _ after => after.Settled hand ∧ SameBooks allocator after ∧
              Merged after.arena.outline ∧ ∀ other held, HandedOut after.arena.outline other held ↔
                HandedOut allocator.arena.outline other held) (fun _ _ => False) by
          simpa only [joinHalves, yields_bind] using goes_on
        rw [yields_bind]
        refine (settles_joinHalves settled merged found listed drawn_related at_drawn
          buddy_listed).mono ?_ fun _ _ => False.elim
        rintro _ after ⟨settled_after, books, merged_after, ⟨parent, at_parent, parent_listed,
          order⟩, kept⟩
        have higher : after.space.maxOrder ≤ parent.order + levels := by
          rw [books.space]
          omega
        refine (ih settled_after merged_after at_parent parent_listed higher ?_).mono ?_
          fun _ _ => False.elim
        · exact fun alone => ⟨settled_after, .refl after,
            merged_after.merged settled_after.forest at_parent alone, fun _ _ => Iff.rfl⟩
        · rintro _ last ⟨settled_last, books_last, merged_last, still⟩
          exact ⟨settled_last, books.trans books_last, merged_last, fun other held =>
            (still other held).trans (kept other held)⟩
      · rename_i not_both
        refine done fun other held relation under _ => ?_
        obtain rfl : family = other := Option.some.inj (drawn_related.symm.trans relation)
        obtain rfl : buddy.outline = held := Option.some.inj (at_drawn.symm.trans under)
        rw [Block.isListed_outline] at listed ⊢
        rw [listed, Bool.true_and, Bool.not_eq_true] at not_both
        exact not_both
    · rename_i unrelated
      refine done fun family _ related _ _ => ?_
      rw [Block.outline_family] at related
      exact (unrelated family related).elim

/-- A block that is handed out becomes loose and is in hand before it is listed and joined. -/
theorem Settled.exists_loose (settled : allocator.Settled hand)
    (handed : HandedOut allocator.arena.outline id block) :
    ∃ arena counts, allocator.arena.update id ({ · with state := .loose }) = .ok arena ∧
      arena.outline = Function.update allocator.arena.outline id
        (some { block with state := .loose }) ∧
      ({ allocator with arena, counts } : Allocator).Settled (id :: hand) ∧
      ∀ (good : Unit → Allocator → Prop) (bad : Failure → Allocator → Prop),
        (do list id; coalesce ((← get).space.maxOrder - block.order) id).Yields
          { allocator with arena, counts } good bad → (release id).Yields allocator good bad := by
  obtain ⟨found, allocated⟩ := handed
  have unlisted : block.isListed = false := Block.isListed_of_allocated allocated
  have in_use : block.isAllocated = true := by simp [Block.isAllocated, allocated]
  have leaf := Block.isLeaf_of_isAllocated in_use
  have finite := finitelyMany_outline allocator.arena
  have at_id := Arena.block?_of_unlisted_outline found unlisted
  obtain ⟨count, present⟩ := settled.has_count found
  obtain ⟨arena, run, sound, room, outline⟩ := Arena.answers_update settled.sound found unlisted
    ({ · with state := .loose }) rfl
  have positive : 1 ≤ count.allocated := by
    rw [(settled.counted block.order count present).1]
    exact (Set.ncard_pos finite.handlesOf).mpr ⟨id, block, found, in_use, rfl⟩
  have fewer : (do return { count with allocated := ← Checked.sub count.allocated 1 } :
      Except Failure OrderCount) = .ok { count with allocated := count.allocated - 1 } := by
    rw [Checked.sub_of_le positive]
    rfl
  have counted : Counted arena.outline (allocator.counts.setIfInBounds block.order
      { count with allocated := count.allocated - 1 }) :=
    settled.counted_handed found leaf rfl outline present
      (by rw [in_use]; exact Nat.sub_add_cancel positive)
  have settled_loose := settled.relabel (id :: hand) found leaf rfl sound room outline
    (Array.size_setIfInBounds ..) counted (fun _ => List.mem_cons_self)
    fun other mem _ => List.mem_cons_of_mem _ mem
  refine ⟨arena, _, run, outline, settled_loose, fun good bad goes_on => ?_⟩
  unfold release
  simp only [yields_bind, yields_block_of at_id]
  rw [if_neg (not_not.mpr allocated)]
  simp only [yields_bind] at goes_on ⊢
  refine (yields_changeArena_of run).mpr ?_
  exact yields_changeCount_of present fewer goes_on

/-- A block that is handed out can be taken back; its halves and those above are joined then. -/
theorem settles_release (settled : allocator.Settled hand) (merged : Merged allocator.arena.outline)
    (handed : HandedOut allocator.arena.outline id block) :
    (release id).Yields allocator
      (fun _ after => after.Settled hand ∧ SameBooks allocator after ∧
        Merged after.arena.outline ∧ ∀ other held, HandedOut after.arena.outline other held ↔
          other ≠ id ∧ HandedOut allocator.arena.outline other held)
      (fun _ _ => False) := by
  obtain ⟨arena, counts, -, outline, settled_loose, comes_down⟩ := settled.exists_loose handed
  have at_loose : arena.outline id = some { block with state := .loose } := by
    rw [outline, Function.update_self]
  refine comes_down _ _ ?_
  simp only [yields_bind, yields_get]
  refine (settles_list settled_loose at_loose rfl).mono ?_ fun _ _ => False.elim
  rintro _ second ⟨settled_second, books, shown⟩
  dsimp only at shown
  have books_second : SameBooks allocator second := by
    have step : SameBooks allocator { allocator with arena, counts } := rfl
    exact step.trans books
  have merged_loose : Merged arena.outline := merged.relabel rfl outline
  have merged_second : MergedBut id second.arena.outline := by
    intro one other pair
    rw [shown] at pair
    exact pair.of_list merged_loose
  have at_listed : second.arena.outline id = some { block with state := .listed none none } := by
    rw [shown, Function.update_self]
  have enough : second.space.maxOrder ≤ block.order + (second.space.maxOrder - block.order) := by
    omega
  refine (settles_coalesce settled_second merged_second at_listed rfl enough).mono ?_
    fun _ _ => False.elim
  rintro _ after ⟨settled_after, books_after, merged_after, kept⟩
  refine ⟨settled_after, books_second.trans books_after, merged_after, fun other held => ?_⟩
  rw [kept, shown, handedOut_relabel at_loose BlockState.noConfusion BlockState.noConfusion,
    outline, handedOut_update_iff]
  constructor
  · rintro (⟨-, -, impossible⟩ | rest)
    · cases impossible
    · exact rest
  · exact .inr

/-- Blocks that are handed out can be taken back one after another. -/
theorem settles_forM_release (settled : allocator.Settled hand)
    (merged : Merged allocator.arena.outline) {ids : List BlockId} (nodup : ids.Nodup)
    (handed : ∀ id ∈ ids, ∃ block, HandedOut allocator.arena.outline id block) :
    (ids.forM release).Yields allocator
      (fun _ after => after.Settled hand ∧ SameBooks allocator after ∧
        Merged after.arena.outline ∧ ∀ other held, HandedOut after.arena.outline other held ↔
          other ∉ ids ∧ HandedOut allocator.arena.outline other held)
      (fun _ _ => False) := by
  refine yields_forM (fun done after => after.Settled hand ∧ SameBooks allocator after ∧
      Merged after.arena.outline ∧ ∀ other held, HandedOut after.arena.outline other held ↔
        other ∉ done ∧ HandedOut allocator.arena.outline other held)
    ⟨settled, .refl allocator, merged, by simp⟩ ?_
  rintro done id rest middle rfl ⟨settled_middle, books, merged_middle, kept⟩
  obtain ⟨block, before⟩ := handed id (by simp)
  have fresh : id ∉ done := (Arena.not_mem_of_nodup nodup).1
  have still : HandedOut middle.arena.outline id block := (kept id block).mpr ⟨fresh, before⟩
  refine (settles_release settled_middle merged_middle still).mono (fun _ after ⟨settled_after,
    books_after, merged_after, kept_after⟩ => ?_) fun _ _ => False.elim
  refine ⟨settled_after, books.trans books_after, merged_after, fun other held => ?_⟩
  rw [kept_after, kept, List.mem_append, List.mem_singleton]
  constructor
  · rintro ⟨apart, absent, rest⟩
    exact ⟨fun mem => mem.elim absent apart, rest⟩
  · rintro ⟨absent, rest⟩
    exact ⟨fun same => absent (.inr same), fun mem => absent (.inl mem), rest⟩

end Merging

end GpuSched.Buddy.Allocator
