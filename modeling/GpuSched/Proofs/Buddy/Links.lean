import GpuSched.Proofs.Buddy.Progress

/-!
# Links between free blocks

In a space of GPU virtual addresses a block for big pages joins its free list at the tail, and every
other block at the head. What this keeps shows at the links alone: a block for big pages is followed
by another one. A block that joins at the end for its class keeps it, and so does a block that
leaves its place between two others, or that comes and goes off the lists. A free list of such an
arena, read from its head, has the blocks for big pages last.
-/
namespace GpuSched.Buddy

open Operation (bind_eq_ok_iff pure_eq_ok_iff)

namespace Block

variable {block : Block} {other : BlockId} {backward : Bool}

/-- A block that is on no list has no neighbours. -/
theorem neighbour_of_unlisted (unlisted : block.isListed = false) :
    block.neighbour backward = none := by
  unfold isListed at unlisted
  unfold neighbour
  split at unlisted
  · cases unlisted
  all_goals simp_all

/-- A change of the link back leaves the link forth. -/
theorem neighbour_withPrevious (block : Block) (previous : Option BlockId) :
    (block.withPrevious previous).neighbour false = block.neighbour false ∧
      ∀ other, (block.withPrevious previous).neighbour true = some other →
        previous = some other := by
  unfold withPrevious neighbour
  rcases block with ⟨_, _, _, _ | _ | _ | _, _⟩ <;> simp

/-- A change of the link forth leaves the link back. -/
theorem neighbour_withNext (block : Block) (next : Option BlockId) :
    (block.withNext next).neighbour true = block.neighbour true ∧
      ∀ other, (block.withNext next).neighbour false = some other → next = some other := by
  unfold withNext neighbour
  rcases block with ⟨_, _, _, _ | _ | _ | _, _⟩ <;> simp

end Block

namespace Arena

variable {arena changed : Arena} {id one other : BlockId} {block held : Block}
  {queue : Nat → List BlockId} {order : Nat}

/-- What the block under a handle is set aside for. -/
def classAt (arena : Arena) (id : BlockId) : Option PageClass :=
  (arena.block? id).map (·.pageClass)

/-- A block may follow another one: if that is for big pages, so is this. -/
def Leads (arena : Arena) (one other : BlockId) : Prop :=
  arena.classAt one = some .big → ∀ pageClass, arena.classAt other = some pageClass →
    pageClass = .big

/-- Every block may stand between its neighbours. -/
def Parted (arena : Arena) : Prop :=
  ∀ id block, arena.block? id = some block → ∀ other,
    (block.neighbour false = some other → arena.Leads id other) ∧
      (block.neighbour true = some other → arena.Leads other id)

theorem classAt_of_block? (found : arena.block? id = some block) :
    arena.classAt id = some block.pageClass := by
  unfold classAt
  rw [found]
  rfl

/-- Anything may follow a block that is not for big pages. -/
theorem leads_of_ne_big (small : arena.classAt one ≠ some .big) : arena.Leads one other :=
  fun big => absurd big small

/-- A block for big pages may follow anything. -/
theorem leads_of_big (big : arena.classAt other = some .big) : arena.Leads one other := by
  intro _ pageClass held
  exact (Option.some.inj (big.symm.trans held)).symm

/-- What may follow a block that may follow another one may follow that one. -/
theorem Leads.trans (first : arena.Leads one id) (second : arena.Leads id other)
    (found : arena.block? id = some block) : arena.Leads one other := by
  intro big
  have middle : block.pageClass = .big := first big _ (classAt_of_block? found)
  apply second
  rw [classAt_of_block? found, middle]

/-- What blocks are for is all that counts. -/
theorem Leads.congr (leads : arena.Leads one other) (same : changed.classAt = arena.classAt) :
    changed.Leads one other := by
  unfold Leads
  rw [same]
  exact leads

/-- Another block of the same class under a handle. -/
theorem classAt_put (found : arena.block? id = some block)
    (same : held.pageClass = block.pageClass) : (arena.put id held).classAt = arena.classAt := by
  funext other
  unfold classAt
  rw [block?_put (lt_size_of_block? found)]
  split
  · rename_i here
    rw [here, found, Option.map_some, Option.map_some, same]
  · rfl

/-- A block may be put under a handle if it may stand between its neighbours. -/
theorem Parted.put (parted : arena.Parted) (found : arena.block? id = some block)
    (same : held.pageClass = block.pageClass)
    (next : ∀ other, held.neighbour false = some other → arena.Leads id other)
    (previous : ∀ other, held.neighbour true = some other → arena.Leads other id) :
    (arena.put id held).Parted := by
  have classes := classAt_put found same
  intro place under present other
  rw [block?_put (lt_size_of_block? found)] at present
  split at present
  · rename_i here
    obtain rfl := Option.some.inj present
    rw [here]
    exact ⟨fun link => (next other link).congr classes,
      fun link => (previous other link).congr classes⟩
  · obtain ⟨forth, back⟩ := parted place under present other
    exact ⟨fun link => (forth link).congr classes, fun link => (back link).congr classes⟩

/-- A block may change if its class stays and it has no new neighbours, or such that suit it. -/
theorem Parted.update (parted : arena.Parted) {change : Block → Block}
    (run : arena.update id change = .ok changed)
    (same : ∀ block, (change block).pageClass = block.pageClass)
    (next : ∀ block other, (change block).neighbour false = some other →
      block.neighbour false = some other ∨ arena.Leads id other)
    (previous : ∀ block other, (change block).neighbour true = some other →
      block.neighbour true = some other ∨ arena.Leads other id) :
    changed.Parted ∧ changed.classAt = arena.classAt := by
  obtain ⟨block, found, rfl⟩ := update_eq_ok_iff.mp run
  refine ⟨parted.put found (same block) (fun other link => ?_) (fun other link => ?_),
    classAt_put found (same block)⟩
  · exact (next block other link).elim (parted id block found other).1 fun leads => leads
  · exact (previous block other link).elim (parted id block found other).2 fun leads => leads

/-- A block that gets no new neighbours suits those that it has. -/
theorem Parted.relabel (parted : arena.Parted) {change : Block → Block}
    (run : arena.update id change = .ok changed)
    (same : ∀ block, (change block).pageClass = block.pageClass)
    (links : ∀ block other backward, (change block).neighbour backward = some other →
      block.neighbour backward = some other) :
    changed.Parted :=
  (parted.update run same (fun block other link => .inl (links block other false link))
    fun block other link => .inl (links block other true link)).1

/-- Another block comes before a block, if there is one. -/
theorem Parted.linkBack (parted : arena.Parted) {handle previous : Option BlockId}
    (leads : ∀ place other, handle = some place → previous = some other → arena.Leads other place)
    (run : arena.updateAt handle (·.withPrevious previous) = .ok changed) :
    changed.Parted ∧ changed.classAt = arena.classAt := by
  cases handle with
  | none => exact pure_eq_ok_iff.mp run ▸ ⟨parted, rfl⟩
  | some place =>
    apply parted.update run
    · intro block
      unfold Block.withPrevious
      split <;> rfl
    · intro block other link
      rw [(block.neighbour_withPrevious previous).1] at link
      exact .inl link
    · intro block other link
      exact .inr (leads place other rfl ((block.neighbour_withPrevious previous).2 other link))

/-- Another block comes after a block, if there is one. -/
theorem Parted.linkForth (parted : arena.Parted) {handle next : Option BlockId}
    (leads : ∀ place other, handle = some place → next = some other → arena.Leads place other)
    (run : arena.updateAt handle (·.withNext next) = .ok changed) :
    changed.Parted ∧ changed.classAt = arena.classAt := by
  cases handle with
  | none => exact pure_eq_ok_iff.mp run ▸ ⟨parted, rfl⟩
  | some place =>
    apply parted.update run
    · intro block
      unfold Block.withNext
      split <;> rfl
    · intro block other link
      exact .inr (leads place other rfl ((block.neighbour_withNext next).2 other link))
    · intro block other link
      rw [(block.neighbour_withNext next).1] at link
      exact .inl link

/-- A block that is not for big pages may join its list at the head. -/
theorem Parted.pushFront (parted : arena.Parted) (small : arena.classAt id ≠ some .big)
    (run : arena.pushFront id = .ok changed) : changed.Parted := by
  obtain ⟨block, list, -, joins⟩ := pushFront_eq_ok_iff.mp run
  obtain ⟨linked, links, rfl⟩ := joins.linked
  have same : ({ block with state := .listed none list.head } : Block).pageClass =
    block.pageClass := rfl
  have listed := parted.put joins.found same (fun _ _ => leads_of_ne_big small) fun _ link => by
    cases link
  refine (listed.linkBack (fun place other _ first => leads_of_ne_big ?_) links).1
  obtain rfl := Option.some.inj first
  rwa [classAt_put joins.found same]

/-- A block for big pages may join its list at the tail. -/
theorem Parted.pushBack (parted : arena.Parted) (big : arena.classAt id = some .big)
    (run : arena.pushBack id = .ok changed) : changed.Parted := by
  obtain ⟨block, list, -, joins⟩ := pushBack_eq_ok_iff.mp run
  obtain ⟨linked, links, rfl⟩ := joins.linked
  have same : ({ block with state := .listed list.tail none } : Block).pageClass =
    block.pageClass := rfl
  have listed := parted.put joins.found same (fun _ link => by cases link) fun _ _ =>
    leads_of_big big
  refine (listed.linkForth (fun place other _ last => leads_of_big ?_) links).1
  obtain rfl := Option.some.inj last
  rwa [classAt_put joins.found same]

/-- The neighbours of a block that leaves its list may stand next to each other. -/
theorem Parted.unlink (parted : arena.Parted) (run : arena.unlink id = .ok changed) :
    changed.Parted := by
  have ran := run
  simp only [Arena.unlink, bind_eq_ok_iff, block_eq_ok_iff] at ran
  obtain ⟨block, found, ran⟩ := ran
  split at ran
  case h_4 previous next listed =>
    have same : ({ block with state := .loose } : Block).pageClass = block.pageClass := rfl
    have loose := parted.put found same (fun _ link => by cases link) fun _ link => by cases link
    have classes := classAt_put found same
    have joined : ∀ before after, previous = some before → next = some after →
        arena.Leads before after := by
      intro before after back forth
      have links := parted id block found
      unfold Block.neighbour at links
      rw [listed] at links
      exact ((links before).2 back).trans ((links after).1 forth) found
    rw [unlink_of_listed found listed] at run
    simp only [bind_eq_ok_iff, pure_eq_ok_iff] at run
    obtain ⟨list, -, first, back, second, forth, length, -, rfl⟩ := run
    obtain ⟨closed, kept⟩ := loose.linkForth
      (fun before after earlier later => (joined before after earlier later).congr classes) back
    exact (closed.linkBack (fun after before later earlier =>
      (joined before after earlier later).congr (kept.trans classes)) forth).1
  all_goals cases ran

/-- A handle that is given back leaves no new neighbours. -/
theorem Parted.remove (parted : arena.Parted) (run : arena.remove id = .ok (block, changed)) :
    changed.Parted := by
  obtain ⟨-, -, -, -, -, blocks⟩ := block?_remove run
  have still : ∀ place held, changed.block? place = some held → arena.block? place = some held := by
    intro place held present
    rw [blocks] at present
    split at present
    · cases present
    · exact present
  have leads : ∀ one other, arena.Leads one other → changed.Leads one other := by
    intro one other leads big pageClass there
    obtain ⟨first, at_one, first_big⟩ := Option.map_eq_some_iff.mp big
    obtain ⟨second, at_other, second_class⟩ := Option.map_eq_some_iff.mp there
    apply leads
    · rw [classAt_of_block? (still _ _ at_one), first_big]
    · rw [classAt_of_block? (still _ _ at_other), second_class]
  intro place held present other
  obtain ⟨forth, back⟩ := parted place held (still _ _ present) other
  exact ⟨fun link => leads _ _ (forth link), fun link => leads _ _ (back link)⟩

/-- The neighbours of a block of a sound arena are blocks of it. -/
theorem Sound.exists_neighbour (sound : arena.Sound) (found : arena.block? id = some block)
    {backward : Bool} (link : block.neighbour backward = some other) :
    ∃ held, arena.block? other = some held := by
  obtain ⟨queue, queued⟩ := sound.queued
  cases listed : block.isListed with
  | false =>
    rw [Block.neighbour_of_unlisted listed] at link
    cases link
  | true =>
    have mem := queued.complete id block found listed
    obtain ⟨before, after, parts⟩ := List.append_of_mem mem
    obtain ⟨same, under, -, state⟩ := queued.linked block.order before id after parts
    obtain rfl := Option.some.inj (found.symm.trans under)
    have mem_other : other ∈ queue block.order := by
      unfold Block.neighbour at link
      rw [state] at link
      rw [parts]
      cases backward with
      | false =>
        exact List.mem_append_right _ (List.mem_cons_of_mem _ (List.mem_of_mem_head? link))
      | true => exact List.mem_append_left _ (List.mem_of_mem_getLast? link)
    obtain ⟨held, present, -⟩ := queued.of_mem mem_other
    exact ⟨held, present⟩

/-- A new block has no neighbours, and no block has it for a neighbour. -/
theorem Parted.insert (parted : arena.Parted) (sound : arena.Sound)
    (unlisted : block.isListed = false) (run : arena.insert block = .ok (id, changed)) :
    changed.Parted := by
  obtain ⟨fresh, -, blocks, -⟩ := block?_insert sound run
  have still : ∀ place held, arena.block? place = some held →
      changed.block? place = some held := by
    intro place held found
    have apart : place ≠ id := by
      rintro rfl
      cases fresh.symm.trans found
    rw [blocks, if_neg apart]
    exact found
  intro place held present other
  rw [blocks] at present
  split at present
  · obtain rfl := Option.some.inj present
    constructor
    · intro link
      rw [Block.neighbour_of_unlisted unlisted] at link
      cases link
    · intro link
      rw [Block.neighbour_of_unlisted unlisted] at link
      cases link
  · obtain ⟨forth, back⟩ := parted place held present other
    have same : ∀ backward, held.neighbour backward = some other →
        changed.classAt place = arena.classAt place ∧
          changed.classAt other = arena.classAt other := by
      intro backward link
      obtain ⟨beside, found⟩ := sound.exists_neighbour present link
      rw [classAt_of_block? present, classAt_of_block? found,
        classAt_of_block? (still _ _ present), classAt_of_block? (still _ _ found)]
      exact ⟨rfl, rfl⟩
    constructor
    · intro link
      obtain ⟨same_place, same_other⟩ := same false link
      unfold Leads
      rw [same_place, same_other]
      exact forth link
    · intro link
      obtain ⟨same_place, same_other⟩ := same true link
      unfold Leads
      rw [same_place, same_other]
      exact back link

/-- On a free list all blocks after one for big pages are for big pages. -/
theorem Parted.pairwise (parted : arena.Parted) (queued : arena.Queued queue)
    {before after : List BlockId} (parts : queue order = before ++ after) :
    after.Pairwise fun one other =>
      arena.classAt one = some .big → arena.classAt other = some .big := by
  induction after generalizing before with
  | nil => exact .nil
  | cons id rest ih =>
    have later := ih (by rw [parts, List.append_cons])
    refine List.pairwise_cons.mpr ⟨fun other mem big => ?_, later⟩
    obtain ⟨block, found, -, state⟩ := queued.linked order before id rest parts
    cases rest with
    | nil => cases mem
    | cons next others =>
      have link : block.neighbour false = some next := by
        unfold Block.neighbour
        rw [state]
        rfl
      have mem_next : next ∈ queue order := by
        rw [parts]
        exact List.mem_append_right _ (List.mem_cons_of_mem _ List.mem_cons_self)
      obtain ⟨held, present, -⟩ := queued.of_mem mem_next
      have next_big : arena.classAt next = some .big := by
        rw [classAt_of_block? present]
        exact congrArg some ((parted id block found next).1 link big _ (classAt_of_block? present))
      rcases List.mem_cons.mp mem with rfl | mem
      · exact next_big
      · exact (List.pairwise_cons.mp later).1 other mem next_big

/-- The blocks for big pages are at the end of what a free list holds. -/
def BigLast (blocks : List (BlockId × Block)) : Prop :=
  blocks.Pairwise fun one other => one.2.pageClass = .big → other.2.pageClass = .big

/-- Reading a free list of a parted arena finds the blocks for big pages last. -/
theorem Parted.bigLast (parted : arena.Parted) (sound : arena.Sound)
    {blocks : List (BlockId × Block)} (run : arena.listed order = .ok blocks) :
    BigLast blocks := by
  obtain ⟨queue, queued⟩ := sound.queued
  obtain ⟨ids, under⟩ := listed_eq_ok queued run
  have pairs : (blocks.map (·.1)).Pairwise fun one other =>
      arena.classAt one = some .big → arena.classAt other = some .big := by
    rw [ids, if_neg Bool.false_ne_true]
    exact parted.pairwise queued (List.nil_append _).symm
  rw [List.pairwise_map] at pairs
  refine pairs.imp_of_mem fun {one other} mem mem_other leads big => ?_
  have leads_big := leads (by rw [classAt_of_block? (under one mem), big])
  rw [classAt_of_block? (under other mem_other)] at leads_big
  exact Option.some.inj leads_big

/-- Blocks that are read under their handles are known from the handles. -/
theorem entries_eq {entries : List (BlockId × Block)}
    (found : ∀ entry ∈ entries, arena.block? entry.1 = some entry.2) :
    entries = (entries.map (·.1)).filterMap fun id => (arena.block? id).map (Prod.mk id) := by
  induction entries with
  | nil => rfl
  | cons entry rest ih =>
    obtain ⟨at_entry, at_rest⟩ := List.forall_mem_cons.mp found
    rw [List.map_cons, List.filterMap_cons, at_entry]
    exact congrArg (entry :: ·) (ih at_rest)

/-- Reading a free list from its tail finds the blocks in reverse. -/
theorem listed_backward (sound : arena.Sound) {blocks reverse : List (BlockId × Block)}
    (run : arena.listed order = .ok blocks) (back : arena.listed order true = .ok reverse) :
    reverse = blocks.reverse := by
  obtain ⟨queue, queued⟩ := sound.queued
  obtain ⟨ids, under⟩ := listed_eq_ok queued run
  obtain ⟨ids_back, under_back⟩ := listed_eq_ok queued back
  rw [entries_eq under_back, entries_eq under, ids, ids_back, if_pos rfl,
    if_neg Bool.false_ne_true, List.filterMap_reverse]

/-- A search that takes every block but those for big pages takes the head of a list that has such a
block. -/
theorem BigLast.head?_eq {blocks : List (BlockId × Block)} {entry : BlockId × Block}
    (bigLast : BigLast blocks) {accept : BlockId × Block → Bool}
    (accepts : ∀ other, other.2.pageClass ≠ .big → accept other = true)
    (found : blocks.find? accept = some entry)
    (small : ∃ other ∈ blocks, other.2.pageClass ≠ .big) : blocks.head? = some entry := by
  obtain ⟨other, mem, other_small⟩ := small
  cases blocks with
  | nil => cases found
  | cons first rest =>
    have first_small : first.2.pageClass ≠ .big := by
      intro first_big
      rcases List.mem_cons.mp mem with rfl | later
      · exact other_small first_big
      · exact other_small ((List.pairwise_cons.mp bigLast).1 other later first_big)
    rw [List.find?_cons_of_pos (accepts first first_small)] at found
    exact found

/-- A search from the tail that takes blocks for big pages finds another one only where there are
none. -/
theorem BigLast.all_small {blocks : List (BlockId × Block)} {entry : BlockId × Block}
    (bigLast : BigLast blocks) {accept : BlockId × Block → Bool}
    (accepts : ∀ other, other.2.pageClass = .big → accept other = true)
    (found : blocks.reverse.find? accept = some entry) (small : entry.2.pageClass ≠ .big) :
    ∀ other ∈ blocks, other.2.pageClass ≠ .big := by
  obtain ⟨-, after, before, parts, refused⟩ := List.find?_eq_some_iff_append.mp found
  have whole : blocks = before.reverse ++ entry :: after.reverse := by
    rw [← List.reverse_reverse blocks, parts]
    simp
  intro other mem big
  rw [whole] at mem bigLast
  rcases List.mem_append.mp mem with earlier | later
  · have leads := (List.pairwise_append.mp bigLast).2.2 other earlier entry List.mem_cons_self
    exact small (leads big)
  · rcases List.mem_cons.mp later with rfl | later
    · exact small big
    · have fails := refused other (List.mem_reverse.mp later)
      rw [accepts other big] at fails
      cases fails

end Arena

end GpuSched.Buddy
