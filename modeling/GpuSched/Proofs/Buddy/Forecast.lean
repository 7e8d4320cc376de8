import GpuSched.Proofs.Buddy.Decision
import GpuSched.Proofs.Buddy.Shelves

/-!
# What a call in a flat space is answered

In a flat space the shelves of an allocator and the ranges that callers hold are all that a call
depends on, besides the totals of bytes that may stop it. This is made precise by computing the
answer of a call, and the shelves that it leaves, from these alone. Allocators of one space with the
same shelves and the same held ranges therefore answer alike, whatever handles they use.
-/
namespace GpuSched.Buddy

namespace Shelves

/-- The first tile on the lists of some orders whose position passes a test. -/
def search (shelves : Shelves) (test : Nat → Nat → Bool) (orders : List Nat) : Option Tile :=
  orders.findSome? fun order => ((shelves.free order).find? (test order)).map (⟨·, order⟩)

/-- Split the tile from `first` of the order `target + levels` down to `target` toward a position,
and put the other halves on their shelves. There may be too few handles left. -/
def carve (toward target : Nat) : (levels first : Nat) → Shelves → Option Shelves
  | 0, _, shelves => some shelves
  | levels + 1, first, shelves =>
      let middle := first + twoPow (target + levels)
      if shelves.room < 2 then
        none
      else if toward < middle then
        carve toward target levels first (shelves.spend.put ⟨middle, target + levels⟩)
      else
        carve toward target levels middle (shelves.spend.put ⟨first, target + levels⟩)

/-- Take a part at a position off a tile that is on its shelf. -/
def cut (toward target : Nat) (whole : Tile) (shelves : Shelves) : Option Shelves :=
  (shelves.take whole).carve toward target (whole.order - target) whole.position

/-- Take a tile out of a free one around it. -/
def claim (space : Space) (shelves : Shelves) (tile : Tile) : Option Shelves := do
  let whole ← shelves.search
    (fun order position => position = tile.position / twoPow order * twoPow order)
    (Allocator.ordersFrom space tile.order)
  shelves.cut tile.position tile.order whole

end Shelves

namespace Allocator

open Operation

section Searching

variable {allocator : Allocator} {shelves : Shelves} {id : BlockId} {block : Block}
  {hand : List BlockId} {pageClass : PageClass}

/-- What is listed of an order are the positions on its shelf. -/
theorem listed_shelved {arena : Arena} (shelved : arena.Shelved shelves) {order : Nat}
    {blocks : List (BlockId × Block)} (run : arena.listed order false = .ok blocks) :
    blocks.map (·.2.position) = shelves.free order := by
  obtain ⟨⟨queue, queued, free⟩, -⟩ := shelved
  obtain ⟨ids, present⟩ := Arena.listed_eq_ok queued run
  rw [if_neg Bool.false_ne_true] at ids
  rw [← free, ← ids, List.map_map]
  refine List.map_congr_left fun entry mem => ?_
  have drawn := Arena.outline_of_block? (present entry mem)
  exact (Block.outline_position entry.2).symm.trans (Arena.positionOf_eq drawn).symm

/-- A search by position finds on the free lists what it finds on the shelves. -/
theorem search_shelved {arena : Arena} (sound : arena.Sound) (shelved : arena.Shelved shelves)
    (accept : Nat → Block → Bool) (test : Nat → Nat → Bool)
    (same : ∀ order block, accept order block = test order block.position) (orders : List Nat)
    (room : ∀ order ∈ orders, order < arena.lists.size) :
    ∃ result, search arena false accept orders = .ok result ∧
      result.map (·.2.tile) = shelves.search test orders := by
  induction orders with
  | nil => exact ⟨none, rfl, rfl⟩
  | cons order orders ih =>
    obtain ⟨result, run, found⟩ := ih fun other mem => room other (List.mem_cons_of_mem _ mem)
    obtain ⟨blocks, walked, -⟩ :=
      Arena.exists_listed sound (room order List.mem_cons_self) false
    have first : (shelves.free order).find? (test order) =
        (blocks.find? fun listed => accept order listed.2).map (·.2.position) := by
      rw [← listed_shelved shelved walked, List.find?_map]
      simp only [same]
      rfl
    rw [search_cons walked]
    unfold Shelves.search at found ⊢
    rw [List.findSome?_cons, first]
    cases hit : blocks.find? fun listed => accept order listed.2 with
    | none => exact ⟨result, run, found⟩
    | some entry =>
      obtain ⟨-, level, -⟩ :=
        Arena.of_mem_listed sound walked (List.mem_of_find?_eq_some hit)
      refine ⟨some entry, rfl, ?_⟩
      rw [Option.map_some, Option.map_some, Option.map_some, ← level]
      rfl

/-- A search for a free block of any page size finds what is first on the shelves. -/
theorem shelves_findFree (settled : allocator.Settled hand)
    (shelved : allocator.arena.Shelved shelves) (order : Nat) :
    ∃ result, allocator.findFree order .any = .ok result ∧ result.map (·.2.tile) =
      shelves.search (fun _ _ => true) (ordersFrom allocator.space order) := by
  have head : allocator.space.fromTail .any = false := Bool.and_false _
  unfold findFree
  rw [head]
  exact search_shelved settled.sound shelved _ _ (fun _ _ => by simp [PageClass.accepts]) _
    fun _ => settled.lists_of_ordersFrom

/-- A search for a free block of any page size around a tile finds the one on the shelves. -/
theorem shelves_findAround (settled : allocator.Settled hand)
    (shelved : allocator.arena.Shelved shelves) (tile : Tile) :
    ∃ result, allocator.findAround tile .any = .ok result ∧ result.map (·.2.tile) =
      shelves.search
        (fun order position => position = tile.position / twoPow order * twoPow order)
        (ordersFrom allocator.space tile.order) :=
  search_shelved settled.sound shelved _ _ (fun _ _ => by simp [PageClass.accepts]) _
    fun _ => settled.lists_of_ordersFrom

end Searching

section Carving

variable {allocator : Allocator} {shelves : Shelves} {id : BlockId} {block : Block}
  {hand : List BlockId} {pageClass : PageClass} {target levels : Nat}

/-- In a flat space splitting to the left carves the shelves at the start of the block. -/
theorem shelves_splitLeft (settled : allocator.Settled (id :: hand))
    (merged : Merged allocator.arena.outline) (flat : allocator.space.directoryOrder = none)
    (shelved : allocator.arena.Shelved shelves) (found : allocator.arena.outline id = some block)
    (loose : block.state = .loose) (order : block.order = target + levels) :
    (splitLeft pageClass levels id).Yields allocator
      (fun _ after => ∃ rest,
        shelves.carve block.position target levels block.position = some rest ∧
        after.arena.Shelved rest)
      (fun _ _ => shelves.carve block.position target levels block.position = none) := by
  induction levels generalizing allocator id block shelves with
  | zero => exact ⟨shelves, rfl, shelved⟩
  | succ levels ih =>
    have above : block.order = target + levels + 1 := order
    have before : block.position < block.position + twoPow (target + levels) :=
      Nat.lt_add_of_pos_right (twoPow_pos _)
    unfold splitLeft Shelves.carve
    rw [yields_bind]
    refine ((carves_split settled merged found loose above pageClass).and
      (shelves_split settled flat shelved found loose above pageClass)).mono ?_
        fun _ _ failed => if_pos failed.2
    rintro ⟨left, right⟩ first ⟨⟨carves, leftHalf, rightHalf, halved, left_loose, -, -, -, outline⟩,
      room, shelved_first⟩
    dsimp only at carves halved outline ⊢
    rw [if_neg (Nat.not_lt.mpr room), if_pos before]
    have at_left : first.arena.outline left = some leftHalf := by
      rw [outline, withHalves_left halved.apart.1 halved.distinct]
    have goes_on := ih carves.settled carves.merged (carves.books.space ▸ flat) shelved_first
      at_left left_loose halved.halves.left_order
    rwa [halved.halves.left_position] at goes_on

/-- When the halves of a block change places, the left one is on the shelf and the right one is
not. -/
theorem shelves_swap {left right : BlockId} {leftHalf rightHalf : Block}
    (settled : allocator.Settled (left :: hand)) (flat : allocator.space.directoryOrder = none)
    (shelved : allocator.arena.Shelved (shelves.put rightHalf.tile))
    (at_left : allocator.arena.outline left = some leftHalf) (left_loose : leftHalf.state = .loose)
    (at_right : allocator.arena.outline right = some rightHalf)
    (right_listed : rightHalf.isListed = true) (distinct : left ≠ right) :
    (do changeArena (·.unlink right); list left).Yields allocator
      (fun _ after => after.arena.Shelved (shelves.put leftHalf.tile)) (fun _ _ => False) := by
  rw [yields_bind]
  refine ((settles_unlink settled at_right right_listed).and
    (shelves_unlink settled shelved at_right right_listed)).mono
    (fun _ second ⟨⟨settled_second, books, shown⟩, shelved_second⟩ => ?_)
    fun _ _ failed => failed.1.elim
  rw [Shelves.take_put] at shelved_second
  have still_left : second.arena.outline left = some leftHalf := by
    rw [shown, Function.update_of_ne distinct, at_left]
  have in_hand : second.Settled (left :: right :: hand) :=
    settled_second.perm (List.Perm.swap right left hand)
  exact shelves_list in_hand (books.space ▸ flat) shelved_second still_left left_loose

/-- In a flat space splitting toward a position carves the shelves there. -/
theorem shelves_splitToward (settled : allocator.Settled (id :: hand))
    (merged : Merged allocator.arena.outline) (flat : allocator.space.directoryOrder = none)
    (shelved : allocator.arena.Shelved shelves) (found : allocator.arena.outline id = some block)
    (loose : block.state = .loose) (order : block.order = target + levels) (pageClass : PageClass)
    (position : Nat) :
    (splitToward position pageClass levels id).Yields allocator
      (fun _ after => ∃ rest,
        shelves.carve position target levels block.position = some rest ∧ after.arena.Shelved rest)
      (fun _ _ => shelves.carve position target levels block.position = none) := by
  induction levels generalizing allocator id block shelves with
  | zero => exact ⟨shelves, rfl, shelved⟩
  | succ levels ih =>
    have above : block.order = target + levels + 1 := order
    unfold splitToward Shelves.carve
    rw [yields_bind]
    refine ((carves_split settled merged found loose above pageClass).and
      (shelves_split settled flat shelved found loose above pageClass)).mono ?_
        fun _ _ failed => if_pos failed.2
    rintro ⟨left, right⟩ first ⟨⟨carves, leftHalf, rightHalf, halved, left_loose, right_listed,
      left_class, right_class, outline⟩, room, shelved_first⟩
    dsimp only at carves halved outline ⊢
    have flat_first := carves.books.space ▸ flat
    have left_position := halved.halves.left_position
    have right_position := halved.halves.right_position
    have at_left : first.arena.outline left = some leftHalf := by
      rw [outline, withHalves_left halved.apart.1 halved.distinct]
    have at_right : first.arena.outline right = some rightHalf := by
      rw [outline, withHalves_right halved.apart.2]
    obtain ⟨other, found_right, drawn⟩ := Arena.block?_of_outline at_right
    have placed : other.position = block.position + twoPow (target + levels) := by
      rw [← right_position, ← drawn, Block.outline_position]
    rw [yields_bind, yields_block_of found_right, placed, if_neg (Nat.not_lt.mpr room)]
    split
    · have goes_on := ih carves.settled carves.merged flat_first shelved_first at_left left_loose
        halved.halves.left_order
      rwa [left_position] at goes_on
    · suffices goes_on : ((do changeArena (·.unlink right); list left) >>= fun _ =>
          splitToward position pageClass levels right).Yields first
          (fun _ after => ∃ rest, (shelves.spend.put ⟨block.position, target + levels⟩).carve
              position target levels (block.position + twoPow (target + levels)) = some rest ∧
            after.arena.Shelved rest)
          (fun _ _ => (shelves.spend.put ⟨block.position, target + levels⟩).carve
            position target levels (block.position + twoPow (target + levels)) = none) by
        simpa only [yields_bind] using goes_on
      rw [yields_bind]
      obtain ⟨left_tile, right_tile⟩ := halved.halves.tiles
      rw [← right_tile] at shelved_first
      refine ((cuts_swap settled merged halved carves left_loose right_listed left_class
        right_class outline).and (shelves_swap carves.settled flat_first shelved_first at_left
          left_loose at_right (Block.isListed_iff.mpr ⟨_, _, right_listed⟩) halved.distinct)).mono
            ?_ fun _ _ failed => failed.1.elim
      rintro _ second ⟨cuts, shelved_second⟩
      have goes_on := ih cuts.carves.settled cuts.carves.merged (cuts.carves.books.space ▸ flat)
        shelved_second cuts.at_part rfl halved.halves.right_order
      dsimp only at goes_on
      rwa [right_position, left_tile] at goes_on

/-- In a flat space handing out the start of a free block cuts it off the shelves. -/
theorem shelves_handOut (settled : allocator.Settled hand) (merged : Merged allocator.arena.outline)
    (flat : allocator.space.directoryOrder = none) (shelved : allocator.arena.Shelved shelves)
    (found : allocator.arena.outline id = some block) (listed : block.isListed = true)
    (large : target ≤ block.order) (pageClass : PageClass) :
    (handOut pageClass (block.order - target) id).Yields allocator
      (fun part after => (∃ held, after.arena.block? part = some held ∧
          held.position = block.position) ∧
        ∃ rest, shelves.cut block.position target block.tile = some rest ∧
          after.arena.Shelved rest)
      (fun _ _ => shelves.cut block.position target block.tile = none) := by
  unfold handOut
  simp only [yields_bind, yields_pure]
  refine ((settles_unlink settled found listed).and (shelves_unlink
    settled shelved found listed)).mono (fun _ first ⟨⟨settled_first, books, shown⟩,
      shelved_first⟩ => ?_) fun _ _ failed => failed.1.elim
  have merged_first : Merged first.arena.outline := merged.relabel rfl shown
  have at_block : first.arena.outline id = some { block with state := .loose } := by
    rw [shown, Function.update_self]
  have order : ({ block with state := .loose } : Block).order =
      target + (block.order - target) := by
    dsimp only
    omega
  refine ((descends_splitLeft settled_first merged_first at_block rfl (Nat.sub_le _ _)).and
    (shelves_splitLeft settled_first merged_first (books.space ▸ flat) shelved_first at_block rfl
      order)).mono ?_ fun _ _ failed => failed.2
  rintro part second ⟨⟨held, descends, position, -⟩, rest, carved, shelved_second⟩
  have carves := descends.carves settled_first merged_first
  obtain ⟨at_part, loose⟩ := descends.ends at_block rfl
  refine ((settles_markAllocated carves.settled at_part loose).and
    (shelves_markAllocated carves.settled shelved_second at_part loose)).mono
    (fun _ third ⟨⟨_, _, marked⟩, shelved_third⟩ => ?_) fun _ _ failed => failed.1.elim
  have at_third : third.arena.outline part = some { held with state := .allocated } := by
    rw [marked, Function.update_self]
  exact ⟨⟨_, Arena.block?_of_unlisted_outline at_third rfl, position⟩, rest, carved, shelved_third⟩

/-- In a flat space a claim takes the tile out of the shelves. -/
theorem shelves_claim (settled : allocator.Settled hand) (merged : Merged allocator.arena.outline)
    (flat : allocator.space.directoryOrder = none) (shelved : allocator.arena.Shelved shelves)
    (tile : Tile) :
    (claim tile .any).Yields allocator
      (fun result after => result = none ∧ shelves.claim allocator.space tile = none ∨
        ∃ id rest, result = some id ∧ shelves.claim allocator.space tile = some rest ∧
          after.arena.Shelved rest)
      (fun _ _ => shelves.claim allocator.space tile = none) := by
  obtain ⟨result, searched, around⟩ := shelves_findAround settled shelved tile
  unfold claim Shelves.claim
  rw [← around]
  simp only [yields_bind, yields_get]
  rw [searched, yields_lift_ok]
  cases result with
  | none => exact .inl ⟨rfl, rfl⟩
  | some entry =>
    obtain ⟨whole, held⟩ := entry
    obtain ⟨larger, under, listed, -⟩ := findAround_eq_ok settled.tiled searched
    have drawn := Arena.outline_of_block? under
    have drawn_listed : held.outline.isListed = true := by rwa [Block.isListed_outline]
    dsimp only
    simp only [yields_bind, yields_pure]
    refine ((settles_unlink settled drawn drawn_listed).and
      (shelves_unlink settled shelved drawn drawn_listed)).mono ?_ fun _ _ failed => failed.1.elim
    rintro _ first ⟨⟨settled_first, books, shown⟩, shelved_first⟩
    have merged_first : Merged first.arena.outline := merged.relabel rfl shown
    have at_whole : first.arena.outline whole = some { held.outline with state := .loose } := by
      rw [shown, Function.update_self]
    have order : ({ held.outline with state := .loose } : Block).order =
        tile.order + (held.order - tile.order) := by
      dsimp only
      rw [Block.outline_order]
      omega
    have carved := shelves_splitToward settled_first merged_first (books.space ▸ flat) shelved_first
      at_whole rfl order .any tile.position
    dsimp only at carved
    rw [Block.outline_position, Block.outline_tile] at carved
    refine carved.mono ?_ fun _ _ => id
    rintro part after ⟨rest, left, shelved_after⟩
    exact .inr ⟨part, rest, rfl, left, shelved_after⟩

/-- In a flat space the tiles of a range are taken out of the shelves one after another. -/
theorem shelves_claimAll (settled : allocator.Settled []) (merged : Merged allocator.arena.outline)
    (flat : allocator.space.directoryOrder = none) (shelved : allocator.arena.Shelved shelves)
    {tiles : List Tile} (aligned : ∀ tile ∈ tiles, tile.Aligned) (claimed : List BlockId) :
    (claimAll .any tiles claimed).Yields allocator
      (fun _ after => ∃ rest, tiles.foldlM (Shelves.claim allocator.space) shelves = some rest ∧
        after.arena.Shelved rest)
      (fun _ _ => tiles.foldlM (Shelves.claim allocator.space) shelves = none) := by
  induction tiles generalizing allocator shelves claimed with
  | nil => exact ⟨shelves, rfl, shelved⟩
  | cons tile tiles ih =>
    obtain ⟨place, places⟩ := List.forall_mem_cons.mp aligned
    unfold claimAll
    rw [yields_bind, List.foldlM_cons]
    refine ((settles_claim settled merged place).and
      (shelves_claim settled merged flat shelved tile)).mono ?_ ?_
    · rintro result middle ⟨outcome, ⟨rfl, nothing⟩ | ⟨id, rest, rfl, some_rest, shelved_middle⟩⟩
      · rw [nothing, yields_bind]
        exact yields_of_forall (fun _ _ => rfl) fun _ _ => rfl
      · obtain ⟨impossible, -⟩ | ⟨_, same, claim⟩ := outcome
        · cases impossible
        obtain rfl := Option.some.inj same
        obtain ⟨part, at_part, loose, -⟩ := claim.part
        rw [some_rest, yields_bind]
        refine ((settles_markAllocated claim.settled at_part loose).and (shelves_markAllocated
          claim.settled shelved_middle at_part loose)).mono ?_ fun _ _ failed => failed.1.elim
        rintro _ second ⟨⟨settled_second, books_second, shown⟩, shelved_second⟩
        have books := claim.books.trans books_second
        have goes_on := ih settled_second (claim.merged.relabel rfl shown) (books.space ▸ flat)
          shelved_second places (id :: claimed)
        rwa [books.space] at goes_on
    · rintro failure after ⟨-, nothing⟩
      rw [nothing]
      rfl

end Carving

end Allocator

/-- The tiles that are handed out for a holding. -/
def Space.tilesOf (space : Space) : Holding → List Tile
  | .ordinary address len => [⟨space.position address, space.orderOf len⟩]
  | .fixed base len => space.rangeTiles base len

namespace Shelves

/-- What an ordinary request is answered, and what it leaves on the shelves. -/
def allocate (space : Space) (len : Nat) (shelves : Shelves) : Except Failure (Nat × Shelves) :=
  if len = 0 then
    .error (.refused (.invalidConfig (space.name ++ ": zero-length allocation")))
  else if space.maxOrder < space.orderOf len then
    .error (.refused (.tooLarge len (space.orderOf len) space.maxOrder))
  else
    match shelves.search (fun _ _ => true) (Allocator.ordersFrom space (space.orderOf len)) with
    | none => .error (.refused .exhausted)
    | some whole =>
        match shelves.cut whole.position (space.orderOf len) whole with
        | none => .error (.aborted (.block .arenaFull))
        | some rest => .ok (space.address whole.position, rest)

/-- Whether a range meets one that a caller holds. -/
def meets (space : Space) (ledger : List Holding) (base len : Nat) : Bool :=
  ledger.any fun holding =>
    holding.start < base + len && base < holding.start + space.bytesOf holding

/-- What a fixed request is answered, and what it leaves on the shelves. -/
def allocateFixed (space : Space) (ledger : List Holding) (base len : Nat) (shelves : Shelves) :
    Except Failure (Nat × Shelves) :=
  if !Allocator.placeable space base len then
    .error (.refused (.invalidRange base len))
  else if meets space ledger base len then
    .error (.refused (.rangeInUse base len))
  else
    match (space.rangeTiles base len).foldlM (claim space) shelves with
    | none => .error (.aborted (.block .arenaFull))
    | some rest => .ok (base, rest)

/-- What a release leaves on the shelves. -/
def giveBack (space : Space) (ledger : List Holding) (address : Nat) (shelves : Shelves) :
    Shelves :=
  match ledger.find? (·.start = address) with
  | some holding =>
      (space.tilesOf holding).foldl (fun shelves tile => shelves.release space tile) shelves
  | none => shelves

/-- What a call is answered, and what it leaves on the shelves. -/
def perform (space : Space) (ledger : List Holding) (shelves : Shelves) :
    Allocator.Request → Except Failure (Nat × Shelves)
  | .allocate len _ => shelves.allocate space len
  | .allocateFixed base len _ => shelves.allocateFixed space ledger base len
  | .free address => .ok (address, shelves.giveBack space ledger address)

end Shelves

namespace Allocator

open Operation

section Forecasts

variable {request : SpaceRequest} {allocator : Allocator} {ledger : List Holding}
  {shelves : Shelves}

/-- A flat space serves every request for any class. -/
theorem classFor_of_flat (flat : allocator.space.directoryOrder = none) (wanted : PageClass) :
    allocator.space.classFor wanted = .any := by
  unfold Space.classFor
  rw [flat]
  rfl

/-- A failure is the foretold one, or the call was foretold an answer and a total of bytes is too
large. -/
def Foretold (forecast : Except Failure (Nat × Shelves)) (failure : Failure) : Prop :=
  forecast = .error failure ∨
    failure = .aborted .overflow ∧ ∃ outcome, forecast = .ok outcome

/-- In a flat space an ordinary request is answered as the shelves foretell. -/
theorem foretold_allocate (settled : allocator.Settled []) (merged : Merged allocator.arena.outline)
    (flat : allocator.space.directoryOrder = none) (shelved : allocator.arena.Shelved shelves)
    (len : Nat) (wanted : PageClass) :
    (allocate len wanted).Yields allocator
      (fun address after => ∃ rest, shelves.allocate allocator.space len = .ok (address, rest) ∧
        after.arena.Shelved rest)
      (fun failure _ => Foretold (shelves.allocate allocator.space len) failure) := by
  unfold allocate Shelves.allocate
  simp only [yields_bind, yields_get]
  split
  · exact .inl rfl
  split
  · exact .inl rfl
  obtain ⟨result, searched, first⟩ :=
    shelves_findFree settled shelved (allocator.space.orderOf len)
  simp only [yields_bind, yields_get]
  rw [classFor_of_flat flat, searched, yields_lift_ok, ← first]
  cases result with
  | none => exact .inl rfl
  | some entry =>
    obtain ⟨id, block⟩ := entry
    obtain ⟨larger, under, listed⟩ := findFree_eq_ok settled.tiled searched
    have drawn := Arena.outline_of_block? under
    have drawn_listed : block.outline.isListed = true := by rwa [Block.isListed_outline]
    have large : allocator.space.orderOf len ≤ block.outline.order := by
      rwa [Block.outline_order]
    have handed := shelves_handOut settled merged flat shelved drawn drawn_listed large
    rw [Block.outline_order, Block.outline_position, Block.outline_tile] at handed
    refine yields_handOut_bind.mpr ?_
    rw [yields_bind]
    refine ((settles_handOut settled merged drawn drawn_listed
      (Nat.le_trans (Nat.sub_le _ _) (Nat.le_of_eq (Block.outline_order block).symm))).and
        (handed .any)).mono ?_ ?_
    · rintro part third ⟨⟨settled_third, books, -⟩, ⟨held, at_third, position⟩, rest, cut,
        shelved_third⟩
      have answered : (match shelves.cut block.tile.position (allocator.space.orderOf len)
          block.tile with
        | none => .error (.aborted (.block .arenaFull))
        | some rest => .ok (allocator.space.address block.tile.position, rest) :
          Except Failure (Nat × Shelves)) = .ok (allocator.space.address block.position, rest) := by
        rw [Block.tile_position, cut]
      simp only [yields_bind, yields_modify, yields_block_of at_third, Option.map_some]
      rw [position, answered]
      refine settles_account (fun _ _ => ?_) fun _ _ => .inr ⟨rfl, _, rfl⟩
      exact ⟨rest, rfl, shelved_third⟩
    · rintro failure after ⟨crowded, cut⟩
      refine .inl ?_
      rw [Option.map_some]
      dsimp only
      rw [Block.tile_position, cut, crowded.1]

/-- Whether a range meets a held one can be told from what the holdings are about. -/
theorem meets_iff (kept : allocator.Kept request ledger) (base len : Nat) :
    Shelves.meets allocator.space ledger base len = true ↔ allocator.Taken ledger base len := by
  unfold Shelves.meets Taken
  rw [List.any_eq_true]
  refine exists_congr fun holding => and_congr_right fun mem => ?_
  rw [kept.stopOf_eq mem, Bool.and_eq_true, decide_eq_true_iff, decide_eq_true_iff]

/-- In a flat space a fixed request is answered as the shelves and the held ranges foretell. -/
theorem foretold_allocateFixed (kept : allocator.Kept request ledger)
    (tended : allocator.Tended ledger) (flat : allocator.space.directoryOrder = none)
    (shelved : allocator.arena.Shelved shelves) (base len : Nat) (wanted : PageClass) :
    (allocateFixed base len wanted).Yields allocator
      (fun answer after => ∃ rest,
        shelves.allocateFixed allocator.space ledger base len = .ok (answer, rest) ∧
        after.arena.Shelved rest)
      (fun failure _ =>
        Foretold (shelves.allocateFixed allocator.space ledger base len) failure) := by
  obtain ⟨busy, checked, busy_iff⟩ := exists_overlaps kept tended base len
  have met : Shelves.meets allocator.space ledger base len = busy :=
    Bool.eq_iff_iff.mpr ((meets_iff kept base len).trans busy_iff.symm)
  unfold allocateFixed Shelves.allocateFixed
  simp only [yields_bind, yields_get]
  split
  · exact .inl rfl
  rename_i accepted
  have placeable : placeable allocator.space base len = true := by simpa using accepted
  simp only [yields_bind, yields_get]
  rw [checked, yields_lift_ok, met]
  split
  · exact .inl rfl
  rename_i idle
  have free : ¬ allocator.Taken ledger base len := mt busy_iff.mpr idle
  have untaken := (untaken_iff kept tended placeable).mpr free
  have served := (served_iff kept placeable .any).mpr fun ⟨directory, _⟩ => by
    rw [flat] at directory
    cases directory
  rw [classFor_of_flat flat] at served ⊢
  simp only [yields_bind, yields_modify]
  refine ((settles_claimAll tended.settled tended.merged rfl
    (Space.le_units_of_placeable (Space.start_mod_blockSize kept.space) placeable) List.nodup_nil
      fun _ mem => absurd mem List.not_mem_nil).and (shelves_claimAll tended.settled tended.merged
        flat shelved (fun tile mem => (of_mem_tiling mem).2.2.1) [])).mono ?_ ?_
  · rintro ids after ⟨-, rest, claimed, shelved_after⟩
    unfold Space.rangeTiles
    rw [claimed]
    refine settles_account (fun _ _ => ?_) fun _ _ => .inr ⟨rfl, _, rfl⟩
    exact ⟨rest, rfl, shelved_after⟩
  · rintro failure after ⟨crowded | ⟨-, -, -, -, -, not_served⟩, stuck⟩
    · unfold Space.rangeTiles
      rw [stuck, crowded.1]
      exact .inl rfl
    · exact absurd served (not_served untaken)

/-- In a flat space blocks that come back one after another are given back to the shelves. -/
theorem shelves_forM_release {hand : List BlockId} (settled : allocator.Settled hand)
    (merged : Merged allocator.arena.outline) (flat : allocator.space.directoryOrder = none)
    (shelved : allocator.arena.Shelved shelves) {tiles : List Tile} {ids : List BlockId}
    (placed : List.Forall₂ allocator.Placed tiles ids) (nodup : ids.Nodup) :
    (ids.forM release).Yields allocator
      (fun _ after => after.arena.Shelved
        (tiles.foldl (fun shelves tile => shelves.release allocator.space tile) shelves))
      (fun _ _ => False) := by
  induction ids generalizing allocator shelves tiles with
  | nil =>
    obtain rfl := List.forall₂_nil_right_iff.mp placed
    exact shelved
  | cons id ids ih =>
    obtain ⟨fresh, rest_nodup⟩ := List.nodup_cons.mp nodup
    obtain ⟨tile, rest, ⟨block, found, allocated, position, order⟩, places, rfl⟩ :=
      List.forall₂_cons_right_iff.mp placed
    have there : block.tile = tile := by
      unfold Block.tile
      rw [position, order]
    rw [List.forM, yields_bind, List.foldl_cons]
    refine ((settles_release settled merged ⟨found, allocated⟩).and
      (shelves_release settled flat shelved merged ⟨found, allocated⟩)).mono ?_
        fun _ _ failed => failed.1.elim
    rintro _ middle ⟨⟨settled_middle, books, merged_middle, handed⟩, shelved_middle⟩
    have still : List.Forall₂ middle.Placed rest ids := by
      refine paired_of_mem places fun other held mem => ?_
      rintro ⟨block, at_held, in_use, place⟩
      have apart : held ≠ id := fun same => fresh (same ▸ mem)
      obtain ⟨now, -⟩ := (handed held block).mpr ⟨apart, at_held, in_use⟩
      exact ⟨block, now, in_use, place⟩
    rw [there] at shelved_middle
    have goes_on := ih settled_middle merged_middle (books.space ▸ flat) shelved_middle still
      rest_nodup
    rwa [books.space] at goes_on

/-- A holding is found by where it starts. -/
theorem Kept.find?_eq (kept : allocator.Kept request ledger) {holding : Holding}
    (mem : holding ∈ ledger) : ledger.find? (·.start = holding.start) = some holding := by
  cases found : ledger.find? (·.start = holding.start) with
  | none =>
    have missing := List.find?_eq_none.mp found holding mem
    simp at missing
  | some other =>
    have same : other.start = holding.start := by simpa using List.find?_some found
    rw [kept.eq_of_start (List.mem_of_find?_eq_some found) mem same]

/-- The tile that is handed out for an ordinary holding is that of its block. -/
theorem Kept.exists_block_of_record (kept : allocator.Kept request ledger) {address len : Nat}
    (mem : Holding.ordinary address len ∈ ledger) {id : BlockId}
    (record : allocator.ordinary.find? address = some id) :
    ∃ block, HandedOut allocator.arena.outline id block ∧
      allocator.space.tilesOf (.ordinary address len) = [block.tile] := by
  obtain ⟨held, block, present, at_id, allocated, start, -, least⟩ := kept.block_of_ordinary mem
  obtain rfl : id = held := Option.some.inj (record.symm.trans present)
  refine ⟨block, ⟨at_id, allocated⟩, ?_⟩
  unfold Space.tilesOf Block.tile
  dsimp only
  rw [start, Space.position_address, Space.orderOf_eq least]

/-- Without a record at an address no holding is found there. -/
theorem Kept.find?_of_no_record (kept : allocator.Kept request ledger) {address : Nat}
    (absent : allocator.ordinary.find? address = none)
    (missing : allocator.fixed.find? address = none) :
    ledger.find? (·.start = address) = none := by
  rw [List.find?_eq_none]
  intro holding mem starts
  rw [← kept.filter_of_no_record absent missing] at mem
  obtain ⟨-, elsewhere⟩ := List.mem_filter.mp mem
  exact (bne_iff_ne.mp elsewhere) (of_decide_eq_true starts)

/-- In a flat space a release leaves the shelves as the held ranges foretell. -/
theorem foretold_free (ready : allocator.Ready request ledger)
    (flat : allocator.space.directoryOrder = none) (shelved : allocator.arena.Shelved shelves)
    (address : Nat) :
    (free address).Yields allocator
      (fun _ after => after.arena.Shelved (shelves.giveBack allocator.space ledger address))
      (fun _ _ => True) := by
  obtain ⟨kept, tended, -⟩ := ready
  unfold free Shelves.giveBack
  simp only [yields_bind, yields_get]
  split
  · rename_i id found
    obtain ⟨len, mem⟩ := tended.exists_ordinary found
    obtain ⟨block, ⟨at_id, allocated⟩, tiles⟩ := kept.exists_block_of_record mem found
    have unlisted : block.isListed = false := Block.isListed_of_allocated allocated
    have under : ({ allocator with ordinary := allocator.ordinary.erase address } :
        Allocator).arena.block? id = some block := Arena.block?_of_unlisted_outline at_id unlisted
    have there : ledger.find? (·.start = address) = some (.ordinary address len) :=
      kept.find?_eq mem
    rw [there]
    dsimp only
    rw [tiles]
    simp only [yields_bind, yields_set, yields_block_of under]
    refine settles_accountFreed ?_ fun _ _ => trivial
    exact shelves_release (tended.settled.withBooks ..) flat shelved tended.merged
      ⟨at_id, allocated⟩
  · rename_i absent
    split
    · rename_i range found
      obtain ⟨len, mem⟩ := tended.exists_fixed found
      obtain ⟨same, present, rfl⟩ := kept.live _ mem
      obtain rfl : range = same := Option.some.inj (found.symm.trans present)
      obtain ⟨-, placed⟩ := kept.recorded.fixed found
      have there : ledger.find? (·.start = address) = some (.fixed address range.len) :=
        kept.find?_eq mem
      rw [there]
      simp only [yields_bind, yields_set]
      refine settles_accountFreed ?_ fun _ _ => trivial
      have struck := tended.settled.withBooks allocator.ordinary (allocator.fixed.erase address)
        allocator.requested allocator.reserved (allocator.freed + range.len)
      exact (shelves_forM_release struck tended.merged flat shelved placed
        (nodup_of_placed placed)).mono (fun _ _ => id) fun _ _ => False.elim
    · rename_i missing
      rw [kept.find?_of_no_record absent missing]
      exact shelved

end Forecasts

end Allocator

end GpuSched.Buddy
