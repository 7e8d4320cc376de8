import GpuSched.Proofs.Runlist.Entry
import GpuSched.Proofs.Scheduler.ActiveSet

/-!
# The list of what is active

`listing` is the list of a runlist as it should be: the active channels without a group by ascending
number, then for each active group by ascending number a header with the number of its active
members, followed by these in the order in which they joined. In a sound scheduler the list that an
update writes is this one, it fits in the spare buffer, and it is read back from there as it is.
-/
namespace GpuSched

open Operation

namespace Scheduler

variable {exact : Prop} {scheduler : Scheduler} {id runlistId groupId : Nat}
  {channel : Channel} {group : Group} {runlist : Runlist}

/-- Whether a channel belongs to no group. -/
def ungrouped (scheduler : Scheduler) (id : Nat) : Bool :=
  match scheduler.channels[id]? with
  | some channel => channel.group.isNone
  | none => false

/-- The active channels without a group, ascending. -/
def loneChannels (scheduler : Scheduler) (runlistId : Nat) : List Nat :=
  (List.range scheduler.channels.size).filter fun id =>
    scheduler.activeOn runlistId id && scheduler.ungrouped id

/-- The active groups, ascending. -/
def activeGroupIds (scheduler : Scheduler) (runlistId : Nat) : List Nat :=
  (List.range scheduler.groups.size).filter (scheduler.groupActiveOn runlistId)

/-- The active members of a group, in the order in which they joined. -/
def activeMembers (scheduler : Scheduler) (runlistId groupId : Nat) : List Nat :=
  (scheduler.targetChannels (.group groupId)).filter (scheduler.activeOn runlistId)

/-- The timeslice of a group. -/
def groupTimeslice (scheduler : Scheduler) (groupId : Nat) : Timeslice :=
  match scheduler.groups[groupId]? with
  | some group => group.timeslice
  | none => {}

/-- The entry of a channel. -/
def channelEntry (id : Nat) : RunlistEntry := .channel (UInt32.ofNat id)

/-- The header of an active group and its active members. -/
def groupListing (scheduler : Scheduler) (runlistId groupId : Nat) : List RunlistEntry :=
  .group (UInt32.ofNat groupId) (UInt32.ofNat (scheduler.activeMembers runlistId groupId).length)
      (scheduler.groupTimeslice groupId) ::
    (scheduler.activeMembers runlistId groupId).map channelEntry

/-- The list of what is active on a runlist. -/
def listing (scheduler : Scheduler) (runlistId : Nat) : List RunlistEntry :=
  (scheduler.loneChannels runlistId).map channelEntry ++
    (scheduler.activeGroupIds runlistId).flatMap (scheduler.groupListing runlistId)

/-- The channels of the list in their order. -/
def listedIds (scheduler : Scheduler) (runlistId : Nat) : List Nat :=
  scheduler.loneChannels runlistId ++
    (scheduler.activeGroupIds runlistId).flatMap (scheduler.activeMembers runlistId)

/-- Collecting the entries of the channels without a group. -/
theorem foldr_ungrouped (ids : List Nat) :
    ids.foldr (fun id entries =>
      if scheduler.ungrouped id then channelEntry id :: entries else entries) [] =
      (ids.filter scheduler.ungrouped).map channelEntry := by
  induction ids with
  | nil => rfl
  | cons id rest ih =>
    rw [List.foldr_cons, ih, List.filter_cons]
    cases scheduler.ungrouped id <;> rfl

/-- The computed entries of channels. -/
theorem channelEntries_eq (sound : scheduler.Sound exact)
    (listed : scheduler.runlists.find? runlistId = some runlist) :
    scheduler.channelEntries runlist =
      .ok ((scheduler.loneChannels runlistId).map channelEntry) := by
  have fits := sound.shaped.runlist listed
  have ones : runlist.activeChannels.ones =
      (List.range scheduler.channels.size).filter (scheduler.activeOn runlistId) := by
    rw [fits.channelsBounded.ones_eq, fits.channelSize, sound.shaped.channels]
    refine List.filter_congr fun id _ => ?_
    unfold activeOn
    rw [listed]
  unfold channelEntries
  rw [foldrM_eq_pure fun id entries =>
    if scheduler.ungrouped id then channelEntry id :: entries else entries]
  · rw [foldr_ungrouped, ones, List.filter_filter]
    unfold loneChannels
    simp only [Bool.and_comm]
    rfl
  · intro id isOne entries
    rw [ones, List.mem_filter, List.mem_range] at isOne
    have found := Array.getElem?_eq_getElem isOne.1
    have lone : scheduler.ungrouped id = (scheduler.channels[id]).group.isNone := by
      unfold ungrouped
      rw [found]
    rw [found, lone]
    rfl

/-- The computed entries of a group. -/
theorem groupEntries_eq (sound : scheduler.Sound exact)
    (listed : scheduler.runlists.find? runlistId = some runlist)
    (found : scheduler.groups[groupId]? = some group) :
    scheduler.groupEntries runlist groupId = .ok (scheduler.groupListing runlistId groupId) := by
  have fits := sound.shaped.runlist listed
  have tests : ∀ id ∈ group.members, runlist.activeChannels.test id =
      pure (scheduler.activeOn runlistId id) := by
    intro id isMember
    have roster := roster_of_found found
    obtain ⟨seat, holds, _⟩ := sound.consistent.member roster isMember
    obtain ⟨channel, inTable, _⟩ := Option.map_eq_some_iff.mp holds
    rw [Bitmap.test_of_lt (by rw [fits.channelSize]; exact sound.shaped.channel_lt inTable)]
    unfold activeOn
    rw [listed]
    rfl
  have members : scheduler.activeMembers runlistId groupId =
      group.members.filter (scheduler.activeOn runlistId) := by
    unfold activeMembers targetChannels
    dsimp only
    rw [found]
    rfl
  have timeslice : scheduler.groupTimeslice groupId = group.timeslice := by
    unfold groupTimeslice
    rw [found]
  unfold groupEntries groupListing
  rw [found]
  dsimp only
  rw [filterM_eq_pure tests, members, timeslice]
  rfl

/-- The computed list is the one that it should be. -/
theorem activeEntries_eq (sound : scheduler.Sound exact)
    (listed : scheduler.runlists.find? runlistId = some runlist) :
    scheduler.activeEntries runlist = .ok (scheduler.listing runlistId) := by
  have fits := sound.shaped.runlist listed
  have ones : runlist.activeGroups.ones = scheduler.activeGroupIds runlistId := by
    rw [fits.groupsBounded.ones_eq, fits.groupSize, ← sound.shaped.groups]
    refine List.filter_congr fun id _ => ?_
    unfold groupActiveOn
    rw [listed]
  have groups : ∀ id ∈ runlist.activeGroups.ones, scheduler.groupEntries runlist id =
      pure (scheduler.groupListing runlistId id) := by
    intro id isOne
    rw [ones, activeGroupIds, List.mem_filter, List.mem_range] at isOne
    exact groupEntries_eq sound listed (Array.getElem?_eq_getElem isOne.1)
  unfold activeEntries
  rw [channelEntries_eq sound listed, mapM_eq_pure groups, ones]
  unfold listing
  rw [List.flatMap_def]
  rfl

/-- A listed channel is active. -/
theorem active_of_mem_listedIds (mem : id ∈ scheduler.listedIds runlistId) :
    scheduler.activeOn runlistId id = true := by
  unfold listedIds at mem
  rcases List.mem_append.mp mem with lone | grouped
  · have active := List.of_mem_filter lone
    rw [Bool.and_eq_true] at active
    exact active.1
  · obtain ⟨groupId, _, isMember⟩ := List.mem_flatMap.mp grouped
    exact List.of_mem_filter isMember

/-- A member of a group that is listed belongs to the group. -/
theorem group_of_mem_activeMembers (sound : scheduler.Sound exact)
    (mem : id ∈ scheduler.activeMembers runlistId groupId) :
    ∃ channel, scheduler.channels[id]? = some channel ∧ channel.group = some groupId := by
  have isMember := List.mem_of_mem_filter mem
  unfold targetChannels at isMember
  dsimp only at isMember
  cases found : scheduler.groups[groupId]? with
  | none =>
    rw [found] at isMember
    cases isMember
  | some group =>
    rw [found] at isMember
    have roster := roster_of_found found
    obtain ⟨seat, holds, belongs⟩ := sound.consistent.member roster isMember
    obtain ⟨channel, inTable, rfl⟩ := Option.map_eq_some_iff.mp holds
    exact ⟨channel, inTable, belongs⟩

/-- No member of a group is listed twice. -/
theorem nodup_activeMembers (sound : scheduler.Sound exact) (groupId : Nat) :
    (scheduler.activeMembers runlistId groupId).Nodup := by
  refine List.Nodup.filter _ ?_
  unfold targetChannels
  dsimp only
  cases found : scheduler.groups[groupId]? with
  | none => exact List.nodup_nil
  | some group =>
    have roster := roster_of_found found
    exact sound.consistent.nodup roster

/-- No channel is listed twice. -/
theorem nodup_listedIds (sound : scheduler.Sound exact) :
    (scheduler.listedIds runlistId).Nodup := by
  unfold listedIds
  rw [List.nodup_append']
  refine ⟨List.nodup_range.filter _, ?_, ?_⟩
  · rw [List.nodup_flatMap]
    refine ⟨fun groupId _ => nodup_activeMembers sound groupId, ?_⟩
    have apart : (scheduler.activeGroupIds runlistId).Nodup := List.nodup_range.filter _
    refine apart.imp fun {one two} differ => ?_
    intro id inOne inTwo
    obtain ⟨channel, found, first⟩ := group_of_mem_activeMembers sound inOne
    obtain ⟨other, same, second⟩ := group_of_mem_activeMembers sound inTwo
    rw [found, Option.some.injEq] at same
    rw [← same, first, Option.some.injEq] at second
    exact differ second
  · intro id lone grouped
    have alone := List.of_mem_filter lone
    rw [Bool.and_eq_true] at alone
    obtain ⟨groupId, _, isMember⟩ := List.mem_flatMap.mp grouped
    obtain ⟨channel, found, belongs⟩ := group_of_mem_activeMembers sound isMember
    have ungrouped := alone.2
    unfold Scheduler.ungrouped at ungrouped
    rw [found] at ungrouped
    simp [belongs] at ungrouped

/-- An active channel is there. -/
theorem lt_of_active (sound : scheduler.Sound exact)
    (active : scheduler.activeOn runlistId id = true) : id < scheduler.channels.size := by
  obtain ⟨seat, holds, _⟩ := sound.consistent.running active
  obtain ⟨channel, inTable, _⟩ := Option.map_eq_some_iff.mp holds
  exact (Array.getElem?_eq_some_iff.mp inTable).1

/-- Where groups are counted, every active channel is listed. -/
theorem mem_listedIds (sound : scheduler.Sound True) :
    id ∈ scheduler.listedIds runlistId ↔ scheduler.activeOn runlistId id = true := by
  refine ⟨active_of_mem_listedIds, fun active => ?_⟩
  obtain ⟨seat, holds, here, _⟩ := sound.consistent.running active
  obtain ⟨channel, inTable, rfl⟩ := Option.map_eq_some_iff.mp holds
  have there := List.mem_range.mpr (lt_of_active sound active)
  unfold listedIds
  rw [List.mem_append]
  cases belongs : channel.group with
  | none =>
    left
    refine List.mem_filter.mpr ⟨there, ?_⟩
    have alone : scheduler.ungrouped id = true := by
      unfold ungrouped
      rw [inTable]
      simp [belongs]
    rw [active, alone]
    rfl
  | some groupId =>
    right
    obtain ⟨roster, found, _, isMember, together⟩ := sound.consistent.grouped holds belongs
    obtain ⟨group, inGroups, rfl⟩ := Option.map_eq_some_iff.mp found
    have counter := (sound.counted trivial).counter found
    have counts : 0 < group.roster.active.toNat := by
      rw [counter, List.countP_pos_iff]
      refine ⟨id, isMember, ?_⟩
      rw [together, here]
      exact active
    have bit := (sound.counted trivial).bit.mpr ⟨_, found, together.trans here, counts⟩
    refine List.mem_flatMap.mpr ⟨groupId, List.mem_filter.mpr ⟨List.mem_range.mpr ?_, bit⟩, ?_⟩
    · exact (Array.getElem?_eq_some_iff.mp inGroups).1
    · refine List.mem_filter.mpr ⟨?_, active⟩
      unfold targetChannels
      dsimp only
      rw [inGroups]
      exact isMember

/-- The list has an entry for each listed channel and for each active group. -/
theorem length_listing (scheduler : Scheduler) (runlistId : Nat) :
    (scheduler.listing runlistId).length =
      (scheduler.listedIds runlistId).length + (scheduler.activeGroupIds runlistId).length := by
  unfold listing listedIds
  rw [List.length_append, List.length_append, List.length_map]
  induction scheduler.activeGroupIds runlistId with
  | nil => rfl
  | cons groupId rest ih =>
    rw [List.flatMap_cons, List.flatMap_cons, List.length_append, List.length_append,
      List.length_cons, groupListing, List.length_cons, List.length_map]
    omega

/-- The list has no more entries than there are channels and groups. -/
theorem length_listing_le (sound : scheduler.Sound exact) :
    (scheduler.listing runlistId).length ≤
      scheduler.config.channelCount + scheduler.config.groupCount := by
  have channels : (scheduler.listedIds runlistId).length ≤ scheduler.channels.size := by
    have within : scheduler.listedIds runlistId ⊆ List.range scheduler.channels.size :=
      fun id mem => List.mem_range.mpr (lt_of_active sound (active_of_mem_listedIds mem))
    have short := (List.subperm_of_subset (nodup_listedIds sound) within).length_le
    rwa [List.length_range] at short
  have groups : (scheduler.activeGroupIds runlistId).length ≤ scheduler.groups.size := by
    have short := List.length_filter_le (scheduler.groupActiveOn runlistId)
      (List.range scheduler.groups.size)
    rwa [List.length_range] at short
  rw [length_listing, ← sound.shaped.channels, ← sound.shaped.groups]
  omega

/-- The numbers in the list have a place in its words. -/
theorem id_lt_of_mem_listing (sound : scheduler.Sound exact) {entry : RunlistEntry}
    (mem : entry ∈ scheduler.listing runlistId) : entry.id.toNat < 4096 := by
  obtain ⟨channels, groups, _⟩ := Config.fits_of_fault sound.shaped.accepted
  rw [← sound.shaped.channels] at channels
  rw [← sound.shaped.groups] at groups
  have small : ∀ {id}, id < 4096 → (UInt32.ofNat id).toNat < 4096 := by
    intro id below
    rw [UInt32.toNat_ofNat_of_lt' (by change id < 2 ^ 32; omega)]
    exact below
  have ofChannel : ∀ {id}, id ∈ scheduler.listedIds runlistId →
      (channelEntry id).id.toNat < 4096 := by
    intro id listed
    have there := lt_of_active sound (active_of_mem_listedIds listed)
    exact small (by omega)
  rcases List.mem_append.mp mem with lone | grouped
  · obtain ⟨id, isLone, rfl⟩ := List.mem_map.mp lone
    exact ofChannel (List.mem_append_left _ isLone)
  · obtain ⟨groupId, isActive, isEntry⟩ := List.mem_flatMap.mp grouped
    rcases List.mem_cons.mp isEntry with rfl | isMember
    · have there := List.mem_range.mp (List.mem_of_mem_filter isActive)
      exact small (by omega)
    · obtain ⟨id, isListed, rfl⟩ := List.mem_map.mp isMember
      exact ofChannel (List.mem_append_right _ (List.mem_flatMap.mpr ⟨groupId, isActive, isListed⟩))

/-- The entries of channels name the listed channels in their order. -/
theorem filterMap_listing (sound : scheduler.Sound exact) :
    (scheduler.listing runlistId).filterMap RunlistEntry.channelId? =
      scheduler.listedIds runlistId := by
  have names : ∀ ids : List Nat, (∀ id ∈ ids, id < 4096) →
      (ids.map channelEntry).filterMap RunlistEntry.channelId? = ids := by
    intro ids small
    rw [List.filterMap_map]
    refine Eq.trans (List.filterMap_congr fun id mem => ?_) List.filterMap_some
    have below := small id mem
    change some (UInt32.ofNat id).toNat = some id
    rw [UInt32.toNat_ofNat_of_lt' (by change id < 2 ^ 32; omega)]
  have channels := (Config.fits_of_fault sound.shaped.accepted).1
  rw [← sound.shaped.channels] at channels
  have small : ∀ id ∈ scheduler.listedIds runlistId, id < 4096 := fun id mem =>
    Nat.lt_of_lt_of_le (lt_of_active sound (active_of_mem_listedIds mem)) channels
  unfold listing listedIds at *
  rw [List.filterMap_append, names _ fun id mem => small id (List.mem_append_left _ mem)]
  congr 1
  rw [List.filterMap_flatMap]
  refine List.flatMap_congr fun groupId isActive => ?_
  unfold groupListing
  rw [List.filterMap_cons_none rfl]
  refine names _ fun id mem => small id (List.mem_append_right _ ?_)
  exact List.mem_flatMap.mpr ⟨groupId, isActive, mem⟩

/-- A word inside of a buffer can be written, and the others stay. -/
theorem write_of_lt {buffer : DmaBuffer} {index : Nat} (value : UInt32)
    (inside : index < buffer.wordCount) :
    ∃ written, buffer.write index value = .ok written ∧ written.size = buffer.size ∧
      written.physical = buffer.physical ∧
      ∀ other, written.word other = if other = index then value else buffer.word other := by
  unfold DmaBuffer.write
  rw [if_pos inside]
  refine ⟨_, rfl, rfl, rfl, fun other => ?_⟩
  unfold DmaBuffer.word
  rw [Table.find?_insert]
  split <;> rfl

/-- Entries can be written where there is room for them, and they stand there afterwards. -/
theorem writeEntries_eq {buffer : DmaBuffer} {index : Nat} {entries : List RunlistEntry}
    (room : 2 * (index + entries.length) ≤ buffer.wordCount) :
    ∃ written, writeEntries buffer index entries = .ok written ∧
      written.size = buffer.size ∧ written.physical = buffer.physical ∧
      (∀ other, other < 2 * index → written.word other = buffer.word other) ∧
      ∀ place entry, entries[place]? = some entry →
        written.word (2 * (index + place)) = entry.encode.first ∧
          written.word (2 * (index + place) + 1) = entry.encode.second := by
  induction entries generalizing buffer index with
  | nil => exact ⟨buffer, rfl, rfl, rfl, fun _ _ => rfl, by simp⟩
  | cons entry rest ih =>
    rw [List.length_cons] at room
    have inside : 2 * index < buffer.wordCount := by omega
    obtain ⟨one, writeOne, sizeOne, physicalOne, wordOne⟩ :=
      write_of_lt entry.encode.first inside
    have countOne : one.wordCount = buffer.wordCount := congrArg (· / 4) sizeOne
    have insideOne : 2 * index + 1 < one.wordCount := by omega
    obtain ⟨two, writeTwo, sizeTwo, physicalTwo, wordTwo⟩ :=
      write_of_lt entry.encode.second insideOne
    have countTwo : two.wordCount = one.wordCount := congrArg (· / 4) sizeTwo
    have roomTwo : 2 * (index + 1 + rest.length) ≤ two.wordCount := by omega
    obtain ⟨written, writes, size, physical, before, after⟩ := ih roomTwo
    refine ⟨written, ?_, ?_, ?_, fun other early => ?_, fun place held holds => ?_⟩
    · simp only [writeEntries, writeOne, writeTwo, bind, Except.bind]
      exact writes
    · rw [size, sizeTwo, sizeOne]
    · rw [physical, physicalTwo, physicalOne]
    · rw [before other (by omega), wordTwo, if_neg (by omega), wordOne, if_neg (by omega)]
    · cases place with
      | zero =>
        rw [List.getElem?_cons_zero, Option.some.injEq] at holds
        rw [← holds, Nat.add_zero, before _ (by omega), before _ (by omega), wordTwo, wordTwo,
          wordOne, if_neg (by omega), if_pos rfl, if_pos rfl]
        exact ⟨rfl, rfl⟩
      | succ place =>
        rw [List.getElem?_cons_succ] at holds
        have later := after place held holds
        rwa [show index + 1 + place = index + (place + 1) by omega] at later

/-- Entries are read where there are words for them. -/
theorem readEntries_eq {buffer : DmaBuffer} {count : Nat}
    (inside : 2 * count ≤ buffer.wordCount) :
    readEntries buffer count = .ok ((List.range count).map fun index =>
      .decode ⟨buffer.word (2 * index), buffer.word (2 * index + 1)⟩) := by
  unfold readEntries
  refine mapM_eq_pure fun index mem => ?_
  have below := List.mem_range.mp mem
  unfold DmaBuffer.read
  rw [if_pos (by omega), if_pos (by omega)]
  rfl

/-- Entries that fit are read back as they are stored. -/
theorem readEntries_writeEntries {buffer : DmaBuffer} {entries : List RunlistEntry}
    (room : 2 * entries.length ≤ buffer.wordCount)
    (fits : ∀ entry ∈ entries, entry.id.toNat < 4096) :
    ∃ written, writeEntries buffer 0 entries = .ok written ∧ written.size = buffer.size ∧
      written.physical = buffer.physical ∧
      readEntries written entries.length = .ok (entries.map RunlistEntry.stored) := by
  have roomAtStart : 2 * (0 + entries.length) ≤ buffer.wordCount := by omega
  obtain ⟨written, writes, size, physical, _, stands⟩ := writeEntries_eq roomAtStart
  have count : written.wordCount = buffer.wordCount := congrArg (· / 4) size
  refine ⟨written, writes, size, physical, ?_⟩
  rw [readEntries_eq (by omega)]
  congr 1
  refine List.ext_getElem? fun place => ?_
  rw [List.getElem?_map, List.getElem?_map]
  cases holds : entries[place]? with
  | none =>
    have past := List.getElem?_eq_none_iff.mp holds
    rw [List.getElem?_eq_none (by rwa [List.length_range])]
    rfl
  | some entry =>
    obtain ⟨there, _⟩ := List.getElem?_eq_some_iff.mp holds
    obtain ⟨first, second⟩ := stands place entry holds
    rw [Nat.zero_add] at first second
    rw [List.getElem?_range there, Option.map_some, Option.map_some, first, second]
    exact congrArg some (RunlistEntry.decode_encode (fits entry (List.mem_of_getElem? holds)))

/-- In a sound scheduler the list of a runlist that is there is written into its spare buffer. -/
theorem yields_writeList (sound : scheduler.Sound exact)
    (listed : scheduler.runlists.find? runlistId = some runlist) :
    (writeList runlistId).Yields scheduler
      (fun count after => count = (scheduler.listing runlistId).length ∧
        ∃ spare : DmaBuffer, spare.size = runlist.spare.size ∧
          spare.physical = runlist.spare.physical ∧
          readEntries spare count =
            .ok ((scheduler.listing runlistId).map RunlistEntry.stored) ∧
          after = { scheduler with
            runlists := scheduler.runlists.insert runlistId { runlist with spare } })
      fun _ _ => False := by
  have fits := sound.shaped.runlist listed
  have short : (scheduler.listing runlistId).length ≤ _ := length_listing_le sound
  have room : 2 * (scheduler.listing runlistId).length ≤ runlist.spare.wordCount := by
    have enough := fits.spareRoom
    omega
  obtain ⟨spare, writes, size, physical, reads⟩ :=
    readEntries_writeEntries room fun entry mem => id_lt_of_mem_listing sound mem
  unfold writeList putRunlist
  rw [yields_bind, yields_runlist_found listed]
  simp only [yields_bind, yields_get]
  rw [activeEntries_eq sound listed, yields_lift_ok, writes, yields_lift_ok]
  exact ⟨rfl, spare, size, physical, reads, rfl⟩

end Scheduler

end GpuSched
