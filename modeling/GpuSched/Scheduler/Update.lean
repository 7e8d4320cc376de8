import GpuSched.Scheduler.Fault

/-!
# Runlist updates

An update changes the active set of a runlist, writes the list of what is active into the spare
buffer and hands it to the hardware. The list holds the active channels without a group by
ascending number, then each active group by ascending number, as a header that is followed by its
active members in the order in which they joined. When the hardware does not pick the list up in
time, the engines of the runlist are recovered and the wait is repeated once.
-/
namespace GpuSched.Scheduler

/-- Change the bit of a group when its first member becomes active or its last one leaves. -/
def countActive (runlistId groupId : Nat) (add : Bool) : Operation Scheduler Unit := do
  let group ← groupAt groupId
  changeGroup groupId
    ({ · with active := if add then group.active + 1 else group.active - 1 })
  if group.active = (if add then 0 else 1) then
    let runlist ← runlist runlistId
    let (_, activeGroups) ←
      if add then runlist.activeGroups.testAndSet groupId
      else runlist.activeGroups.testAndClear groupId
    putRunlist runlistId { runlist with activeGroups }

/-- Put a channel into the active set of a runlist or take it out. The answer is whether that
changed anything. -/
def setActive (runlistId id : Nat) (add : Bool) : Operation Scheduler Bool := do
  let channel ← channel id
  if channel.runlist ≠ runlistId && channel.state ≠ .free then
    conflict (.otherRunlist id channel.runlist runlistId)
  if add then
    match channel.state with
    | .free => Operation.refuse (.invalidChannel id)
    | .faulted => Operation.refuse (.channelFaulted id)
    | .bound | .active => pure ()
  let runlist ← runlist runlistId
  let (before, activeChannels) ←
    if add then runlist.activeChannels.testAndSet id
    else runlist.activeChannels.testAndClear id
  if before = add then
    return false
  putRunlist runlistId { runlist with activeChannels }
  changeChannel id fun channel =>
    if add then { channel with state := .active }
    else if channel.state = .active then { channel with state := .bound }
    else channel
  if let some group := channel.group then
    countActive runlistId group add
  return true

/-- The entries of active channels without a group. -/
def channelEntries (scheduler : Scheduler) (runlist : Runlist) :
    Except Failure (List RunlistEntry) :=
  runlist.activeChannels.ones.foldrM (fun id entries => do
    match scheduler.channels[id]? with
    | none => throw (.aborted (.missingEntry id))
    | some channel =>
        return if channel.group.isNone then .channel (UInt32.ofNat id) :: entries else entries) []

/-- The header of an active group and its active members. -/
def groupEntries (scheduler : Scheduler) (runlist : Runlist) (id : Nat) :
    Except Failure (List RunlistEntry) := do
  match scheduler.groups[id]? with
  | none => throw (.aborted (.missingEntry id))
  | some group =>
      let members ← group.members.filterM runlist.activeChannels.test
      return .group (UInt32.ofNat id) (UInt32.ofNat members.length) group.timeslice ::
        members.map fun member => .channel (UInt32.ofNat member)

/-- The list of what is active on a runlist. -/
def activeEntries (scheduler : Scheduler) (runlist : Runlist) :
    Except Failure (List RunlistEntry) := do
  let channels ← scheduler.channelEntries runlist
  let groups ← runlist.activeGroups.ones.mapM (scheduler.groupEntries runlist)
  return channels ++ groups.flatten

/-- A buffer with entries written from an index on. -/
def writeEntries (buffer : DmaBuffer) (index : Nat) :
    List RunlistEntry → Except Failure DmaBuffer
  | [] => .ok buffer
  | entry :: entries => do
      let words := entry.encode
      let buffer ← buffer.write (2 * index) words.first
      let buffer ← buffer.write (2 * index + 1) words.second
      writeEntries buffer (index + 1) entries

/-- The first `count` entries of a buffer. -/
def readEntries (buffer : DmaBuffer) (count : Nat) : Except Failure (List RunlistEntry) :=
  (List.range count).mapM fun index => do
    return .decode ⟨← buffer.read (2 * index), ← buffer.read (2 * index + 1)⟩

/-- Write the list of what is active into the spare buffer; the answer is its length. -/
def writeList (runlistId : Nat) : Operation Scheduler Nat := do
  let runlist ← runlist runlistId
  let entries ← (← get).activeEntries runlist
  let spare ← writeEntries runlist.spare 0 entries
  putRunlist runlistId { runlist with spare }
  return entries.length

/-- Wait until the hardware has picked up the list of a runlist. -/
def waitRunlist (runlistId : Nat) : Operation Scheduler Bool := do
  waitFor (← get).config.poll.runlistTimeout (not <$> Device.runlistPending runlistId)

/-- Take the channels of some targets out of the active set of a runlist, as far as they are on
it. -/
def dropTargets (runlistId : Nat) (targets : List Target) : Operation Scheduler Unit :=
  targets.forM fun target => do
    ((← get).targetChannels target).forM fun id => do
      if (← channelAt id).runlist = runlistId then
        (setActive runlistId id false).disregard

/-- Wait for the hardware to pick up a list. If it does not, recover the engines of the runlist
and wait once more. -/
def awaitPickup (runlistId : Nat) : Operation Scheduler Unit := do
  if ← waitRunlist runlistId then
    return
  let targets ← recoverRunlistEngines runlistId
  dropTargets runlistId targets
  if !(← waitRunlist runlistId) then
    Operation.refuse (.runlistUpdateFailed runlistId)

/-- Make the buffer that was handed over the current one. -/
def swapBuffers (runlistId count : Nat) : Operation Scheduler Unit := do
  let runlist ← runlist runlistId
  putRunlist runlistId
    { runlist with current := runlist.spare, spare := runlist.current, count }

/-- Hand a list over: what is active, or nothing at all. -/
def submitList (runlistId : Nat) (suspend wait : Bool) : Operation Scheduler Unit := do
  let count ← if suspend then pure 0 else writeList runlistId
  onBus (Device.submitRunlist runlistId (← runlist runlistId).spare.physical count)
  if wait then
    awaitPickup runlistId
  swapBuffers runlistId count

/-- Add or remove a channel and hand the list over; nothing happens if the channel is in the set
or out of it as requested. Without a channel the set stays, and `add` says whether the list holds
what is active or is empty. -/
def updateRunlist (runlistId : Nat) (id : Option Nat) (add wait : Bool) :
    Operation Scheduler Unit := do
  let _ ← runlist runlistId
  match id with
  | none => submitList runlistId (!add) wait
  | some id =>
      if ← setActive runlistId id add then
        submitList runlistId false wait

/-- The entries of the list that the hardware reads. -/
def snapshot (runlistId : Nat) : Operation Scheduler (List RunlistEntry) := do
  let runlist ← runlist runlistId
  readEntries runlist.current runlist.count

/-- The channels in the active set of a runlist, ascending. -/
def activeChannels (runlistId : Nat) : Operation Scheduler (List Nat) := do
  return (← runlist runlistId).activeChannels.ones

end GpuSched.Scheduler
