import GpuSched.Scheduler.Update

/-!
# Time-slice groups

The channels of a group share one place on a runlist. A channel joins while it is bound and not
active, on the runlist of the group. A group can be destroyed when it has no channels.
-/
namespace GpuSched.Scheduler

/-- Take the least number of a pool. -/
def takeFirst (pool : IdPool) : Operation Scheduler (Nat × IdPool) := do
  match pool.first? with
  | some id => return (id, pool.erase id)
  | none => Operation.refuse .exhausted

/-- Set up a group without channels on a runlist. -/
def createGroup (runlistId : Nat) : Operation Scheduler Nat := do
  let _ ← runlist runlistId
  let (id, freeGroups) ← takeFirst (← get).freeGroups
  modify ({ · with freeGroups })
  let timeslice := (← get).config.timeslice
  changeGroup id fun _ => { inUse := true, runlist := runlistId, timeslice }
  return id

/-- Put a channel into a group. -/
def joinGroup (groupId id : Nat) : Operation Scheduler Unit := do
  let group ← group groupId
  let channel ← channelAt id
  let _ ← runlist channel.runlist
  if group.runlist ≠ channel.runlist then
    conflict (.groupRunlist id channel.runlist groupId group.runlist)
  if channel.state ≠ .bound then
    conflict (.notBound id channel.state)
  if let some other := channel.group then
    conflict (.alreadyGrouped id other)
  changeGroup groupId fun group => { group with members := group.members ++ [id] }
  changeChannel id ({ · with group := some groupId })

/-- Take a channel out of the member list of a group. -/
def removeMember (id groupId : Nat) : Operation Scheduler Unit := do
  let _ ← groupAt groupId
  changeGroup groupId fun group => { group with members := group.members.filter (· ≠ id) }
  changeChannel id ({ · with group := none })

/-- Take a channel out of its group, and first off its runlist. -/
def leaveGroup (id : Nat) : Operation Scheduler Unit := do
  let channel ← channelAt id
  match channel.group with
  | none => conflict (.notGrouped id)
  | some groupId =>
      if channel.state = .active then
        updateRunlist channel.runlist (some id) false true
      removeMember id groupId

/-- Give up a group without channels. -/
def destroyGroup (id : Nat) : Operation Scheduler Unit := do
  let group ← group id
  if group.members ≠ [] then
    conflict (.groupNotEmpty id group.members.length)
  changeGroup id fun group => { active := group.active }
  modify fun scheduler => { scheduler with freeGroups := scheduler.freeGroups.insert id () }

/-- The channels of a group, in the order in which they joined. -/
def groupMembers (id : Nat) : Operation Scheduler (List Nat) := do
  return (← group id).members

/-- Set the timeslice of a group. -/
def setTimeslice (id : Nat) (timeslice : Timeslice) : Operation Scheduler Unit := do
  let _ ← group id
  changeGroup id ({ · with timeslice })

end GpuSched.Scheduler
