import GpuSched.Scheduler.Update

/-!
# Reports on a scheduler

What can be seen of a scheduler and its hardware without an access that shows: the channels in
use, the groups in use, and for each runlist what is active, what the hardware reads and what was
handed over last.
-/
namespace GpuSched

/-- A channel as it is reported. -/
structure ChannelReport where
  id : Nat
  channel : Channel
  /-- Whether the hardware takes its commands. -/
  enabled : Bool

/-- A runlist as it is reported. -/
structure RunlistReport where
  id : Nat
  active : List Nat
  /-- The list that the hardware reads. -/
  entries : List RunlistEntry
  submission : Option Submission
  /-- The words of the list that was handed over last, if a buffer starts where it was read. -/
  words : Option (List UInt32)

/-- The text of a reference to a channel. -/
def Channel.referenceText (channel : Channel) (id : Nat) : String :=
  "ChannelRef \x7b id: " ++ toString id ++ ", refcount: " ++ toString channel.references ++ " \x7d"

namespace Scheduler

/-- The hardware under a scheduler. -/
def hardware (scheduler : Scheduler) : Simulation := scheduler.machine.bus.hardware

/-- The report of a slot. -/
def channelReport (scheduler : Scheduler) (id : Nat) (channel : Channel) : ChannelReport where
  id
  channel
  enabled :=
    let control := Register.channelControl
    scheduler.hardware.word (control.base + id * control.stride) &&& Register.channelEnableBit != 0

/-- The channels to which a reference is held, by number. -/
def channelReports (scheduler : Scheduler) : List ChannelReport :=
  scheduler.channels.toList.zipIdx.filterMap fun (channel, id) =>
    if channel.references = 0 then none else some (scheduler.channelReport id channel)

/-- The groups in use, by number, each with its members. -/
def groupReports (scheduler : Scheduler) : List (Nat × List Nat) :=
  scheduler.groups.toList.zipIdx.filterMap fun (group, id) =>
    if group.inUse then some (id, group.members) else none

/-- The buffer at a physical address. -/
def bufferAt? (scheduler : Scheduler) (physical : Nat) : Option DmaBuffer :=
  (scheduler.runlists.values.flatMap fun runlist => [runlist.current, runlist.spare]).find?
    fun buffer => buffer.physical = physical

/-- The report of a runlist. -/
def runlistReport (scheduler : Scheduler) (id : Nat) (runlist : Runlist) : RunlistReport where
  id
  active := runlist.activeChannels.ones
  entries := ((readEntries runlist.current runlist.count).toOption).getD []
  submission := scheduler.hardware.lastSubmission? id
  words := do
    let submission ← scheduler.hardware.lastSubmission? id
    let buffer ← scheduler.bufferAt? submission.base
    return buffer.firstWords (2 * submission.count)

/-- The reports of the runlists, by number. -/
def runlistReports (scheduler : Scheduler) : List RunlistReport :=
  scheduler.runlists.entries.map fun (id, runlist) => scheduler.runlistReport id runlist

end Scheduler

end GpuSched
