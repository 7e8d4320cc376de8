import GpuSched.Checked

/-!
# Register layout of the host interface

Offsets of the control registers and the fields inside them. A register that exists once per
runlist, channel, engine, PBDMA or fault number belongs to a bank: a first offset and the
distance between neighbours. An offset that leaves the 32-bit space aborts.
-/
namespace GpuSched

/-- A family of registers at equal distances. -/
structure RegisterBank where
  /-- Offset of the register with number zero. -/
  base : Nat
  /-- Distance between neighbours. -/
  stride : Nat
  deriving DecidableEq, Repr

namespace RegisterBank

/-- The offset of a register of the bank. -/
def slot (bank : RegisterBank) (index : Nat) : Except Failure Nat :=
  Checked.fit Checked.limit32 (bank.base + index * bank.stride)

/-- The number, below `count`, of the register at an offset. -/
def index? (bank : RegisterBank) (count offset : Nat) : Option Nat :=
  (List.range count).find? fun index => bank.base + index * bank.stride == offset

end RegisterBank

namespace Register

/-- Unit enables, one bit a unit; a cleared bit holds the unit in reset. -/
def unitEnable : Nat := 0x200

/-- Pending top-level interrupts; a written one clears its bit. -/
def interrupt : Nat := 0x2100

/-- Top-level interrupts that are reported. -/
def interruptEnable : Nat := 0x2140

/-- Code of the scheduler error that is pending. -/
def schedulerError : Nat := 0x254c

/-- Fault numbers with a pending memory fault; a written one clears its bit. -/
def faultPending : Nat := 0x259c

/-- PBDMA units with a pending interrupt; a written one clears its bit. -/
def pbdmaPending : Nat := 0x25a0

/-- Set while the hardware halts scheduling after a fault; a written one clears its bit. -/
def faultHalt : Nat := 0x262c

/-- One bit a runlist; a set bit stops new work of that runlist. -/
def schedulerDisable : Nat := 0x2630

/-- Preempt requests, and whether one is pending. -/
def preempt : Nat := 0x2634

/-- Low half of the list address of a runlist, in pages. -/
def runlistBaseLow : RegisterBank := ⟨0x2270, 0x10⟩

/-- High half of the list address of a runlist, in pages. -/
def runlistBaseHigh : RegisterBank := ⟨0x2274, 0x10⟩

/-- Entry count of a runlist; a write hands the list to the hardware. -/
def runlistSubmit : RegisterBank := ⟨0x2278, 0x10⟩

/-- Whether the hardware still has to pick up the list of a runlist. -/
def runlistStatus : RegisterBank := ⟨0x2400, 8⟩

/-- Status word of an engine. -/
def engineStatus : RegisterBank := ⟨0x2640, 8⟩

/-- Instance pointer of a faulting context, by fault number. -/
def faultInstance : RegisterBank := ⟨0x2800, 16⟩

/-- Low half of a faulting address, by fault number. -/
def faultAddressLow : RegisterBank := ⟨0x2804, 16⟩

/-- High half of a faulting address, by fault number. -/
def faultAddressHigh : RegisterBank := ⟨0x2808, 16⟩

/-- Kind and origin of a fault, by fault number. -/
def faultInfo : RegisterBank := ⟨0x280c, 16⟩

/-- Status word of a PBDMA. -/
def pbdmaStatus : RegisterBank := ⟨0x3080, 4⟩

/-- Pending interrupts of a PBDMA; a written one clears its bit. -/
def pbdmaInterrupt : RegisterBank := ⟨0x40108, 0x2000⟩

/-- Instance pointer of a channel. -/
def channelInstance : RegisterBank := ⟨0x800000, 8⟩

/-- Enable bit of a channel, and the bits that set and clear it. -/
def channelControl : RegisterBank := ⟨0x800004, 8⟩

/-- The number of runlists with registers. -/
def runlistCount : Nat := 16

/-- The number of PBDMA units with registers. -/
def pbdmaCount : Nat := 8

/-- The bit of a runlist in the scheduler disable register. -/
def runlistBit (runlist : Nat) : Except Failure UInt32 := Checked.bit32 runlist

/-- Lists and instance blocks are addressed in pages of this many bytes. -/
def pageSize : Nat := 4096

/-- The bit of a runlist status word, set while a list is pending. -/
def runlistPendingBit : UInt32 := 0x100000

/-- The bits of a submit word that count entries. -/
def entryCountMask : UInt32 := 0xffff

/-- The bit of the preempt register, set while a request is pending. -/
def preemptPendingBit : UInt32 := 0x100000

/-- The bits of a preempt request that name a channel or group. -/
def preemptIdMask : UInt32 := 0xfff

/-- The bit of a preempt request that says a group is meant. -/
def preemptGroupBit : UInt32 := 0x1000000

/-- The bit of an instance pointer that binds it. -/
def instanceBindBit : UInt32 := 0x80000000

/-- The bits of an instance pointer that hold a page. -/
def instancePageMask : UInt32 := 0x0fffffff

/-- The bit of a channel control word that says the channel is enabled. -/
def channelEnableBit : UInt32 := 0x1

/-- The bit that enables a channel when written. -/
def channelEnableSet : UInt32 := 0x400

/-- The bit that disables a channel when written. -/
def channelEnableClear : UInt32 := 0x800

/-- The interrupt bits of a PBDMA that leave a command stream unusable. -/
def pbdmaDeviceMask : UInt32 := 0xffff

/-- The scheduler error code of a context switch that does not end. -/
def switchTimeoutCode : UInt32 := 0xa

end Register

namespace Interrupt

/-- A context could not be bound. -/
def bindError : UInt32 := 0x1

/-- The scheduler reports an error code. -/
def schedulerError : UInt32 := 0x100

/-- A channel switch failed. -/
def switchError : UInt32 := 0x10000

/-- A memory fault was dropped. -/
def droppedFault : UInt32 := 0x8000000

/-- A memory fault is pending. -/
def memoryFault : UInt32 := 0x10000000

/-- A PBDMA has an interrupt pending. -/
def pbdma : UInt32 := 0x20000000

/-- A runlist was picked up. -/
def runlistEvent : UInt32 := 0x40000000

/-- A channel finished work. -/
def channel : UInt32 := 0x80000000

/-- Errors that are only acknowledged. -/
def errorMask : UInt32 := bindError ||| switchError ||| droppedFault

/-- Every interrupt that is serviced. -/
def handledMask : UInt32 :=
  errorMask ||| schedulerError ||| memoryFault ||| pbdma ||| channel ||| runlistEvent

end Interrupt

end GpuSched
