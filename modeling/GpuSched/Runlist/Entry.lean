/-!
# Runlist entries

The hardware reads a runlist as pairs of words. A channel takes one entry. A group takes a header
that holds its timeslice and the number of its members, and the members follow as channels.
`encode` drops the bits of identifiers and scales that have no place in the words.
-/
namespace GpuSched

/-- The share of a group: `timeout` shifted left by `scale` scheduler ticks. -/
structure Timeslice where
  scale : UInt8 := 3
  timeout : UInt8 := 128
  deriving DecidableEq, Repr, Inhabited

/-- The two words of an entry. -/
structure EntryWords where
  first : UInt32
  second : UInt32
  deriving DecidableEq, Repr

/-- One entry of a runlist. -/
inductive RunlistEntry where
  | channel (id : UInt32)
  /-- A group header; its `len` members follow it. -/
  | group (id len : UInt32) (timeslice : Timeslice)
  deriving DecidableEq, Repr

namespace RunlistEntry

/-- The bits of an identifier. -/
def idMask : UInt32 := 0xfff

/-- Set in the header of a group. -/
def groupBit : UInt32 := 0x1000

/-- The words of an entry. -/
def encode : RunlistEntry → EntryWords
  | channel id => ⟨id &&& idMask, 0⟩
  | group id len timeslice =>
      ⟨(id &&& idMask) ||| groupBit ||| ((timeslice.scale.toUInt32 &&& 0xf) <<< 16) |||
        ((timeslice.timeout.toUInt32 &&& 0xff) <<< 24), len⟩

/-- The entry that two words describe. -/
def decode (words : EntryWords) : RunlistEntry :=
  let id := words.first &&& idMask
  if words.first &&& groupBit = 0 then
    channel id
  else
    group id words.second
      ⟨((words.first >>> 16) &&& 0xf).toUInt8, ((words.first >>> 24) &&& 0xff).toUInt8⟩

end RunlistEntry

end GpuSched
