import GpuSched.Target

/-!
# Status words of engines and PBDMA units

A unit reports the context it runs, the context it switches to and how far the switch is. The
word and the record are converted by `UnitStatus.decode` and `UnitStatus.encode`; bit 29 has no
meaning. Which context occupies the unit (`resident`) and which one a fault of the unit is
blamed on (`faulting`) differ only in the middle of a switch.
-/
namespace GpuSched

/-- How far a unit is with switching contexts. -/
inductive ContextState where
  | invalid
  | valid
  /-- The next context is loaded, none is left. -/
  | load
  /-- The current context is saved. -/
  | save
  /-- The current context is exchanged for the next. -/
  | switch
  | unknown (code : UInt32)
  deriving DecidableEq, Repr

namespace ContextState

/-- The state with a given code. -/
def decode (code : UInt32) : ContextState :=
  if code = 0 then invalid
  else if code = 1 then valid
  else if code = 5 then load
  else if code = 6 then save
  else if code = 7 then switch
  else unknown code

/-- The code of a state. -/
def encode : ContextState → UInt32
  | invalid => 0
  | valid => 1
  | load => 5
  | save => 6
  | switch => 7
  | unknown code => code

/-- Whether a context switch is under way. -/
def switching : ContextState → Bool
  | load | save | switch => true
  | invalid | valid | unknown _ => false

theorem encode_decode (code : UInt32) : (decode code).encode = code := by
  unfold decode
  repeat' split
  all_goals simp_all [encode]

end ContextState

/-- The contents of a status word. -/
structure UnitStatus where
  id : UInt32 := 0
  idIsGroup : Bool := false
  nextId : UInt32 := 0
  nextIsGroup : Bool := false
  context : ContextState := .invalid
  faulted : Bool := false
  busy : Bool := false
  deriving DecidableEq, Repr

namespace UnitStatus

/-- The bits of an identifier. -/
def idMask : UInt32 := 0xfff

/-- Set when the current context is a group. -/
def groupBit : UInt32 := 0x1000

/-- Set when the next context is a group. -/
def nextGroupBit : UInt32 := 0x10000000

/-- Set when the unit has faulted. -/
def faultedBit : UInt32 := 0x40000000

/-- Set when the unit is busy. -/
def busyBit : UInt32 := 0x80000000

/-- The record of a status word. -/
def decode (word : UInt32) : UnitStatus where
  id := word &&& idMask
  idIsGroup := word &&& groupBit != 0
  nextId := (word >>> 16) &&& idMask
  nextIsGroup := word &&& nextGroupBit != 0
  context := .decode ((word >>> 13) &&& 0x7)
  faulted := word &&& faultedBit != 0
  busy := word &&& busyBit != 0

/-- A bit pattern that is written only under a condition. -/
def bitsIf (condition : Bool) (bits : UInt32) : UInt32 := if condition then bits else 0

/-- The status word of a record; identifiers and codes lose the bits that have no place. -/
def encode (status : UnitStatus) : UInt32 :=
  (status.id &&& idMask) ||| ((status.nextId &&& idMask) <<< 16) |||
    ((status.context.encode &&& 0x7) <<< 13) ||| bitsIf status.idIsGroup groupBit |||
    bitsIf status.nextIsGroup nextGroupBit ||| bitsIf status.faulted faultedBit |||
    bitsIf status.busy busyBit

/-- A unit that runs a target. -/
def running (target : Target) : UnitStatus :=
  { id := UInt32.ofNat target.id, idIsGroup := target.isGroup, context := .valid, busy := true }

/-- A unit that switches to a target, from another one or from none. -/
def switchingTo (source : Option Target) (target : Target) : UnitStatus :=
  let incoming : UnitStatus :=
    { nextId := UInt32.ofNat target.id, nextIsGroup := target.isGroup, context := .load,
      busy := true }
  match source with
  | none => incoming
  | some outgoing =>
      { incoming with
        id := UInt32.ofNat outgoing.id, idIsGroup := outgoing.isGroup, context := .switch }

/-- The context the unit runs or leaves. -/
def current (status : UnitStatus) : Target := .ofStatus status.id.toNat status.idIsGroup

/-- The context the unit switches to. -/
def next (status : UnitStatus) : Target := .ofStatus status.nextId.toNat status.nextIsGroup

/-- The context that occupies the unit when it is to be preempted. -/
def resident (status : UnitStatus) : Option Target :=
  match status.context with
  | .valid | .save => some status.current
  | .load | .switch => some status.next
  | .invalid | .unknown _ => none

/-- The context that a fault of the unit is blamed on. -/
def faulting (status : UnitStatus) : Option Target :=
  match status.context with
  | .load => some status.next
  | .valid | .save | .switch => some status.current
  | .invalid | .unknown _ => none

end UnitStatus

end GpuSched
