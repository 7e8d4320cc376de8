/-!
# Scheduling targets

A target is what the hardware schedules, preempts and blames for a fault: one channel, or one
time-slice group with every channel in it.
-/
namespace GpuSched

/-- A schedulable context: one channel or one group, by its number. -/
inductive Target where
  | channel (id : Nat)
  | group (id : Nat)
  deriving DecidableEq, Repr, Inhabited

namespace Target

/-- The number of the channel or group. -/
def id : Target → Nat
  | channel id => id
  | group id => id

/-- Whether the target is a group. -/
def isGroup : Target → Bool
  | channel _ => false
  | group _ => true

/-- The target with a given number and kind. -/
def ofStatus (id : Nat) (inGroup : Bool) : Target :=
  if inGroup then group id else channel id

/-- The word for the kind of target. -/
def kindName : Target → String
  | channel _ => "channel"
  | group _ => "group"

/-- The text of a target: its kind, a space and its number. -/
def label (target : Target) : String :=
  target.kindName ++ " " ++ toString target.id

@[simp] theorem ofStatus_id_isGroup (target : Target) :
    ofStatus target.id target.isGroup = target := by
  cases target <;> rfl

end Target

end GpuSched
