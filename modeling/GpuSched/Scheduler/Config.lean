import GpuSched.Backoff
import GpuSched.Register.Layout
import GpuSched.Runlist.Entry

/-!
# Configuration of a scheduler

How many channels and groups there are, which engines feed on which runlists, how long waits on
the hardware last, and whether the reset after a fault may be put off. `Config.validate` accepts
just the configurations whose numbers have a place in the registers.
-/
namespace GpuSched

/-- The class of an engine. Only the reset of a graphics engine can be put off. -/
inductive EngineKind where
  | graphics
  | copy
  | other
  deriving DecidableEq, Repr, Inhabited

/-- An engine and the units wired to it. -/
structure Engine where
  id : Nat
  kind : EngineKind
  /-- The runlist that feeds the engine. -/
  runlist : Nat
  /-- The PBDMA that fetches its commands. -/
  pbdma : Nat := id
  /-- Its bit among the unit interrupts. -/
  interrupt : Nat := id
  /-- Its bit among the unit enables. -/
  reset : Nat := id
  /-- Its bit among the pending faults. -/
  faultId : Nat := id
  deriving DecidableEq, Repr, Inhabited

/-- Whether waits on the hardware follow the clock. -/
inductive Timing where
  | wallclock
  /-- The hardware does not run in real time; what is waited for counts as done. -/
  | simulated
  deriving DecidableEq, Repr, Inhabited

/-- The pauses and the lengths of waits on the hardware, in microseconds. -/
structure PollConfig where
  backoff : Backoff := {}
  runlistTimeout : Nat := 3000000
  preemptTimeout : Nat := 3000000
  idleTimeout : Nat := 3000000
  deriving DecidableEq, Repr

/-- Whether the reset after a fault waits until the faulting context is released. -/
inductive DeferPolicy where
  | never
  /-- It waits for the contexts that a debugger is attached to. -/
  | debugSessions
  deriving DecidableEq, Repr, Inhabited

/-- The fixed parameters of a scheduler. -/
structure Config where
  channelCount : Nat
  groupCount : Nat
  engines : List Engine := []
  poll : PollConfig := {}
  timing : Timing := .wallclock
  /-- The timeslice of new groups. -/
  timeslice : Timeslice := {}
  deferPolicy : DeferPolicy := .never
  deriving DecidableEq, Repr

/-- Why a configuration is refused. -/
inductive ConfigFault where
  | channelCount (count : Nat)
  | groupCount (count : Nat)
  | noEngines
  | engineTwice (id : Nat)
  | engineId (id : Nat)
  | engineRunlist (id runlist : Nat)
  | enginePbdma (id pbdma : Nat)
  | engineUnits (id : Nat)
  deriving DecidableEq, Repr

namespace Config

/-- The number of identifiers that a runlist entry can hold. -/
def idCount : Nat := 4096

/-- The number of bits of a unit mask. -/
def unitCount : Nat := 32

end Config

/-- The text of a refusal. -/
def ConfigFault.message : ConfigFault → String
  | channelCount count =>
      "channel count " ++ toString count ++ " must be within 1..=" ++ toString Config.idCount
  | groupCount count =>
      "group count " ++ toString count ++ " must be within 1..=" ++ toString Config.idCount
  | noEngines => "no engines configured"
  | engineTwice id => "engine " ++ toString id ++ " listed twice"
  | engineId id => "engine id " ++ toString id ++ " out of range"
  | engineRunlist id runlist =>
      "engine " ++ toString id ++ " on runlist " ++ toString runlist ++ ", max is " ++
        toString (Register.runlistCount - 1)
  | enginePbdma id pbdma =>
      "engine " ++ toString id ++ " on pbdma " ++ toString pbdma ++ ", max is " ++
        toString (Register.pbdmaCount - 1)
  | engineUnits id => "engine " ++ toString id ++ " unit ids out of range"

namespace Config

/-- The first fault of one engine. -/
def engineFault? (engine : Engine) : Option ConfigFault :=
  if unitCount ≤ engine.id then some (.engineId engine.id)
  else if Register.runlistCount ≤ engine.runlist then
    some (.engineRunlist engine.id engine.runlist)
  else if Register.pbdmaCount ≤ engine.pbdma then some (.enginePbdma engine.id engine.pbdma)
  else if unitCount ≤ engine.faultId || unitCount ≤ engine.reset ||
      unitCount ≤ engine.interrupt then
    some (.engineUnits engine.id)
  else none

/-- The first fault of a list of engines, after engines with some identifiers. -/
def enginesFault? (seen : List Nat) : List Engine → Option ConfigFault
  | [] => none
  | engine :: engines =>
      if engine.id ∈ seen then some (.engineTwice engine.id)
      else
        match engineFault? engine with
        | some fault => some fault
        | none => enginesFault? (engine.id :: seen) engines

/-- The first fault of a configuration. -/
def fault? (config : Config) : Option ConfigFault :=
  if config.channelCount = 0 || idCount < config.channelCount then
    some (.channelCount config.channelCount)
  else if config.groupCount = 0 || idCount < config.groupCount then
    some (.groupCount config.groupCount)
  else if config.engines.isEmpty then some .noEngines
  else enginesFault? [] config.engines

/-- Refuse a configuration with a fault. -/
def validate (config : Config) : Except Failure Unit :=
  match config.fault? with
  | some fault => .error (.refused (.invalidConfig fault.message))
  | none => .ok ()

end Config

end GpuSched
