import GpuSched.Operation
import GpuSched.Register.Simulation

/-!
# Register accesses

The bus stands between a driver of the hardware and its registers. It carries out one access at a
time and records each in order: a write before it is carried out, a read with what it answered.
-/
namespace GpuSched

/-- One access to a register. -/
inductive Access where
  | read (offset : Nat) (value : UInt32)
  | write (offset : Nat) (value : UInt32)
  deriving DecidableEq, Repr

/-- The text of an access. -/
def Access.label : Access → String
  | read offset value => "r " ++ Numeral.hex offset ++ " " ++ Numeral.hex value.toNat
  | write offset value => "w " ++ Numeral.hex offset ++ " " ++ Numeral.hex value.toNat

/-- Whether an access is a write. -/
def Access.isWrite : Access → Bool
  | read _ _ => false
  | write _ _ => true

/-- The hardware with the accesses made so far. -/
structure Bus where
  hardware : Simulation := .start
  /-- Every access, the latest first. -/
  accesses : List Access := []
  deriving Inhabited

namespace Bus

/-- Read a register. -/
def read (offset : Nat) : Operation Bus UInt32 := do
  let bus ← get
  let (value, hardware) := bus.hardware.read offset
  set { bus with hardware, accesses := .read offset value :: bus.accesses }
  return value

/-- Write a register. -/
def write (offset : Nat) (value : UInt32) : Operation Bus Unit :=
  modify fun bus =>
    { bus with
      hardware := bus.hardware.write offset value
      accesses := .write offset value :: bus.accesses }

/-- Read a register of a bank. -/
def readSlot (bank : RegisterBank) (index : Nat) : Operation Bus UInt32 := do
  read (← bank.slot index)

/-- Write a register of a bank. -/
def writeSlot (bank : RegisterBank) (index : Nat) (value : UInt32) : Operation Bus Unit := do
  write (← bank.slot index) value

end Bus

end GpuSched
