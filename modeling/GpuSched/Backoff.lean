import GpuSched.Checked
import GpuSched.Operation

/-!
# Waiting with backoff

A wait asks again and again, with pauses in between that double up to a longest one, until the
answer is yes or its time has passed. Times are whole microseconds. The clock has to tell the time
at which a wait ends, and twice a pause has to be a length of time; where one of them is out of
range, the wait aborts.
-/
namespace GpuSched

/-- Which times can be told. -/
inductive Clock where
  /-- Times and lengths of time have no end. -/
  | endless
  /-- No time that lies more than `left` microseconds ahead can be told, and the seconds in a length
  of time are counted in 64 bits. -/
  | ending (left : Nat)
  deriving DecidableEq, Repr

namespace Clock

/-- The least number of microseconds that is no length of time by a clock that ends. -/
def lengthLimit : Nat := Checked.limit64 * 1000000

/-- Whether the time that lies so far ahead can be told. -/
def tells (clock : Clock) (timeout : Nat) : Bool :=
  match clock with
  | endless => true
  | ending left => timeout ≤ left

/-- Whether twice a pause is a length of time. -/
def doubles (clock : Clock) (delay : Nat) : Bool :=
  match clock with
  | endless => true
  | ending _ => delay * 2 < lengthLimit

end Clock

/-- The pauses of a wait, in microseconds. -/
structure Backoff where
  /-- The first pause. -/
  initial : Nat := 10
  /-- The longest pause; a shorter one than the first counts as the first. -/
  longest : Nat := 200
  deriving DecidableEq, Repr

namespace Backoff

variable {σ : Type}

/-- Ask until the answer is yes or nothing remains of the time. Each round spends at least one
microsecond of it, so `rounds` above `remaining` are never used up. -/
def poll (clock : Clock) (ask : Operation σ Bool) (longest : Nat) :
    (rounds delay remaining : Nat) → Operation σ Bool
  | 0, _, _ => pure false
  | rounds + 1, delay, remaining => do
      if ← ask then
        return true
      else if remaining = 0 then
        return false
      else if clock.doubles delay then
        poll clock ask longest rounds (min (delay * 2) longest)
          (remaining - max 1 (min delay remaining))
      else
        Operation.abort .overflow

/-- Wait up to `timeout` microseconds of a clock for a yes. -/
def waitBy (clock : Clock) (backoff : Backoff) (timeout : Nat) (ask : Operation σ Bool) :
    Operation σ Bool :=
  if clock.tells timeout then
    poll clock ask (max backoff.longest backoff.initial) (timeout + 1) backoff.initial timeout
  else
    Operation.abort .overflow

/-- Wait by a clock that does not end. -/
def wait (backoff : Backoff) (timeout : Nat) (ask : Operation σ Bool) : Operation σ Bool :=
  backoff.waitBy .endless timeout ask

end Backoff

end GpuSched
