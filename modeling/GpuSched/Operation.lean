import GpuSched.Failure

/-!
# Operations on a state

An operation reads and changes a state and ends in a value or a failure. The state survives a
failure: a refused request may have changed it, and what it did before an abort can be seen.
-/
namespace GpuSched

/-- A stateful computation that may refuse or abort. -/
abbrev Operation (σ α : Type) : Type := ExceptT Failure (StateM σ) α

namespace Operation

variable {σ τ α : Type}

/-- Refuse the request. -/
def refuse (error : Error) : Operation σ α := throw (.refused error)

/-- Stop without an answer. -/
def abort (reason : Abort) : Operation σ α := throw (.aborted reason)

/-- A result computed beside the state. -/
def ofExcept (result : Except Failure α) : Operation σ α := liftM result

/-- Run an operation on one part of a larger state. -/
def focus (part : σ → τ) (replace : σ → τ → σ) (operation : Operation τ α) : Operation σ α :=
  ExceptT.mk fun state =>
    let (result, changed) := operation (part state)
    (result, replace state changed)

/-- Run an operation and answer its refusal as a value. An abort still stops. -/
def attempt (operation : Operation σ α) : Operation σ (Except Error α) :=
  ExceptT.mk fun state =>
    match operation state with
    | (.ok value, changed) => (.ok (.ok value), changed)
    | (.error (.refused error), changed) => (.ok (.error error), changed)
    | (.error (.aborted reason), changed) => (.error (.aborted reason), changed)

/-- Run an operation whose refusal is of no consequence. -/
def disregard (operation : Operation σ α) : Operation σ Unit := do
  let _ ← operation.attempt

/-- The entry of a table at an index that it should have. -/
def entry (table : Array α) (index : Nat) : Operation σ α :=
  match table[index]? with
  | some value => pure value
  | none => abort (.missingEntry index)

end Operation

end GpuSched
