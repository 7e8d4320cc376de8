import GpuSched.Proofs.Contract
import Mathlib.Order.Defs.Unbundled

/-!
# Relations that operations respect

An operation respects a relation between states when the state that it leaves is related to the one
that it found, wherever it starts and however it ends. What a composed operation respects follows
from its parts where the relation is reflexive and transitive, so each operation is taken apart once
for a relation, without a look at what it answers.
-/
namespace GpuSched.Operation

variable {σ τ α β : Type} {related : σ → σ → Prop}

/-- The state that an operation leaves is related to the one that it found. -/
def Respects (related : σ → σ → Prop) (operation : Operation σ α) : Prop :=
  ∀ state, related state (operation state).2

/-- An operation respects a relation just when it yields a related state, however it ends. -/
theorem respects_iff_yields {operation : Operation σ α} :
    Respects related operation ↔ ∀ state, operation.Yields state
      (fun _ after => related state after) fun _ after => related state after := by
  unfold Respects Yields
  refine forall_congr' fun state => ?_
  rcases operation state with ⟨_ | _, _⟩ <;> exact Iff.rfl

/-- A contract promises of an answer what the operation respects as well. -/
theorem Yields.also {operation : Operation σ α} {state : σ} {good : α → σ → Prop}
    {bad : Failure → σ → Prop} (yields : operation.Yields state good bad)
    (respects : Respects related operation) :
    operation.Yields state (fun value after => good value after ∧ related state after) bad :=
  (yields.and (respects_iff_yields.mp respects state)).mono (fun _ _ both => both)
    fun _ _ both => both.1

/-- A property is not lost. -/
def Kept (property : σ → Prop) (before after : σ) : Prop := property before → property after

instance (property : σ → Prop) : IsPreorder σ (Kept property) where
  refl _ := id
  trans _ _ _ one two := two ∘ one

/-- States that meet a condition are related, and the condition stays met. -/
def Within (fit : σ → Prop) (related : σ → σ → Prop) (before after : σ) : Prop :=
  fit before → fit after ∧ related before after

instance (fit : σ → Prop) [IsPreorder σ related] : IsPreorder σ (Within fit related) where
  refl _ fits := ⟨fits, Std.Refl.refl _⟩
  trans _ _ _ one two fits :=
    ⟨(two (one fits).1).1, IsTrans.trans _ _ _ (one fits).2 (two (one fits).1).2⟩

/-- A change of the state. -/
theorem respects_modify {change : σ → σ} (each : ∀ state, related state (change state)) :
    Respects related (modify change : Operation σ PUnit) := each

/-- An operation on a part of the state. -/
theorem respects_focus {part : σ → τ} {replace : σ → τ → σ} {operation : Operation τ α}
    {partly : τ → τ → Prop} (respects : Respects partly operation)
    (whole : ∀ state changed, partly (part state) changed → related state (replace state changed)) :
    Respects related (focus part replace operation) :=
  fun state => whole state _ (respects (part state))

section Unchanged

variable [Std.Refl related]

/-- An answer. -/
theorem respects_pure (value : α) : Respects related (pure value : Operation σ α) :=
  Std.Refl.refl

/-- The state is read. -/
theorem respects_get : Respects related (get : Operation σ σ) := Std.Refl.refl

/-- A refusal. -/
theorem respects_refuse (error : Error) : Respects related (refuse error : Operation σ α) :=
  Std.Refl.refl

/-- An abort. -/
theorem respects_abort (reason : Abort) : Respects related (abort reason : Operation σ α) :=
  Std.Refl.refl

/-- What follows a refusal does not run. -/
theorem respects_refuse_bind (error : Error) (next : α → Operation σ β) :
    Respects related (refuse error >>= next) := Std.Refl.refl

/-- What follows an abort does not run. -/
theorem respects_abort_bind (reason : Abort) (next : α → Operation σ β) :
    Respects related (abort reason >>= next) := Std.Refl.refl

/-- A result beside the state. -/
theorem respects_lift (result : Except Failure α) :
    Respects related (liftM result : Operation σ α) := by
  cases result <;> exact Std.Refl.refl

/-- A result beside the state, and what rests on it. -/
theorem related_lift_bind {result : Except Failure α} {next : α → Operation σ β} {state : σ}
    (each : ∀ value, result = .ok value → related state (next value state).2) :
    related state ((liftM result >>= next) state).2 := by
  cases result with
  | error failure => exact Std.Refl.refl _
  | ok value => exact each value rfl

end Unchanged

/-- A composed run from one state, where the second part may rest on the first one's answer. -/
theorem related_bind [IsTrans σ related] {operation : Operation σ α} {next : α → Operation σ β}
    {state : σ} (first : related state (operation state).2)
    (second : ∀ value middle, operation state = (.ok value, middle) →
      related middle (next value middle).2) :
    related state ((operation >>= next) state).2 := by
  rw [run_bind]
  rcases run : operation state with ⟨_ | value, middle⟩ <;> rw [run] at first
  · exact first
  · exact IsTrans.trans _ _ _ first (second value middle run)

/-- Answering a refusal leaves the state that the operation leaves. -/
theorem state_attempt (operation : Operation σ α) (state : σ) :
    (operation.attempt state).2 = (operation state).2 := by
  unfold Operation.attempt
  simp only [ExceptT.mk]
  rcases operation state with ⟨(_ | _) | _, _⟩ <;> rfl

namespace Respects

variable {operation : Operation σ α}

/-- What respects a relation respects a wider one. -/
theorem mono {wider : σ → σ → Prop} (respects : Respects related operation)
    (implied : ∀ before after, related before after → wider before after) :
    Respects wider operation :=
  fun state => implied _ _ (respects state)

/-- The answer to a refusal. -/
theorem attempt (respects : Respects related operation) :
    Respects related operation.attempt := by
  intro state
  rw [state_attempt]
  exact respects state

variable [IsTrans σ related]

/-- One operation after another. -/
theorem bind {next : α → Operation σ β} (first : Respects related operation)
    (second : ∀ value, Respects related (next value)) : Respects related (operation >>= next) :=
  fun state => related_bind (first state) fun value middle _ => second value middle

variable [Std.Refl related]

/-- A changed answer. -/
theorem map (change : α → β) (respects : Respects related operation) :
    Respects related (change <$> operation) := by
  rw [← bind_pure_comp]
  exact respects.bind fun _ => respects_pure _

/-- A refusal that is disregarded. -/
theorem disregard (respects : Respects related operation) :
    Respects related operation.disregard :=
  respects.attempt.bind fun _ => respects_pure _

end Respects

/-- The state that an operation leaves with an answer is related to the one that it found; a failure
may leave any. -/
def Delivers (related : σ → σ → Prop) (operation : Operation σ α) : Prop :=
  ∀ state, operation.Yields state (fun _ after => related state after) fun _ _ => True

/-- What respects a relation delivers it. -/
theorem Respects.delivers {operation : Operation σ α} (respects : Respects related operation) :
    Delivers related operation :=
  fun state => (respects_iff_yields.mp respects state).mono (fun _ _ => id) fun _ _ _ => trivial

/-- One operation after another. -/
theorem Delivers.bind [IsTrans σ related] {operation : Operation σ α} {next : α → Operation σ β}
    (first : Delivers related operation) (second : ∀ value, Delivers related (next value)) :
    Delivers related (operation >>= next) := by
  intro state
  rw [yields_bind]
  refine (first state).imp fun value middle one => ?_
  exact (second value middle).imp fun _ after two => IsTrans.trans _ _ _ one two

/-- What ends in a refusal does not answer. -/
theorem delivers_refused (operation : Operation σ α) (error : Error) :
    Delivers related (operation >>= fun _ => (refuse error : Operation σ β)) := by
  intro state
  rw [yields_bind]
  exact yields_of_forall (fun _ _ => trivial) fun _ _ => trivial

section Loops

variable [Std.Refl related] [IsTrans σ related]

/-- A loop over a list. -/
theorem respects_forM {act : α → Operation σ PUnit} (each : ∀ item, Respects related (act item))
    (list : List α) : Respects related (list.forM act) := by
  induction list with
  | nil => exact respects_pure _
  | cons item rest ih => exact (each item).bind fun _ => ih

/-- A fold over a list. -/
theorem respects_foldlM {act : β → α → Operation σ β}
    (each : ∀ value item, Respects related (act value item)) (list : List α) (first : β) :
    Respects related (list.foldlM act first) := by
  induction list generalizing first with
  | nil => exact respects_pure _
  | cons item rest ih => exact (each first item).bind fun value => ih value

/-- A list that is filtered by tests. -/
theorem respects_filterM {test : α → Operation σ Bool} (each : ∀ item, Respects related (test item))
    (list : List α) : Respects related (list.filterM test) := by
  have collect : ∀ rest found : List α, Respects related (rest.filterAuxM test found) := by
    intro rest
    induction rest with
    | nil => exact fun found => respects_pure _
    | cons item rest ih => exact fun found => (each item).bind fun _ => ih _
  exact (collect list []).bind fun _ => respects_pure _

end Loops

end GpuSched.Operation
