import GpuSched.Operation

/-!
# Contracts of operations

`operation.Yields state good bad` says how a run of an operation from a state ends: an answer and
the state it leaves satisfy `good`, a failure and the state it leaves satisfy `bad`. A contract of a
composed operation is computed from the contracts of its parts by the equations here, and a loop
keeps what each of its rounds keeps.
-/
namespace GpuSched.Operation

variable {σ τ α β : Type}

/-- A run from `state` ends in an answer with `good` or in a failure with `bad`. -/
def Yields (operation : Operation σ α) (state : σ) (good : α → σ → Prop)
    (bad : Failure → σ → Prop) : Prop :=
  match operation state with
  | (.ok value, changed) => good value changed
  | (.error failure, changed) => bad failure changed

section Steps

variable {state : σ} {good : α → σ → Prop} {bad : Failure → σ → Prop}

/-- What a run yields holds of its answer. -/
theorem Yields.of_ok {operation : Operation σ α} (yields : operation.Yields state good bad)
    {value : α} {changed : σ} (run : operation state = (.ok value, changed)) :
    good value changed := by
  unfold Yields at yields
  rwa [run] at yields

/-- What a run yields holds of its failure. -/
theorem Yields.of_error {operation : Operation σ α} (yields : operation.Yields state good bad)
    {failure : Failure} {changed : σ} (run : operation state = (.error failure, changed)) :
    bad failure changed := by
  unfold Yields at yields
  rwa [run] at yields

/-- A run yields what holds of every outcome. -/
theorem yields_of_forall {operation : Operation σ α} (answers : ∀ value changed, good value changed)
    (fails : ∀ failure changed, bad failure changed) : operation.Yields state good bad := by
  unfold Yields
  split
  · exact answers _ _
  · exact fails _ _

/-- What is yielded however a run ends holds of the state that it leaves. -/
theorem Yields.holds {operation : Operation σ α} {kept : σ → Prop}
    (yields : operation.Yields state (fun _ changed => kept changed)
      fun _ changed => kept changed) :
    kept (operation state).2 := by
  unfold Yields at yields
  rcases run : operation state with ⟨_ | _, _⟩ <;> rwa [run] at yields

/-- What holds of the state that a run leaves is yielded, however it ends. -/
theorem yields_of_state {operation : Operation σ α} {kept : σ → Prop}
    (holds : kept (operation state).2) :
    operation.Yields state (fun _ changed => kept changed) fun _ changed => kept changed := by
  unfold Yields
  rcases run : operation state with ⟨_ | _, _⟩ <;> rwa [run] at holds

/-- A run that cannot fail has an answer. -/
theorem Yields.exists_ok {operation : Operation σ α}
    (yields : operation.Yields state good fun _ _ => False) :
    ∃ value changed, operation state = (.ok value, changed) ∧ good value changed := by
  unfold Yields at yields
  rcases run : operation state with ⟨_ | value, changed⟩ <;> rw [run] at yields
  · exact yields.elim
  · exact ⟨value, changed, rfl, yields⟩

/-- A run that can only fail in one way fails so. -/
theorem Yields.eq_error {operation : Operation σ α} {failure : Failure}
    (yields : operation.Yields state (fun _ _ => False) fun other _ => other = failure)
    {result : Except Failure α} {changed : σ} (run : operation state = (result, changed)) :
    result = .error failure := by
  cases result with
  | ok value => exact (yields.of_ok run).elim
  | error other => exact congrArg Except.error (yields.of_error run)

/-- A contract may promise less. -/
theorem Yields.mono {operation : Operation σ α} {good' : α → σ → Prop} {bad' : Failure → σ → Prop}
    (yields : operation.Yields state good bad)
    (weaker : ∀ value changed, good value changed → good' value changed)
    (milder : ∀ failure changed, bad failure changed → bad' failure changed) :
    operation.Yields state good' bad' := by
  unfold Yields at yields ⊢
  split at yields
  · exact weaker _ _ yields
  · exact milder _ _ yields

/-- Two contracts hold of one run. -/
theorem Yields.and {operation : Operation σ α} {good' : α → σ → Prop} {bad' : Failure → σ → Prop}
    (one : operation.Yields state good bad) (other : operation.Yields state good' bad') :
    operation.Yields state (fun value changed => good value changed ∧ good' value changed)
      (fun failure changed => bad failure changed ∧ bad' failure changed) := by
  unfold Yields at one other ⊢
  rcases run : operation state with ⟨_ | _, _⟩ <;> rw [run] at one other
  · exact ⟨one, other⟩
  · exact ⟨one, other⟩

/-- A contract may promise less of an answer. -/
theorem Yields.imp {operation : Operation σ α} {good' : α → σ → Prop}
    (yields : operation.Yields state good bad)
    (weaker : ∀ value changed, good value changed → good' value changed) :
    operation.Yields state good' bad :=
  yields.mono weaker fun _ _ => id

@[simp] theorem yields_pure {value : α} :
    (pure value : Operation σ α).Yields state good bad = good value state := rfl

@[simp] theorem yields_get {good : σ → σ → Prop} :
    (get : Operation σ σ).Yields state good bad = good state state := rfl

@[simp] theorem yields_set {next : σ} {good : PUnit → σ → Prop} :
    (set next : Operation σ PUnit).Yields state good bad = good ⟨⟩ next := rfl

@[simp] theorem yields_modify {change : σ → σ} {good : PUnit → σ → Prop} :
    (modify change : Operation σ PUnit).Yields state good bad = good ⟨⟩ (change state) := rfl

@[simp] theorem yields_refuse {error : Error} :
    (refuse error : Operation σ α).Yields state good bad = bad (.refused error) state := rfl

@[simp] theorem yields_abort {reason : Abort} :
    (abort reason : Operation σ α).Yields state good bad = bad (.aborted reason) state := rfl

/-- A result computed beside the state leaves the state alone. -/
theorem yields_lift {result : Except Failure α} :
    (liftM result : Operation σ α).Yields state good bad =
      match result with
      | .ok value => good value state
      | .error failure => bad failure state := by
  cases result <;> rfl

/-- A result that is known to be a value is answered. -/
theorem yields_lift_ok {value : α} :
    (liftM (Except.ok value : Except Failure α) : Operation σ α).Yields state good bad =
      good value state := rfl

/-- A result computed beside the state is answered or is the failure. -/
theorem yields_lift_of {result : Except Failure α}
    (works : ∀ value, result = .ok value → good value state)
    (fails : ∀ failure, result = .error failure → bad failure state) :
    (liftM result : Operation σ α).Yields state good bad := by
  rw [yields_lift]
  cases result with
  | ok value => exact works value rfl
  | error failure => exact fails failure rfl

/-- The second part of a composed run goes on where the first one ends with an answer. -/
theorem run_bind (operation : Operation σ α) (next : α → Operation σ β) (state : σ) :
    (operation >>= next) state =
      match operation state with
      | (.ok value, changed) => next value changed
      | (.error failure, changed) => (.error failure, changed) := by
  change (ExceptT.bind operation next) state = _
  simp only [ExceptT.bind, ExceptT.mk, bind, StateT.bind, ExceptT.bindCont]
  rcases operation state with ⟨_ | _, _⟩ <;> rfl

/-- A composed run after its first part has answered. -/
theorem run_bind_of_ok {operation : Operation σ α} {next : α → Operation σ β} {value : α}
    {changed : σ} (run : operation state = (.ok value, changed)) :
    (operation >>= next) state = next value changed := by
  rw [run_bind, run]

/-- A composed run yields what its second part yields from where the first one ends. -/
@[simp] theorem yields_bind {operation : Operation σ α} {next : α → Operation σ β}
    {good : β → σ → Prop} :
    (operation >>= next).Yields state good bad =
      operation.Yields state (fun value changed => (next value).Yields changed good bad) bad := by
  unfold Yields
  rw [run_bind]
  rcases operation state with ⟨_ | _, _⟩ <;> rfl

@[simp] theorem yields_map {operation : Operation σ α} {change : α → β} {good : β → σ → Prop} :
    (change <$> operation).Yields state good bad =
      operation.Yields state (fun value changed => good (change value) changed) bad := by
  rw [← bind_pure_comp]
  exact yields_bind

@[simp] theorem yields_seqRight {operation : Operation σ α} {next : Operation σ β}
    {good : β → σ → Prop} :
    (operation *> next).Yields state good bad =
      operation.Yields state (fun _ changed => next.Yields changed good bad) bad := by
  rw [seqRight_eq_bind]
  exact yields_bind

/-- The entry of a table is answered where there is one. -/
theorem yields_entry {table : Array α} {index : Nat} {value : α}
    (found : table[index]? = some value) :
    (entry table index : Operation σ α).Yields state good bad = good value state := by
  unfold entry
  rw [found]
  rfl

/-- An operation on a part of the state yields what it yields on the part. -/
theorem yields_focus {part : σ → τ} {replace : σ → τ → σ} {operation : Operation τ α} :
    (focus part replace operation).Yields state good bad =
      operation.Yields (part state) (fun value changed => good value (replace state changed))
        (fun failure changed => bad failure (replace state changed)) := by
  have run : focus part replace operation state =
      ((operation (part state)).1, replace state (operation (part state)).2) := rfl
  unfold Yields
  rw [run]
  rcases operation (part state) with ⟨_ | _, _⟩ <;> rfl

/-- An attempt answers a refusal and passes an abort on. -/
theorem yields_attempt {operation : Operation σ α} {good : Except Error α → σ → Prop} :
    operation.attempt.Yields state good bad =
      operation.Yields state (fun value changed => good (.ok value) changed)
        (fun failure changed =>
          match failure with
          | .refused error => good (.error error) changed
          | .aborted reason => bad (.aborted reason) changed) := by
  unfold Yields attempt ExceptT.mk
  dsimp only
  rcases operation state with ⟨(_ | _) | _, _⟩ <;> rfl

/-- An operation whose refusal is disregarded passes only an abort on. -/
theorem yields_disregard {operation : Operation σ α} {good : Unit → σ → Prop} :
    operation.disregard.Yields state good bad =
      operation.Yields state (fun _ changed => good () changed)
        (fun failure changed =>
          match failure with
          | .refused _ => good () changed
          | .aborted reason => bad (.aborted reason) changed) := by
  unfold disregard
  rw [yields_bind, yields_attempt]
  rfl

end Steps

/-- A composed result is a value just when both of its parts are. -/
theorem bind_eq_ok_iff {result : Except Failure α} {next : α → Except Failure β} {value : β} :
    (result >>= next) = .ok value ↔ ∃ first, result = .ok first ∧ next first = .ok value := by
  cases result <;> simp [bind, Except.bind]

/-- The value of a result that has one. -/
theorem eq_ok_of_toOption {result : Except Failure α} {value : α}
    (present : result.toOption = some value) : result = .ok value := by
  cases result with
  | ok held => exact congrArg Except.ok (Option.some.inj present)
  | error failure => cases present

/-- A run whose answer is known ends with that answer. -/
theorem run_of_toOption {operation : Operation σ α} {state : σ} {value : α}
    (answers : (operation state).1.toOption = some value) :
    operation state = (.ok value, (operation state).2) :=
  Prod.ext (eq_ok_of_toOption answers) rfl

/-- A result that is given is a value just when it is that value. -/
theorem pure_eq_ok_iff {given value : α} :
    (pure given : Except Failure α) = .ok value ↔ given = value := by
  simp [pure, Except.pure]

section Lists

variable {m : Type → Type} [Monad m] [LawfulMonad m]

/-- Mapping a list by steps that each answer at once. -/
theorem mapM_eq_pure {list : List α} {act : α → m β} {answer : α → β}
    (each : ∀ item ∈ list, act item = pure (answer item)) :
    list.mapM act = pure (list.map answer) := by
  induction list with
  | nil => simp
  | cons item rest ih =>
    rw [List.mapM_cons, each item List.mem_cons_self, pure_bind,
      ih fun item mem => each item (List.mem_cons_of_mem _ mem), pure_bind, List.map_cons]

/-- Filtering a list by tests that each answer at once. -/
theorem filterM_eq_pure {list : List α} {test : α → m Bool} {answer : α → Bool}
    (each : ∀ item ∈ list, test item = pure (answer item)) :
    list.filterM test = pure (list.filter answer) := by
  have collect : ∀ (rest kept : List α), (∀ item ∈ rest, test item = pure (answer item)) →
      rest.filterAuxM test kept = pure ((rest.filter answer).reverse ++ kept) := by
    intro rest
    induction rest with
    | nil =>
      intro kept _
      rfl
    | cons item rest ih =>
      intro kept each
      rw [List.filterAuxM, each item List.mem_cons_self, pure_bind,
        ih _ fun item mem => each item (List.mem_cons_of_mem _ mem)]
      cases keeps : answer item <;> simp [keeps]
  rw [List.filterM, collect list [] each, pure_bind]
  simp

/-- Folding a list from the right by steps that each answer at once. -/
theorem foldrM_eq_pure {list : List α} {act : α → β → m β} {last : β} (answer : α → β → β)
    (each : ∀ item ∈ list, ∀ value, act item value = pure (answer item value)) :
    list.foldrM act last = pure (list.foldr answer last) := by
  induction list with
  | nil => simp
  | cons item rest ih =>
    rw [List.foldrM_cons, ih fun other mem => each other (List.mem_cons_of_mem _ mem), pure_bind,
      each item List.mem_cons_self, List.foldr_cons]

end Lists

section Loops

variable {state : σ} {bad : Failure → σ → Prop}

/-- A loop over a list keeps what each of its rounds keeps, after the rounds that are done. -/
theorem yields_forM {list : List α} {act : α → Operation σ PUnit} (kept : List α → σ → Prop)
    (start : kept [] state)
    (round : ∀ done item rest state, list = done ++ item :: rest → kept done state →
      (act item).Yields state (fun _ changed => kept (done ++ [item]) changed) bad) :
    (list.forM act).Yields state (fun _ changed => kept list changed) bad := by
  suffices general : ∀ rest done state, list = done ++ rest → kept done state →
      (rest.forM act).Yields state (fun _ changed => kept list changed) bad from
    general list [] state rfl start
  intro rest
  induction rest with
  | nil =>
    intro done state whole holds
    rw [List.append_nil] at whole
    rw [List.forM, yields_pure, whole]
    exact holds
  | cons item rest ih =>
    intro done state whole holds
    rw [List.forM, yields_bind]
    refine (round done item rest state whole holds).mono (fun _ changed holds => ?_) fun _ _ => id
    exact ih (done ++ [item]) changed (by simp [whole]) holds

/-- A loop over a list keeps what each of its rounds keeps. -/
theorem yields_forM_of_kept {list : List α} {act : α → Operation σ PUnit} {kept : σ → Prop}
    (start : kept state)
    (round : ∀ item ∈ list, ∀ state, kept state →
      (act item).Yields state (fun _ changed => kept changed) bad) :
    (list.forM act).Yields state (fun _ changed => kept changed) bad := by
  refine yields_forM (fun _ => kept) start fun done item rest state whole holds => ?_
  exact round item (by simp [whole]) state holds

/-- A fold over a list keeps what each of its rounds keeps, after the rounds that are done. -/
theorem yields_foldlM {list : List α} {act : β → α → Operation σ β} {first : β}
    (kept : List α → β → σ → Prop) (start : kept [] first state)
    (round : ∀ done item rest value state, list = done ++ item :: rest → kept done value state →
      (act value item).Yields state
        (fun value changed => kept (done ++ [item]) value changed) bad) :
    (list.foldlM act first).Yields state (fun value changed => kept list value changed) bad := by
  suffices general : ∀ rest done value state, list = done ++ rest → kept done value state →
      (rest.foldlM act value).Yields state (fun value changed => kept list value changed) bad from
    general list [] first state rfl start
  intro rest
  induction rest with
  | nil =>
    intro done value state whole holds
    rw [List.append_nil] at whole
    rw [List.foldlM_nil, yields_pure, whole]
    exact holds
  | cons item rest ih =>
    intro done value state whole holds
    rw [List.foldlM_cons, yields_bind]
    refine (round done item rest value state whole holds).mono
      (fun value changed holds => ?_) fun _ _ => id
    exact ih (done ++ [item]) value changed (by simp [whole]) holds

end Loops

end GpuSched.Operation
