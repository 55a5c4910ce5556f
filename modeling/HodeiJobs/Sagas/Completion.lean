import HodeiJobs.Sagas.ForwardRun

/-!
# Calls that complete

A call that returns a completed result has executed exactly the indices that
had no `Completed` record, once each and in increasing order, and leaves a
record for every index.
-/

namespace HodeiJobs.Sagas

open HodeiJobs.Library HodeiJobs.Library.Program

/-- The step functions invoked since an earlier world. -/
def World.eventsSince (before after : World) : List SagaEvent :=
  after.trace.drop before.trace.length

theorem World.events_since_append {before after : World} {events : List SagaEvent}
    (extended : after.trace = before.trace ++ events) : before.eventsSince after = events := by
  unfold World.eventsSince
  rw [extended, List.drop_left]

/-- The indices whose `execute()` was invoked for this saga, in order. -/
def executedIndices (sagaId : SagaId) (events : List SagaEvent) : List Nat :=
  events.filterMap fun event =>
    match event with
    | .execute id index => if id = sagaId then some index else none
    | .compensate _ _ => none

/-- The indices whose `compensate()` was invoked for this saga, in order. -/
def compensatedIndices (sagaId : SagaId) (events : List SagaEvent) : List Nat :=
  events.filterMap fun event =>
    match event with
    | .execute _ _ => none
    | .compensate id index => if id = sagaId then some index else none

@[simp] theorem executed_indices_executes (sagaId : SagaId) (indices : List Nat) :
    executedIndices sagaId (indices.map (SagaEvent.execute sagaId)) = indices := by
  simp [executedIndices, List.filterMap_map]

@[simp] theorem compensated_indices_executes (sagaId : SagaId) (indices : List Nat) :
    compensatedIndices sagaId (indices.map (SagaEvent.execute sagaId)) = [] := by
  simp [compensatedIndices, List.filterMap_map]

@[simp] theorem compensated_indices_compensates (sagaId : SagaId) (indices : List Nat) :
    compensatedIndices sagaId (indices.map (SagaEvent.compensate sagaId)) = indices := by
  simp [compensatedIndices, List.filterMap_map]

@[simp] theorem executed_indices_compensates (sagaId : SagaId) (indices : List Nat) :
    executedIndices sagaId (indices.map (SagaEvent.compensate sagaId)) = [] := by
  simp [executedIndices, List.filterMap_map]

@[simp] theorem compensated_indices_append (sagaId : SagaId) (first second : List SagaEvent) :
    compensatedIndices sagaId (first ++ second) =
      compensatedIndices sagaId first ++ compensatedIndices sagaId second :=
  List.filterMap_append

@[simp] theorem executed_indices_append (sagaId : SagaId) (first second : List SagaEvent) :
    executedIndices sagaId (first ++ second) =
      executedIndices sagaId first ++ executedIndices sagaId second :=
  List.filterMap_append

variable {config : PostgresSagaOrchestratorConfig} {env : Env} {saga : Saga} {sagaId : SagaId}
  {world : World}

theorem compensate_returns_compensating {context : SagaContext} {executed : Nat}
    {result : SagaExecutionResult}
    (returned : (runSaga env (compensate saga sagaId context executed) world).1 = .ok result) :
    result.state = .compensating := by
  unfold compensate runSaga at returned
  obtain ⟨records, loaded, -, afterLoad⟩ := exec_bind_returned _ returned
  obtain ⟨count, compensated, -, afterLoop⟩ := exec_bind_returned _ afterLoad
  obtain ⟨marked, final, -, afterMark⟩ := exec_bind_returned _ afterLoop
  obtain ⟨elapsed, stop, -, answer⟩ := exec_bind_returned _ afterMark
  cases answer
  rfl

/-- A completed result means that the loop went through every index. -/
theorem completed_call_runs_all {context : SagaContext} {result : SagaExecutionResult}
    (returned : (runSaga env (executeSaga config saga context) world).1 = .ok result)
    (completed : result.state = .completed) :
    Entered env context.sagaId ∧
      (∀ i < saga.steps.length, Runs config env context.sagaId
        (world.store.findStepsBySagaId context.sagaId) i) ∧
      Clean env context.sagaId .completed stateCalls := by
  by_cases entered : Entered env context.sagaId
  · rcases all_below_or_first (Runs config env context.sagaId
      (world.store.findStepsBySagaId context.sagaId)) saga.steps.length with
      all | ⟨stop, below, earlier, stops⟩
    · refine ⟨entered, all, ?_⟩
      by_contra faulted
      obtain ⟨context', executed, after, reached, -⟩ :=
        run_execute_saga_reaches context world saga.steps.length entered (Nat.le_refl _) all
      obtain ⟨failure, stopped⟩ := (run_steps_end config _ saga _
        (world.store.findStepsBySagaId context.sagaId) context' executed saga.steps.length
        after).stops faulted
      rw [reached, List.drop_length] at returned
      unfold runSaga at returned
      rw [stopped] at returned
      cases returned
    · obtain ⟨context', executed, after, reached, -⟩ :=
        run_execute_saga_reaches context world stop entered (Nat.le_of_lt below) earlier
      rw [reached, List.drop_eq_getElem_cons below] at returned
      by_cases rollsBack : RollsBack config env context.sagaId stop
      · have pending : completedAt (world.store.findStepsBySagaId context.sagaId) stop = false := by
          rw [← Bool.not_eq_true]
          intro recorded
          exact stops (.inl recorded)
        obtain ⟨context'', final, handed, -⟩ := run_steps_roll_back saga
          (world.store.findStepsBySagaId context.sagaId) saga.steps[stop]
          (saga.steps.drop (stop + 1)) context' executed after pending rollsBack
        rw [handed] at returned
        rw [compensate_returns_compensating returned] at completed
        cases completed
      · obtain ⟨failure, final, halted, -⟩ := run_steps_halt saga saga.steps[stop]
          (saga.steps.drop (stop + 1)) context' executed after stops rollsBack
        rw [halted] at returned
        cases returned
  · obtain ⟨failure, after, refused, -⟩ :=
      run_execute_saga_refused config saga context world entered
    rw [refused] at returned
    cases returned

/-- The converse: what the call does when every index runs. -/
theorem run_execute_saga_completes {context : SagaContext} (entered : Entered env context.sagaId)
    (all : ∀ i < saga.steps.length, Runs config env context.sagaId
      (world.store.findStepsBySagaId context.sagaId) i)
    (clean : Clean env context.sagaId .completed stateCalls) :
    ∃ result after, runSaga env (executeSaga config saga context) world = (.ok result, after) ∧
      result.state = .completed ∧
      after.trace = world.trace ++
        (pendingIndices (world.store.findStepsBySagaId context.sagaId) 0 saga.steps.length).map
          (SagaEvent.execute context.sagaId) ∧
      ∀ index, RecordedCompleted after.store context.sagaId index ↔
        RecordedCompleted world.store context.sagaId index ∨ index < saga.steps.length := by
  obtain ⟨context', executed, after, reached, progress⟩ :=
    run_execute_saga_reaches context world saga.steps.length entered (Nat.le_refl _) all
  have ended := (run_steps_end config _ saga _ (world.store.findStepsBySagaId context.sagaId)
    context' executed saga.steps.length after).passes clean
  rw [reached, List.drop_length]
  exact ⟨_, _, ended, rfl, progress.trace, fun index => recorded_at_stop progress index⟩

theorem pending_indices_pairwise (stored : List SagaStepData) (index count : Nat) :
    (pendingIndices stored index count).Pairwise (· < ·) :=
  List.Pairwise.filter _ List.pairwise_lt_range'

theorem count_pending_indices (stored : List SagaStepData) {count index : Nat}
    (below : index < count) :
    (pendingIndices stored 0 count).count index = if completedAt stored index then 0 else 1 := by
  have distinct : (pendingIndices stored 0 count).Nodup :=
    (pending_indices_pairwise stored 0 count).imp Nat.ne_of_lt
  split_ifs with recorded
  · apply List.count_eq_zero_of_not_mem
    simp [mem_pending_indices, recorded]
  · apply List.count_eq_one_of_mem distinct
    simp [mem_pending_indices, below, recorded]

/-- A completed result: every index is recorded, each index without a record
was executed exactly once and the others not at all, in increasing order. -/
theorem completed_call_executes_pending_steps_once (config : PostgresSagaOrchestratorConfig)
    (env : Env) (saga : Saga) (context : SagaContext) (world : World)
    (result : SagaExecutionResult)
    (returned : (runSaga env (executeSaga config saga context) world).1 = .ok result)
    (completed : result.state = .completed) :
    let after := (runSaga env (executeSaga config saga context) world).2
    let executed := executedIndices context.sagaId (world.eventsSince after)
    (∀ i < saga.steps.length, RecordedCompleted after.store context.sagaId i) ∧
    (∀ i < saga.steps.length,
      (RecordedCompleted world.store context.sagaId i → executed.count i = 0) ∧
      (¬RecordedCompleted world.store context.sagaId i → executed.count i = 1)) ∧
    executed.Pairwise (· < ·) := by
  obtain ⟨entered, all, clean⟩ := completed_call_runs_all returned completed
  obtain ⟨result', after, ran, -, trace, recorded⟩ := run_execute_saga_completes entered all clean
  have executed : executedIndices context.sagaId (world.eventsSince after) =
      pendingIndices (world.store.findStepsBySagaId context.sagaId) 0 saga.steps.length := by
    rw [World.events_since_append trace, executed_indices_executes]
  simp only [ran, executed]
  refine ⟨?_, ?_, pending_indices_pairwise _ _ _⟩
  · intro i below
    exact (recorded i).mpr (.inr below)
  · intro i below
    rw [count_pending_indices _ below, ← completed_at_iff]
    constructor
    · intro known
      rw [if_pos known]
    · intro unknown
      rw [if_neg unknown]

/-- Two steps, the second already recorded: only the first is executed. -/
def resumedWorld : World :=
  { World.empty with
    store :=
      { World.empty.store with
        steps := [SagaStepDbRow.ofData 0
          { SagaStepData.newWithOrder ⟨7⟩ "create" 1 none ⟨3⟩ 0 with state := .completed }]
        stepsKey := List.nodup_singleton _ } }

theorem resumed_call_executes_first_step_once :
    let saga : Saga := ⟨.execution, [⟨"validate", false⟩, ⟨"create", true⟩]⟩
    let after := (runSaga (.quiet .quiet)
      (executeSaga {} saga (.new ⟨7⟩ .execution none none 0)) resumedWorld).2
    executedIndices ⟨7⟩ (resumedWorld.eventsSince after) = [0] ∧
      RecordedCompleted after.store ⟨7⟩ 0 ∧ RecordedCompleted after.store ⟨7⟩ 1 := by
  have general := completed_call_executes_pending_steps_once {} (.quiet .quiet)
    ⟨.execution, [⟨"validate", false⟩, ⟨"create", true⟩]⟩ (.new ⟨7⟩ .execution none none 0)
    resumedWorld (.completedWithSteps ⟨7⟩ .execution ⟨0⟩ 2) rfl rfl
  exact ⟨by decide, general.1 0 (by decide), general.1 1 (by decide)⟩

end HodeiJobs.Sagas
