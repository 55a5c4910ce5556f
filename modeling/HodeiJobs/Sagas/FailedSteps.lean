import HodeiJobs.Sagas.RollbackOutcome

/-!
# The record of a failed step

`execute_saga` inserts the record of a step in the step's own transaction. When
the step returns `Err` that transaction is rolled back, so the update of the
next one, which sets the state to `Failed`, finds no row.
-/

namespace HodeiJobs.Sagas

open HodeiJobs.Library HodeiJobs.Library.Program

/-- Some record of the saga carries this index and is in state `Failed`. -/
def RecordedFailed (store : SagaStore) (sagaId : SagaId) (index : Nat) : Prop :=
  ∃ row ∈ store.steps, row.sagaId = sagaId.uuid ∧ row.stepOrder = index ∧
    SagaStepState.ofColumn row.state = .failed

/-- Appending `Completed` records and compensating `Completed` ones makes no
record `Failed`, and none that was `Failed` anything else. -/
theorem recorded_failed_of_marked {before after : SagaStore} {sagaId : SagaId}
    {rows : List SagaStepDbRow} {now : DateTime} {ids : List Uuid} (index : Nat)
    (completed : ∀ row ∈ rows, SagaStepState.ofColumn row.state = .completed)
    (chosen : ∀ row ∈ before.steps ++ rows, row.id ∈ ids →
      SagaStepState.ofColumn row.state = .completed)
    (steps : after.steps = markRows now ids (before.steps ++ rows)) :
    RecordedFailed after sagaId index ↔ RecordedFailed before sagaId index := by
  unfold RecordedFailed
  rw [steps]
  constructor
  · intro ⟨marked, member, owner, order, failed⟩
    obtain ⟨row, stored, shape⟩ := (mem_mark_rows now ids _ marked).mp member
    by_cases compensated : row.id ∈ ids
    · rw [if_pos compensated] at shape
      subst shape
      cases failed
    · rw [if_neg compensated] at shape
      subst shape
      rcases List.mem_append.mp stored with old | new
      · exact ⟨row, old, owner, order, failed⟩
      · rw [completed row new] at failed
        cases failed
  · intro ⟨row, stored, owner, order, failed⟩
    have kept := List.mem_append_left rows stored
    have unchosen : row.id ∉ ids := by
      intro compensated
      rw [chosen row kept compensated] at failed
      cases failed
    exact ⟨row, (mem_mark_rows now ids _ row).mpr ⟨row, kept, if_neg unchosen⟩, owner, order,
      failed⟩

/-- No call changes which steps of any saga are recorded as `Failed`. -/
theorem run_execute_saga_failed_records (config : PostgresSagaOrchestratorConfig) (env : Env)
    (saga : Saga) (context : SagaContext) (world : World) (sagaId : SagaId) (index : Nat) :
    RecordedFailed (runSaga env (executeSaga config saga context) world).2.store sagaId index ↔
      RecordedFailed world.store sagaId index := by
  obtain ⟨stop, rows, ids, appended, owned, steps⟩ :=
    run_execute_saga_step_rows config env saga context world
  apply recorded_failed_of_marked index _ _ steps
  · intro row member
    exact (appended.mem member).2.1
  · intro row stored chosen
    exact (owned row stored chosen).2

/-- A saga that only calls of `execute_saga` have written to has no record of a
failed step. -/
theorem ResumeHistory.never_recorded_failed {sagaId : SagaId} {world : World}
    (history : ResumeHistory sagaId world) (index : Nat) :
    ¬RecordedFailed world.store sagaId index := by
  induction history with
  | fresh world unrecorded =>
      intro ⟨row, stored, owner, _⟩
      exact unrecorded row stored owner
  | call config env saga context world history ih =>
      rw [run_execute_saga_failed_records]
      exact ih
  | outside before after history steps ih =>
      unfold RecordedFailed
      rw [steps]
      exact ih

/-- A step whose `execute()` returned `Err` in a call is recorded as `Failed`
after it exactly when it was before it. -/
theorem failed_step_recorded_iff (config : PostgresSagaOrchestratorConfig) (env : Env)
    (saga : Saga) (context : SagaContext) (world : World) (index : Nat) (error : SagaError) :
    let outcome := runSaga env (executeSaga config saga context) world
    index ∈ executedIndices context.sagaId (world.eventsSince outcome.2) →
    (env.saga context.sagaId).outcome index = .err error →
    (RecordedFailed outcome.2.store context.sagaId index ↔
      RecordedFailed world.store context.sagaId index) := by
  intro outcome _ _
  exact run_execute_saga_failed_records config env saga context world context.sagaId index

/-- A store in which another writer has recorded the third step of saga 7 as
`Failed`. -/
def thirdStepFailedBefore : World :=
  let attempt := SagaStepData.newWithOrder ⟨7⟩ "ReassignJob" 2 none ⟨0⟩ 0
  { World.empty with
    store := World.empty.store.saveStep 0 { attempt with state := .failed } }

theorem earlier_failure_stays_recorded :
    RecordedFailed (runSaga thirdStepFails
      (executeSaga {} threeSteps (.new ⟨7⟩ .recovery none none 0)) thirdStepFailedBefore).2.store
        ⟨7⟩ 2 :=
  (failed_step_recorded_iff {} thirdStepFails threeSteps (.new ⟨7⟩ .recovery none none 0)
    thirdStepFailedBefore 2 .cancelled (by decide) rfl).mpr
      ⟨_, List.mem_singleton_self _, rfl, rfl, rfl⟩

/-- The third step returns `Err`, and no record says so. -/
theorem third_step_failure_leaves_no_record :
    let outcome := runSaga thirdStepFails
      (executeSaga {} threeSteps (.new ⟨7⟩ .recovery none none 0)) .empty
    2 ∈ executedIndices ⟨7⟩ (World.empty.eventsSince outcome.2) ∧
      (thirdStepFails.saga ⟨7⟩).outcome 2 = .err .cancelled ∧
      ¬RecordedFailed outcome.2.store ⟨7⟩ 2 := by
  refine ⟨by decide, rfl, ?_⟩
  rw [run_execute_saga_failed_records]
  intro ⟨row, stored, _⟩
  cases stored

end HodeiJobs.Sagas
