import HodeiJobs.Dispatch.SagaRuns
import HodeiJobs.Execution.Outcome

/-!
# Calling the dispatcher again

`execute_execution_saga` is called for a job and a worker, its process ends somewhere,
and it is called again. The saga id is the same, so the second call finds the step
records of the first. It first saves a fresh context into the saga row, and then skips
the steps that are recorded: what these had put into the context is gone.
-/

namespace HodeiJobs.Dispatch

open HodeiJobs.Library HodeiJobs.Library.Program HodeiJobs.Execution
open HodeiJobs.Sagas (SagaContext SagaExecutionResult SagaId SagaStore Uuid
  PostgresSagaOrchestratorConfig RecordedCompleted)

/-! ## The law -/

/-- What the saga row held when a step was recorded completed is still there. -/
def KeepsMetadata (sagaId : SagaId) (before after : SagaStore) : Prop :=
  (∃ index, RecordedCompleted before sagaId index) →
    ∀ key value, storedMetadata before sagaId key = some value →
      storedMetadata after sagaId key = some value

section Law

variable (text : RustText) (newV5 : String → Uuid) (config : PostgresSagaOrchestratorConfig)
  (jobExecutor : Option JobExecutor) (jobId : JobId) (workerId : WorkerId)

/-- Where the call starts again: the process ended after one call for each moment, and
`later` are the jobs and workers by then. -/
def restarted (sagas : Sagas.World) (tables : Tables) (moments : List Moment) (later : Tables) :
    World where
  sagas := (crash handleCall
    (executeExecutionSaga text newV5 config jobExecutor jobId workerId) moments
    ⟨sagas, tables, []⟩).sagas
  tables := later
  executeJobWorkers := []

/-- The call dispatches `ExecuteJobCommand` for its worker and no other, unless that step
is recorded, and at no point has the saga row lost what a completed step stored. -/
def Resumes (again : Moment) (world : World) : Prop :=
  let sagaId := executionSagaId text newV5 jobId workerId
  let program := executeExecutionSaga text newV5 config jobExecutor jobId workerId
  (¬RecordedCompleted world.sagas.store sagaId 2 →
    workerId ∈ (run (handleCall again) program world).2.executeJobWorkers ∧
      ∀ other ∈ (run (handleCall again) program world).2.executeJobWorkers, other = workerId) ∧
  ∀ count, KeepsMetadata sagaId world.sagas.store
    (crash handleCall program (List.replicate count again) world).sagas.store

end Law

/-! ## Up to the initial save -/

section Restart
variable {text : RustText} {newV5 : String → Uuid} {config : PostgresSagaOrchestratorConfig}
  {jobExecutor : Option JobExecutor} {jobId : JobId} {workerId : WorkerId} {again : Moment}
  {world : World} {sagaId : SagaId}

theorem run_check_arguments (quiet : QuietMoment config sagaId again) (alone : again.others = id)
    {job : Job} {worker : Worker} (stored : world.tables.jobs.find jobId = some job)
    (listed : world.tables.workers.find workerId = some worker) :
    run (handleCall again) (expand repositoryCall (checkArguments text jobId workerId).run) world =
      (.ok (), world) := by
  have readsJob : handleCall again (.repository (.findJob .dispatchFindJob jobId)) world =
      (Except.ok (some job), world) := by
    simp only [handleCall, Execution.handle, Execution.Env.answer, lookedUpWorker, alone,
      quiet.repository, stored, id_eq, List.append_nil]
    rfl
  have readsWorker :
      handleCall again (.repository (.findWorker .dispatchFindWorker workerId)) world =
        (Except.ok (some worker), world) := by
    simp only [handleCall, Execution.handle, Execution.Env.answer, lookedUpWorker, alone,
      quiet.repository, listed, id_eq, List.append_nil, reduceCtorEq, if_false]
    rfl
  show run (handleCall again) (.call (.repository (.findJob .dispatchFindJob jobId)) _) world = _
  unfold run
  rw [readsJob]
  show run (handleCall again)
    (.call (.repository (.findWorker .dispatchFindWorker workerId)) _) world = _
  unfold run
  rw [readsWorker]
  rfl

theorem run_initial {context : SagaContext} (quiet : QuietMoment config context.sagaId again)
    (steps : List Execution.SagaStep) :
    run (handleCall again) (expand (sagaCall steps)
        (Sagas.checkAdmission context.sagaId >>= fun _ =>
          Sagas.saveInitialContext context).run) world =
      (.ok (), { world with sagas.store := world.sagas.store.save again.saga.now context }) := by
  have admits : handleCall again (.saga (.admission context.sagaId)) world =
      (Except.ok (), world) := by
    simp only [handleCall, Sagas.handle, quiet.admission]
    rfl
  have answers : ∀ call, handleCall again (.saga (.txCall context.sagaId .initial call)) world =
      (Except.ok (), world) := by
    intro call
    simp only [handleCall, Sagas.handle, Sagas.faultReply, quiet.fault]
    rfl
  have commits : handleCall again (.saga (.commit context.sagaId .initial [.saveWithTx context]))
      world =
      (Except.ok (), { world with
        sagas.store := world.sagas.store.save again.saga.now context }) := by
    simp only [handleCall, Sagas.handle, quiet.fault]
    rfl
  show run (handleCall again) (.call (.saga (.admission context.sagaId)) _) world = _
  unfold run
  rw [admits]
  show run (handleCall again)
    (.call (.saga (.txCall context.sagaId .initial .beginTransaction)) _) world = _
  unfold run
  rw [answers]
  show run (handleCall again) (.call (.saga (.txCall context.sagaId .initial .saveWithTx)) _)
    world = _
  unfold run
  rw [answers]
  show run (handleCall again)
    (.call (.saga (.commit context.sagaId .initial [.saveWithTx context])) _) world = _
  unfold run
  rw [commits]
  rfl

/-- `execute_saga` starts with the admission and the initial save. -/
theorem orchestrate_split (text : RustText) (config : PostgresSagaOrchestratorConfig)
    (jobExecutor : Option JobExecutor) (jobId : JobId) (workerId : WorkerId)
    (context : SagaContext) :
    ∃ rest, orchestrate text config jobExecutor jobId workerId context =
      expand (sagaCall ((ExecutionSaga.withWorker jobId workerId).steps text jobExecutor))
        (Sagas.checkAdmission context.sagaId >>= fun _ => Sagas.saveInitialContext context).run >>=
        rest := by
  unfold orchestrate Sagas.executeSaga
  dsimp only
  rw [← LawfulMonad.bind_assoc, ExceptT.run_bind, expand_bind]
  exact ⟨_, rfl⟩

/-- A call whose arguments are valid reads the clock and starts the saga. -/
theorem execute_split (text : RustText) (newV5 : String → Uuid)
    (config : PostgresSagaOrchestratorConfig) (jobExecutor : Option JobExecutor)
    (jobId : JobId) (workerId : WorkerId) :
    ∃ rest, executeExecutionSaga text newV5 config jobExecutor jobId workerId =
        expand repositoryCall (checkArguments text jobId workerId).run >>= rest ∧
      rest (.ok ()) = (do
        let now ← .call (.saga .now) .done
        let result ← orchestrate text config jobExecutor jobId workerId
          (executionContext text (executionSagaId text newV5 jobId workerId) now jobId workerId)
        return sagaOutcome result) := by
  unfold executeExecutionSaga
  exact ⟨_, rfl, rfl⟩

/-- The second call gets to a point where the row holds no flag of a step. -/
theorem validation_is_lost (jobExecutor : Option JobExecutor) (world : World)
    (quiet : QuietMoment config sagaId again) (alone : again.others = id)
    (own : sagaId = executionSagaId text newV5 jobId workerId) {job : Job} {worker : Worker}
    (stored : world.tables.jobs.find jobId = some job)
    (listed : world.tables.workers.find workerId = some worker) :
    ∃ count, storedMetadata (crash handleCall
      (executeExecutionSaga text newV5 config jobExecutor jobId workerId)
      (List.replicate count again) world).sagas.store sagaId "job_validated" = none := by
  have jobKey : "job_validated" ≠ "job_id" := by decide
  have workerKey : "job_validated" ≠ "worker_id" := by decide
  subst own
  let context := executionContext text (executionSagaId text newV5 jobId workerId)
    again.saga.now jobId workerId
  obtain ⟨rest, split⟩ := orchestrate_split text config jobExecutor jobId workerId context
  obtain ⟨afterCheck, called, continued⟩ :=
    execute_split text newV5 config jobExecutor jobId workerId
  obtain ⟨first, checked⟩ := crash_bind handleCall again
    (expand repositoryCall (checkArguments text jobId workerId).run) afterCheck world
  obtain ⟨second, saved⟩ := crash_bind handleCall again
    (expand (sagaCall ((ExecutionSaga.withWorker jobId workerId).steps text jobExecutor))
      (Sagas.checkAdmission context.sagaId >>= fun _ => Sagas.saveInitialContext context).run)
    (fun outcome => rest outcome >>= fun result => pure (sagaOutcome result)) world
  rw [run_check_arguments quiet alone stored listed] at checked
  rw [run_initial (show QuietMoment config context.sagaId again from quiet)] at saved
  -- The clock is read between the two parts.
  have reaches : crash handleCall
      (executeExecutionSaga text newV5 config jobExecutor jobId workerId)
      (List.replicate (first + (1 + second)) again) world =
      { world with sagas.store := world.sagas.store.save again.saga.now context } := by
    rw [← List.replicate_append_replicate, ← List.replicate_append_replicate, called]
    refine (checked _).trans ?_
    rw [continued]
    show crash handleCall (orchestrate text config jobExecutor jobId workerId context >>=
      fun result => pure (sagaOutcome result)) (List.replicate second again) world = _
    rw [split, LawfulMonad.bind_assoc, ← List.append_nil (List.replicate second again)]
    exact (saved []).trans (crash_nil _ _ _)
  refine ⟨first + (1 + second), ?_⟩
  rw [reaches]
  refine (stored_metadata_save again.saga.now context "job_validated").trans ?_
  exact (get_metadata_set_other _ _ workerKey).trans (get_metadata_set_other _ _ jobKey)

end Restart

/-! ## Whole calls -/

section Calls

variable {text : RustText} {newV5 : String → Uuid} {config : PostgresSagaOrchestratorConfig}
  {jobExecutor : Option JobExecutor} {jobId : JobId} {workerId : WorkerId}

def Progress.none : Progress := ⟨false, false, false⟩

/-- A process that ends leaves no completed step without its metadata. -/
theorem crash_validated (implemented : ∀ executor ∈ jobExecutor, executor = jobExecutorImpl)
    {sagas : Sagas.World}
    (unrecorded : ∀ index,
      ¬RecordedCompleted sagas.store (executionSagaId text newV5 jobId workerId) index)
    (tables : Tables) (moments : List Moment) (later : Tables)
    (recorded : ∃ index, RecordedCompleted
      (restarted text newV5 config jobExecutor jobId workerId sagas tables moments
        later).sagas.store (executionSagaId text newV5 jobId workerId) index) :
    storedMetadata (restarted text newV5 config jobExecutor jobId workerId sagas tables moments
      later).sagas.store (executionSagaId text newV5 jobId workerId) "job_validated" =
        some (.bool true) := by
  let view : View := ⟨config, executionSagaId text newV5 jobId workerId, jobId, workerId, none,
    False, False.elim⟩
  have fits : ∀ moment, view.Fits moment := fun moment =>
    ⟨fun known => absurd rfl known, False.elim⟩
  have start : view.Tracks .none ⟨sagas, tables, []⟩ := by
    refine ⟨fun _ => unrecorded, ?_, ?_, False.elim, ?_, ?_⟩
    · rintro ⟨index, before⟩
      exact absurd before (unrecorded index)
    · intro _ entry known
      cases known
    · intro absurdity
      cases absurdity
    · intro other member
      cases member
  obtain ⟨last, tracks⟩ := obeys_crash view.protocol handleCall view.Tracks
    (fun moment memory call world => call_kept (fits moment) memory call world)
    _ moments .none _ (execute_execution_saga_obeys newV5 implemented rfl rfl rfl) start
  exact tracks.validated recorded

/-- What a quiet call from a world without a record dispatches. -/
theorem rerun_dispatches (implemented : ∀ executor ∈ jobExecutor, executor = jobExecutorImpl)
    {world : World} (unrecorded : ∀ index,
      ¬RecordedCompleted world.sagas.store (executionSagaId text newV5 jobId workerId) index)
    (silent : world.executeJobWorkers = []) {job : Job} {worker : Worker}
    (stored : world.tables.jobs.find jobId = some job)
    (listed : world.tables.workers.find workerId = some worker) {again : Moment}
    (quiet : QuietMoment config (executionSagaId text newV5 jobId workerId) again)
    (alone : again.others = id) (live : Prop)
    (ready : live → job.state = .pending ∧ (worker.state = .ready ∨ worker.state = .busy)) :
    (live → workerId ∈ (run (handleCall again) (executeExecutionSaga text newV5 config jobExecutor
      jobId workerId) world).2.executeJobWorkers) ∧
    ∀ other ∈ (run (handleCall again) (executeExecutionSaga text newV5 config jobExecutor jobId
        workerId) world).2.executeJobWorkers,
      other = workerId ∧ job.state = .pending ∧
        (worker.state = .ready ∨ worker.state = .busy) := by
  let view : View := ⟨config, executionSagaId text newV5 jobId workerId, jobId, workerId,
    some (job, worker), live, fun alive => ⟨job, worker, rfl, ready alive⟩⟩
  have fits : view.Fits again := ⟨fun _ => alone, fun _ => quiet⟩
  have start : view.Tracks .none world := by
    refine ⟨fun _ => unrecorded, ?_, ?_, fun _ => ⟨⟨job, stored⟩, worker, listed⟩, ?_, ?_⟩
    · rintro ⟨index, before⟩
      exact absurd before (unrecorded index)
    · intro _ entry known
      cases known
      exact ⟨stored, listed⟩
    · intro absurdity
      cases absurdity
    · rw [silent]
      intro other member
      cases member
  obtain ⟨last, ends, tracks⟩ := obeys_run view.protocol (handleCall again) view.Tracks
    (call_kept fits) _ .none world
    (execute_execution_saga_obeys newV5 implemented rfl rfl rfl) start
  constructor
  · intro alive
    exact tracks.dispatched (ends alive)
  · intro other member
    obtain ⟨same, assignable⟩ := tracks.only other member
    exact ⟨same, assignable job worker rfl⟩

/-- The second call resumes the first exactly when no step was recorded completed by the
time its process ended, the job is pending, and the worker can take it. -/
theorem rerun_resumes_iff (implemented : ∀ executor ∈ jobExecutor, executor = jobExecutorImpl)
    {sagas : Sagas.World}
    (unrecorded : ∀ index,
      ¬RecordedCompleted sagas.store (executionSagaId text newV5 jobId workerId) index)
    (tables : Tables) (moments : List Moment) (later : Tables) (job : Job) (worker : Worker)
    (stored : later.jobs.find jobId = some job)
    (listed : later.workers.find workerId = some worker) {again : Moment}
    (quiet : QuietMoment config (executionSagaId text newV5 jobId workerId) again)
    (alone : again.others = id) :
    Resumes text newV5 config jobExecutor jobId workerId again
        (restarted text newV5 config jobExecutor jobId workerId sagas tables moments later) ↔
      (∀ index, ¬RecordedCompleted
        (restarted text newV5 config jobExecutor jobId workerId sagas tables moments
          later).sagas.store (executionSagaId text newV5 jobId workerId) index) ∧
      job.state = .pending ∧ (worker.state = .ready ∨ worker.state = .busy) := by
  constructor
  · rintro ⟨dispatches, keeps⟩
    have fresh : ∀ index, ¬RecordedCompleted
        (restarted text newV5 config jobExecutor jobId workerId sagas tables moments
          later).sagas.store (executionSagaId text newV5 jobId workerId) index := by
      intro index recorded
      obtain ⟨count, lost⟩ := validation_is_lost jobExecutor (restarted text newV5 config
        jobExecutor jobId workerId sagas tables moments later) quiet alone rfl stored listed
      have validated := crash_validated implemented unrecorded tables moments later
        ⟨index, recorded⟩
      have kept := keeps count ⟨index, recorded⟩ _ _ validated
      rw [lost] at kept
      cases kept
    refine ⟨fresh, ?_⟩
    obtain ⟨-, only⟩ := rerun_dispatches implemented fresh rfl stored listed quiet alone False
      False.elim
    exact (only workerId (dispatches (fresh 2)).1).2
  · rintro ⟨fresh, ready⟩
    obtain ⟨dispatched, only⟩ := rerun_dispatches implemented fresh rfl stored listed quiet alone
      True fun _ => ready
    refine ⟨fun _ => ⟨dispatched trivial, fun other member => (only other member).1⟩, ?_⟩
    rintro count ⟨index, recorded⟩
    exact absurd recorded (fresh index)

end Calls

/-! ## A process that ends after the assignment -/

def quietMoment : Moment := ⟨.quiet .quiet, quietEnv, fun _ _ => none, id⟩

theorem quiet_moment_quiet (sagaId : SagaId) : QuietMoment {} sagaId quietMoment :=
  ⟨rfl, fun _ _ => rfl, fun _ => rfl, fun _ => Nat.zero_le _, fun _ => rfl, fun _ => rfl⟩

/-- A pending job and a ready worker. -/
def pendingTables : Tables := sampleTables (sampleJob .pending) (sampleWorker none)

def sampleDispatch : Program Call Call.Reply (Except ExecutionSagaError SagaExecutionResult) :=
  executeExecutionSaga sampleText (fun _ => 9) {} (some jobExecutorImpl) ⟨1⟩ ⟨2⟩

/-- The process ends after this many calls, and nobody else changes anything. -/
def stoppedAfter (count : Nat) : World :=
  restarted sampleText (fun _ => 9) {} (some jobExecutorImpl) ⟨1⟩ ⟨2⟩ .empty pendingTables
    (List.replicate count quietMoment)
    (crash handleCall sampleDispatch (List.replicate count quietMoment)
      ⟨.empty, pendingTables, []⟩).tables

/-- A process that ends after the initial save is resumed. -/
theorem initial_save_is_resumed :
    (stoppedAfter 7).sagas.store.sagas.length = 1 ∧
      Resumes sampleText (fun _ => 9) {} (some jobExecutorImpl) ⟨1⟩ ⟨2⟩ quietMoment
        (stoppedAfter 7) := by
  have implemented : ∀ executor ∈ some jobExecutorImpl, executor = jobExecutorImpl := by
    intro executor member
    exact (Option.mem_some_iff.mp member).symm
  have empty : ∀ (sagaId : SagaId) (index : Nat),
      ¬RecordedCompleted Sagas.World.empty.store sagaId index := by
    rintro sagaId index ⟨row, member, -⟩
    cases member
  refine ⟨by decide, ?_⟩
  refine (rerun_resumes_iff implemented (empty _) pendingTables _ _ (sampleJob .pending)
    (sampleWorker none) rfl rfl (quiet_moment_quiet _) rfl).mpr ⟨?_, rfl, .inl rfl⟩
  rintro index ⟨row, member, -⟩
  cases member

/-- A process that ends after the second step was recorded: the command goes out for
another worker. -/
theorem assigned_worker_is_forgotten :
    (run (handleCall quietMoment) sampleDispatch (stoppedAfter 35)).2.executeJobWorkers = [⟨3⟩] ∧
      ¬Resumes sampleText (fun _ => 9) {} (some jobExecutorImpl) ⟨1⟩ ⟨2⟩ quietMoment
        (stoppedAfter 35) := by
  have elsewhere : (run (handleCall quietMoment) sampleDispatch
      (stoppedAfter 35)).2.executeJobWorkers = [⟨3⟩] := by decide
  refine ⟨elsewhere, ?_⟩
  rintro ⟨dispatches, -⟩
  have unrecorded : ¬RecordedCompleted (stoppedAfter 35).sagas.store ⟨9⟩ 2 := by
    have two : (stoppedAfter 35).sagas.store.steps.map Sagas.SagaStepDbRow.stepOrder = [0, 1] := by
      decide
    rintro ⟨row, member, -, order, -⟩
    have listed := List.mem_map_of_mem (f := Sagas.SagaStepDbRow.stepOrder) member
    rw [two, order] at listed
    revert listed
    decide
  have own : ⟨2⟩ ∈ (run (handleCall quietMoment) sampleDispatch
      (stoppedAfter 35)).2.executeJobWorkers := (dispatches unrecorded).1
  rw [elsewhere] at own
  revert own
  decide

end HodeiJobs.Dispatch
