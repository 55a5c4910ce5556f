import HodeiJobs.Execution.Saga

/-!
# What a finished execution leaves behind

The four steps when every call succeeds. `AssignWorkerHandler` makes the worker
busy without linking it to the job, and `CompleteJobHandler` releases the
worker that the registry links to the job, so the worker ends terminated
exactly when that link was there before.
-/

namespace HodeiJobs.Execution

open HodeiJobs.Library HodeiJobs.Library.Program HodeiJobs.Shared
open HodeiJobs.Sagas (DateTime SagaContext SagaServices)

/-- Every repository, registry and executor call succeeds. -/
def Quiet (env : Env) : Prop := ∀ site, env.fault site = none

variable {env : Env} {Failure : Type}

/-! ## Single calls -/

/-- A call that the environment answers from `site`, with `?` on its error. -/
theorem run_call_or {Value : Type} {site : CallSite} (clean : env.fault site = none)
    {value : Value} {tables after : Tables} {program : CallM Failure (Except DomainError Value)}
    (asks : exec (handle env) program tables =
      (.ok (env.answer site value tables after).1, (env.answer site value tables after).2))
    (mapErr : DomainError → Failure) :
    exec (handle env) (callOr program mapErr) tables = (.ok value, after) := by
  have answered : env.answer site value tables after = (.ok value, after) := by
    unfold Env.answer
    rw [clean]
  rw [answered] at asks
  unfold callOr
  rw [exec_bind_ok _ _ _ asks]
  rfl

theorem run_ok_or {Value : Type} {found : Option Value} {value : Value} {failure : Failure}
    (tables : Tables) (present : found = some value) :
    exec (handle env) (okOr found failure) tables = (.ok value, tables) := by
  rw [present]
  rfl

section Calls

variable {site : CallSite} (clean : env.fault site = none) (mapErr : DomainError → Failure)
  (tables : Tables)

include clean

theorem run_find_job (jobId : JobId) :
    exec (handle env) (callOr (call (.findJob site jobId)) mapErr) tables =
      (.ok (tables.jobs.find jobId), tables) :=
  run_call_or clean rfl mapErr

theorem run_update_job (job : Job) :
    exec (handle env) (callOr (call (.updateJob site job)) mapErr) tables =
      (.ok (), tables.saveJob job) :=
  run_call_or clean rfl mapErr

theorem run_update_job_state (jobId : JobId) (state : JobState) :
    exec (handle env) (callOr (call (.updateJobState site jobId state)) mapErr) tables =
      (.ok (), tables.updateJobState jobId state) :=
  run_call_or clean rfl mapErr

theorem run_find_worker (workerId : WorkerId) :
    exec (handle env) (callOr (call (.findWorker site workerId)) mapErr) tables =
      (.ok (tables.workers.find workerId), tables) :=
  run_call_or clean rfl mapErr

theorem run_update_worker_state (workerId : WorkerId) (state : WorkerState) :
    exec (handle env) (callOr (call (.updateWorkerState site workerId state)) mapErr) tables =
      (.ok (), tables.updateWorkerState env.now workerId state) :=
  run_call_or clean rfl mapErr

end Calls

theorem run_send_run_job (clean : env.fault .executorSendRunJob = none)
    (mapErr : DomainError → Failure) (tables : Tables) (workerId : WorkerId) (job : Job) :
    exec (handle env) (callOr (call (.sendRunJob workerId job)) mapErr) tables = (.ok (), tables) :=
  run_call_or clean rfl mapErr

theorem run_insert_job_started (clean : env.fault .executorInsertEvents = none)
    (mapErr : DomainError → Failure) (tables : Tables) (jobId : JobId) (workerId : WorkerId) :
    exec (handle env) (callOr (call (.insertJobStarted jobId workerId)) mapErr) tables =
      (.ok (), tables) :=
  run_call_or clean rfl mapErr

/-! ## The handlers -/

section Handlers

variable {tables : Tables} {job : Job} {worker : Worker}

/-- The job is stored, and the worker for it is ready or busy. -/
structure Assignable (tables : Tables) (job : Job) (worker : Worker) : Prop where
  stored : tables.jobs.find job.id = some job
  registered : tables.workers.find worker.id = some worker
  available : worker.state = .ready ∨ worker.state = .busy

/-- The pre-assigned worker is taken when it is ready or busy. -/
theorem run_select_worker (clean : env.fault .assignFindWorker = none)
    (assignable : Assignable tables job worker) :
    exec (handle env) (selectWorker ⟨job.id, some worker.id⟩) tables =
      (.ok (some worker.id), tables) := by
  have accepted : ¬(worker.state ≠ .ready ∧ worker.state ≠ .busy) := by
    intro neither
    rcases assignable.available with ready | busy
    · exact neither.1 ready
    · exact neither.2 busy
  unfold selectWorker
  rw [exec_bind_ok _ _ _ (run_find_worker clean _ tables worker.id),
    exec_bind_ok _ _ _ (run_ok_or tables assignable.registered), if_neg accepted]
  rfl

/-- The tables after an assignment. -/
def afterAssignment (env : Env) (tables : Tables) (job : Job) (workerId : WorkerId) : Tables :=
  (tables.saveJob { job with state := .assigned }).updateWorkerState env.now workerId .busy

theorem find_job_after_assignment (workerId : WorkerId) :
    (afterAssignment env tables job workerId).jobs.find job.id =
      some { job with state := .assigned } :=
  Tables.find_job_save tables { job with state := .assigned }

theorem find_worker_after_assignment (env : Env) (job : Job)
    (registered : tables.workers.find worker.id = some worker) :
    (afterAssignment env tables job worker.id).workers.find worker.id =
      some { worker with state := .busy, updatedAt := env.now } := by
  unfold afterAssignment
  rw [Tables.find_worker_update_state, if_pos rfl, Tables.save_job_workers, registered]
  rfl

theorem set_state_assigned (pending : job.state = .pending) :
    job.setState .assigned = .ok { job with state := .assigned } := by
  unfold Job.setState
  rw [if_pos ((JobState.can_transition_to_assigned_iff job.state).mpr pending)]

theorem run_assign_worker_handler (quiet : Quiet env) (assignable : Assignable tables job worker)
    (pending : job.state = .pending) :
    exec (handle env) (assignWorkerHandler ⟨job.id, some worker.id⟩) tables =
      (.ok ⟨true, some worker.id, some .busy, none⟩,
        afterAssignment env tables job worker.id) := by
  have busy := find_worker_after_assignment env job assignable.registered
  unfold afterAssignment at busy ⊢
  unfold assignWorkerHandler
  rw [exec_bind_ok _ _ _ (run_select_worker (quiet _) assignable)]
  dsimp only
  rw [exec_bind_ok _ _ _ (run_find_job (quiet _) _ tables job.id),
    exec_bind_ok _ _ _ (run_ok_or tables assignable.stored), set_state_assigned pending]
  dsimp only
  rw [exec_bind_ok _ _ _ (run_update_job (quiet _) _ tables _),
    exec_bind_ok _ _ _ (run_update_worker_state (quiet _) _ _ worker.id .busy),
    exec_bind_ok _ _ _ (run_find_worker (quiet _) _ _ worker.id),
    exec_bind_ok _ _ _ (run_ok_or _ busy)]
  rfl

/-- Only a pending job can be assigned. -/
theorem run_assign_worker_handler_refused (quiet : Quiet env)
    (assignable : Assignable tables job worker) (notPending : job.state ≠ .pending) :
    exec (handle env) (assignWorkerHandler ⟨job.id, some worker.id⟩) tables =
      (.error (.assignmentFailed job.id (.invalidStateTransition job.id job.state .assigned)),
        tables) := by
  have refused : job.setState .assigned =
      .error (.invalidStateTransition job.id job.state .assigned) := by
    unfold Job.setState
    rw [if_neg]
    intro allowed
    exact notPending ((JobState.can_transition_to_assigned_iff job.state).mp allowed)
  unfold assignWorkerHandler
  rw [exec_bind_ok _ _ _ (run_select_worker (quiet _) assignable)]
  dsimp only
  rw [exec_bind_ok _ _ _ (run_find_job (quiet _) _ tables job.id),
    exec_bind_ok _ _ _ (run_ok_or tables assignable.stored), refused]
  rfl

/-- An executor that stores an assigned job as running and leaves the workers
alone. -/
def RecordsRunning (env : Env) (executor : JobExecutor) : Prop :=
  ∀ (tables : Tables) (job : Job) (workerId : WorkerId),
    tables.jobs.find job.id = some job → job.state = .assigned →
    ∃ after running,
      exec (handle env) (executor.executeJob job.id workerId) tables = (.ok (), after) ∧
      after.workers = tables.workers ∧ after.jobs.find job.id = some running ∧
      running.state = .running

theorem job_executor_impl_records_running (quiet : Quiet env) :
    RecordsRunning env jobExecutorImpl := by
  intro tables job workerId stored assigned
  let running := { job with state := .running, startedAt := some env.now }
  refine ⟨tables.saveJob running, running, ?_, rfl, Tables.find_job_save tables running, rfl⟩
  have runs : job.markRunning env.now =
      .ok { job with state := .running, startedAt := some env.now } := by
    unfold Job.markRunning
    rw [assigned]
    rfl
  have clock : exec (handle env) (call .now : CallM ExecuteJobError DateTime) tables =
      (.ok env.now, tables) := rfl
  unfold jobExecutorImpl
  dsimp only
  rw [exec_bind_ok _ _ _ (run_find_job (quiet _) _ tables job.id),
    exec_bind_ok _ _ _ (run_ok_or tables stored),
    exec_bind_ok _ _ _ (run_send_run_job (quiet _) _ tables workerId job),
    exec_bind_ok _ _ _ clock, runs]
  dsimp only
  rw [exec_bind_ok _ _ _ (run_update_job (quiet _) _ tables _), run_insert_job_started (quiet _)]

/-- With or without an executor, an assigned job is stored as running. -/
theorem run_execute_job_handler (quiet : Quiet env) {jobExecutor : Option JobExecutor}
    (records : ∀ executor ∈ jobExecutor, RecordsRunning env executor)
    (stored : tables.jobs.find job.id = some job) (assigned : job.state = .assigned)
    (registered : tables.workers.find worker.id = some worker) :
    ∃ after running,
      exec (handle env) (executeJobHandler jobExecutor ⟨job.id, worker.id⟩) tables =
        (.ok ⟨true, .running, none⟩, after) ∧
      after.workers = tables.workers ∧ after.jobs.find job.id = some running ∧
      running.state = .running := by
  unfold executeJobHandler
  rw [exec_bind_ok _ _ _ (run_find_job (quiet _) _ tables job.id),
    exec_bind_ok _ _ _ (run_ok_or tables stored),
    exec_bind_ok _ _ _ (run_find_worker (quiet _) _ tables worker.id),
    exec_bind_ok _ _ _ (run_ok_or tables registered)]
  cases jobExecutor with
  | some executor =>
      obtain ⟨after, running, executed, workers, found, runs⟩ :=
        records executor rfl tables job worker.id stored assigned
      refine ⟨after, running, ?_, workers, found, runs⟩
      dsimp only
      rw [exec_bind_ok _ _ _ executed]
      rfl
  | none =>
      refine ⟨tables.updateJobState job.id .running, { job with state := .running }, ?_, rfl, ?_,
        rfl⟩
      · dsimp only
        rw [exec_bind_ok _ _ _ (run_update_job_state (quiet _) _ tables job.id .running)]
        rfl
      · rw [Tables.find_job_update_state, stored]
        rfl

/-- The worker that the registry links to the job is terminated. -/
theorem run_release_worker (quiet : Quiet env) (jobId : JobId) :
    exec (handle env) (releaseWorker jobId .succeeded) tables =
      (.ok (), match tables.getByJobId jobId with
        | some released => tables.updateWorkerState env.now released.id .terminated
        | none => tables) := by
  have answered : env.answer .completeFindWorker (tables.getByJobId jobId) tables tables =
      (.ok (tables.getByJobId jobId), tables) := by
    unfold Env.answer
    rw [quiet]
  have asked : exec (handle env) (call (.getByJobId .completeFindWorker jobId) :
      CallM CompleteJobError (Except DomainError (Option Worker))) tables =
      (.ok (.ok (tables.getByJobId jobId)), tables) :=
    congrArg (fun reply => (Except.ok reply.1, reply.2)) answered
  have terminal : JobState.succeeded.isTerminal = true := rfl
  unfold releaseWorker
  rw [if_pos terminal, exec_bind_ok _ _ _ asked]
  cases tables.getByJobId jobId with
  | none => rfl
  | some released => exact run_update_worker_state (quiet _) _ tables released.id .terminated

theorem run_complete_job_handler (quiet : Quiet env) {jobId : JobId}
    (stored : tables.jobs.find jobId = some job) (running : job.state = .running) :
    exec (handle env) (completeJobHandler ⟨jobId, .succeeded⟩) tables =
      (.ok ⟨true, .succeeded⟩,
        match tables.getByJobId jobId with
        | some released => (tables.updateJobState jobId .succeeded).updateWorkerState env.now
            released.id .terminated
        | none => tables.updateJobState jobId .succeeded) := by
  have allowed : job.state.canTransitionTo .succeeded = true := by
    rw [running]
    rfl
  unfold completeJobHandler
  rw [exec_bind_ok _ _ _ (run_find_job (quiet _) _ tables jobId),
    exec_bind_ok _ _ _ (run_ok_or tables stored), if_pos allowed,
    exec_bind_ok _ _ _ (run_update_job_state (quiet _) _ tables jobId .succeeded),
    exec_bind_ok _ _ _ (run_release_worker quiet jobId)]
  rfl

end Handlers

/-! ## The steps -/

section Steps

variable (text : RustText) {tables : Tables} {job : Job} {worker : Worker} {context : SagaContext}

theorem run_require_command_bus (injected : context.services = some ⟨true, true⟩)
    (step : String) (willCompensate : Bool) :
    exec (handle env) (requireCommandBus step willCompensate context) tables =
      (.ok (), tables) := by
  unfold requireCommandBus
  rw [exec_bind_ok _ _ _ (run_ok_or tables injected)]
  rfl

/-- Dispatching a command runs its handler. -/
theorem run_dispatch {Result : Type} {handler : CallM Failure Result} {result : Result}
    {after : Tables} (handled : exec (handle env) handler tables = (.ok result, after))
    (step command : String) (willCompensate : Bool) (debug : Failure → String) :
    exec (handle env) (dispatch step command willCompensate debug handler) tables =
      (.ok result, after) := by
  unfold dispatch
  rw [exec_adapt, handled]
  rfl

theorem run_validate_job_step (clean : env.fault .validateFindJob = none)
    (injected : context.services = some ⟨true, true⟩)
    (fresh : hasFlag context "job_validated" = false)
    (stored : tables.jobs.find job.id = some job) (valid : job.state ∈ validStates) :
    exec (handle env) (validateJobStep text job.id context) tables =
      (.ok (markValidated text job.id job.state context), tables) := by
  unfold validateJobStep
  have repository : (⟨true, true⟩ : SagaServices).hasJobRepository = true := rfl
  rw [exec_bind_ok _ _ _ (run_ok_or tables injected), if_pos repository, fresh,
    if_neg Bool.false_ne_true, exec_bind_ok _ _ _ (run_find_job clean _ tables job.id),
    exec_bind_ok _ _ _ (run_ok_or tables stored), if_pos valid]
  rfl

theorem run_assign_worker_step (quiet : Quiet env)
    (injected : context.services = some ⟨true, true⟩)
    (fresh : hasFlag context "worker_assignment_done" = false)
    (assignable : Assignable tables job worker) (pending : job.state = .pending) :
    exec (handle env) (assignWorkerStep text job.id (some worker.id) context) tables =
      (.ok (markAssigned text worker.id context), afterAssignment env tables job worker.id) := by
  have assigned := run_assign_worker_handler quiet assignable pending
  unfold assignWorkerStep
  rw [exec_bind_ok _ _ _ (run_require_command_bus injected _ _), fresh,
    if_neg Bool.false_ne_true, exec_bind_ok _ _ _ (run_dispatch assigned _ _ _ _)]
  rfl

/-- A job that is not pending stops the saga at its second step. -/
theorem run_assign_worker_step_refused (quiet : Quiet env)
    (injected : context.services = some ⟨true, true⟩)
    (fresh : hasFlag context "worker_assignment_done" = false)
    (assignable : Assignable tables job worker) (notPending : job.state ≠ .pending) :
    ∃ failure, exec (handle env) (assignWorkerStep text job.id (some worker.id) context) tables =
      (.error failure, tables) := by
  have refused := run_assign_worker_handler_refused quiet assignable notPending
  unfold assignWorkerStep
  rw [exec_bind_ok _ _ _ (run_require_command_bus injected _ _), fresh,
    if_neg Bool.false_ne_true, exec_bind]
  unfold dispatch
  rw [exec_adapt, refused]
  exact ⟨_, rfl⟩

theorem run_execute_job_step (quiet : Quiet env)
    (injected : context.services = some ⟨true, true⟩)
    (fresh : hasFlag context "job_execution_started" = false)
    (named : textMetadata context "execution_worker_id" = some (text.display worker.id.uuid))
    {jobExecutor : Option JobExecutor}
    (records : ∀ executor ∈ jobExecutor, RecordsRunning env executor)
    (stored : tables.jobs.find job.id = some job) (assigned : job.state = .assigned)
    (registered : tables.workers.find worker.id = some worker) :
    ∃ after running,
      exec (handle env) (executeJobStep text jobExecutor job.id context) tables =
        (.ok (markStarted text env.now context), after) ∧
      after.workers = tables.workers ∧ after.jobs.find job.id = some running ∧
      running.state = .running := by
  obtain ⟨after, running, handled, workers, found, state⟩ :=
    run_execute_job_handler quiet records stored assigned registered
  refine ⟨after, running, ?_, workers, found, state⟩
  have parsed : exec (handle env) (parseWorkerId text
      ((textMetadata context "execution_worker_id").getD "unknown")) tables =
      (.ok worker.id, tables) := by
    rw [named, Option.getD_some]
    unfold parseWorkerId
    rw [text.parse_display]
    rfl
  unfold executeJobStep
  rw [exec_bind_ok _ _ _ (run_require_command_bus injected _ _), fresh,
    if_neg Bool.false_ne_true, exec_bind_ok _ _ _ parsed,
    exec_bind_ok _ _ _ (run_dispatch handled _ _ _ _)]
  rfl

theorem run_complete_job_step (quiet : Quiet env)
    (injected : context.services = some ⟨true, true⟩)
    (fresh : hasFlag context "job_execution_completed" = false)
    {jobId : JobId} (stored : tables.jobs.find jobId = some job) (running : job.state = .running) :
    exec (handle env) (completeJobStep text jobId context) tables =
      (.ok (markCompleted text env.now context),
        match tables.getByJobId jobId with
        | some released => (tables.updateJobState jobId .succeeded).updateWorkerState env.now
            released.id .terminated
        | none => tables.updateJobState jobId .succeeded) := by
  unfold completeJobStep
  rw [exec_bind_ok _ _ _ (run_require_command_bus injected _ _), fresh,
    if_neg Bool.false_ne_true,
    exec_bind_ok _ _ _ (run_dispatch (run_complete_job_handler quiet stored running) _ _ _ _)]
  rfl

end Steps

/-! ## The saga -/

/-- A context as the saga starts with: no metadata, all services injected. -/
structure FreshContext (context : SagaContext) : Prop where
  metadata : context.metadata = []
  services : context.services = some ⟨true, true⟩

/-- Every step returns `Ok`, the job is stored succeeded and the worker is
terminated. -/
def FinishesAndReleases (env : Env) (text : RustText) (jobExecutor : Option JobExecutor)
    (jobId : JobId) (workerId : WorkerId) (context : SagaContext) (tables : Tables) : Prop :=
  ∃ final after, exec (handle env)
      ((ExecutionSaga.withWorker jobId workerId).executeSteps text jobExecutor context) tables =
        (.ok final, after) ∧
    (after.jobs.find jobId).map Job.state = some .succeeded ∧
    (after.workers.find workerId).map Worker.state = some .terminated

section Saga

variable (text : RustText) {tables : Tables} {job : Job} {worker : Worker} {context : SagaContext}

theorem fresh_has_flag (fresh : FreshContext context) (key : String) :
    hasFlag context key = false := by
  unfold hasFlag SagaContext.getMetadata
  rw [fresh.metadata]
  rfl

theorem unassigned_of_fresh (fresh : FreshContext context) (jobId : JobId) (state : JobState) :
    hasFlag (markValidated text jobId state context) "worker_assignment_done" = false := by
  unfold markValidated
  rw [has_flag_set_other _ _ (by decide), has_flag_set_other _ _ (by decide),
    has_flag_set_other _ _ (by decide), fresh_has_flag fresh]

theorem services_mark_validated (fresh : FreshContext context) (jobId : JobId)
    (state : JobState) :
    (markValidated text jobId state context).services = some ⟨true, true⟩ := fresh.services

/-- What the first two steps leave in the context for the last two. -/
structure Prepared (text : RustText) (workerId : WorkerId) (context : SagaContext) : Prop where
  services : context.services = some ⟨true, true⟩
  worker : textMetadata context "execution_worker_id" = some (text.display workerId.uuid)
  notStarted : hasFlag context "job_execution_started" = false
  notCompleted : hasFlag context "job_execution_completed" = false

theorem prepared_of_fresh (fresh : FreshContext context) (jobId : JobId) (state : JobState)
    (workerId : WorkerId) :
    Prepared text workerId
      (markAssigned text workerId (markValidated text jobId state context)) := by
  have kept : ∀ key, key ∉ ["execution_original_state", "execution_job_id", "job_validated",
      "execution_worker_id", "worker_assignment_done"] →
      hasFlag (markAssigned text workerId (markValidated text jobId state context)) key =
        false := by
    intro key other
    simp only [List.mem_cons, List.not_mem_nil, or_false, not_or] at other
    unfold markAssigned markValidated
    rw [has_flag_set_other _ _ other.2.2.2.2, has_flag_set_other _ _ other.2.2.2.1,
      has_flag_set_other _ _ other.2.2.1, has_flag_set_other _ _ other.2.1,
      has_flag_set_other _ _ other.1, fresh_has_flag fresh]
  exact ⟨fresh.services, text_metadata_mark_assigned text workerId _, kept _ (by decide),
    kept _ (by decide)⟩

/-- The last two steps release the worker that the registry links to the job. -/
theorem run_last_steps (job : Job) (worker : Worker) (quiet : Quiet env)
    {jobExecutor : Option JobExecutor}
    (records : ∀ executor ∈ jobExecutor, RecordsRunning env executor)
    (prepared : Prepared text worker.id context)
    (stored : tables.jobs.find job.id = some job) (assigned : job.state = .assigned)
    (registered : tables.workers.find worker.id = some worker) :
    ∃ final after, exec (handle env) (do
        let context ← executeJobStep text jobExecutor job.id context
        completeJobStep text job.id context) tables = (.ok final, after) ∧
      (after.jobs.find job.id).map Job.state = some .succeeded ∧
      (after.workers.find worker.id).map Worker.state =
        some (if (tables.getByJobId job.id).map Worker.id = some worker.id then .terminated
          else worker.state) := by
  obtain ⟨dispatched, running, executes, workers, runningJob, runs⟩ := run_execute_job_step text
    quiet prepared.services prepared.notStarted prepared.worker records stored assigned
    registered
  have notCompleted : hasFlag (markStarted text env.now context) "job_execution_completed" =
      false := by
    unfold markStarted
    rw [has_flag_set_other _ _ (by decide), has_flag_set_other _ _ (by decide),
      prepared.notCompleted]
  have started : (markStarted text env.now context).services = some ⟨true, true⟩ :=
    prepared.services
  have completes := run_complete_job_step text quiet started notCompleted runningJob runs
  have succeeded : ((dispatched.updateJobState job.id .succeeded).jobs.find job.id).map Job.state =
      some .succeeded := by
    rw [Tables.find_job_update_state, runningJob]
    rfl
  have links : dispatched.getByJobId job.id = tables.getByJobId job.id := by
    unfold Tables.getByJobId
    rw [workers]
  rw [links] at completes
  rw [exec_bind_ok _ _ _ executes]
  cases linked : tables.getByJobId job.id with
  | none =>
      rw [linked] at completes
      refine ⟨_, _, completes, succeeded, ?_⟩
      rw [Tables.update_job_state_workers, workers, registered]
      rfl
  | some released =>
      rw [linked] at completes
      refine ⟨_, _, completes, succeeded, ?_⟩
      rw [Tables.find_worker_update_state, Tables.update_job_state_workers, workers, registered]
      by_cases same : worker.id = released.id
      · have own : Option.map Worker.id (some released) = some worker.id :=
          congrArg some same.symm
        rw [if_pos same, if_pos own]
        rfl
      · have other : ¬Option.map Worker.id (some released) = some worker.id := by
          intro equal
          exact same (Option.some.inj equal).symm
        rw [if_neg same, if_neg other]
        rfl

/-- A pending job goes through all four steps, and the worker ends terminated if
the registry linked it to the job and busy if not. -/
theorem run_pending_saga (job : Job) (worker : Worker) (quiet : Quiet env)
    {jobExecutor : Option JobExecutor}
    (records : ∀ executor ∈ jobExecutor, RecordsRunning env executor)
    (fresh : FreshContext context) (assignable : Assignable tables job worker)
    (pending : job.state = .pending) :
    ∃ final after, exec (handle env) ((ExecutionSaga.withWorker job.id worker.id).executeSteps text
        jobExecutor context) tables = (.ok final, after) ∧
      (after.jobs.find job.id).map Job.state = some .succeeded ∧
      (after.workers.find worker.id).map Worker.state =
        some (if (tables.getByJobId job.id).map Worker.id = some worker.id then .terminated
          else .busy) := by
  have valid : job.state ∈ validStates := by
    rw [pending]
    decide
  have unassigned := unassigned_of_fresh text fresh job.id job.state
  have validates := run_validate_job_step text (quiet _) fresh.services
    (fresh_has_flag fresh "job_validated") assignable.stored valid
  have assigns := run_assign_worker_step text quiet
    (services_mark_validated text fresh job.id job.state) unassigned assignable pending
  obtain ⟨final, after, rest, succeeded, released⟩ := run_last_steps text
    { job with state := .assigned } { worker with state := .busy, updatedAt := env.now } quiet
    records (prepared_of_fresh text fresh job.id job.state worker.id)
    (find_job_after_assignment worker.id) rfl
    (find_worker_after_assignment env job assignable.registered)
  unfold afterAssignment at released
  rw [Tables.get_by_job_id_update_state] at released
  refine ⟨final, after, ?_, succeeded, released⟩
  unfold ExecutionSaga.executeSteps ExecutionSaga.withWorker
  rw [exec_bind_ok _ _ _ validates, exec_bind_ok _ _ _ assigns]
  exact rest

/-- A job in any other state stops the saga. -/
theorem run_refused_saga (job : Job) (worker : Worker) (quiet : Quiet env)
    (jobExecutor : Option JobExecutor)
    (fresh : FreshContext context) (assignable : Assignable tables job worker)
    (valid : job.state ∈ validStates) (notPending : job.state ≠ .pending) :
    ∃ failure, exec (handle env) ((ExecutionSaga.withWorker job.id worker.id).executeSteps text
      jobExecutor context) tables = (.error failure, tables) := by
  have unassigned := unassigned_of_fresh text fresh job.id job.state
  have validates := run_validate_job_step text (quiet _) fresh.services
    (fresh_has_flag fresh "job_validated") assignable.stored valid
  obtain ⟨failure, refused⟩ := run_assign_worker_step_refused text quiet
    (services_mark_validated text fresh job.id job.state) unassigned assignable notPending
  refine ⟨failure, ?_⟩
  unfold ExecutionSaga.executeSteps ExecutionSaga.withWorker
  rw [exec_bind_ok _ _ _ validates, exec_bind_error _ _ _ refused]

/-- With every call succeeding, the saga finishes the job and releases its worker
exactly when the job was pending and the registry already linked the worker to
it. -/
theorem execution_saga_releases_iff (job : Job) (worker : Worker) (quiet : Quiet env)
    {jobExecutor : Option JobExecutor}
    (records : ∀ executor ∈ jobExecutor, RecordsRunning env executor)
    (fresh : FreshContext context) (stored : tables.jobs.find job.id = some job)
    (valid : job.state ∈ validStates)
    (registered : tables.workers.find worker.id = some worker)
    (usable : worker.state = .ready ∨
      worker.state = .busy ∧ worker.currentJobId = some job.id) :
    FinishesAndReleases env text jobExecutor job.id worker.id context tables ↔
      job.state = .pending ∧ tables.getByJobId job.id = some worker := by
  have assignable : Assignable tables job worker :=
    ⟨stored, registered, usable.imp id And.left⟩
  have linked := Tables.get_by_job_id_eq_some_iff registered job.id
  by_cases pending : job.state = .pending
  · obtain ⟨final, after, finishes, succeeded, left⟩ := run_pending_saga text job worker quiet
      records fresh assignable pending
    constructor
    · intro released
      obtain ⟨otherFinal, otherAfter, otherFinishes, -, terminated⟩ := released
      rw [finishes] at otherFinishes
      obtain rfl := (Prod.mk.inj otherFinishes).2
      rw [left] at terminated
      refine ⟨pending, linked.mp ?_⟩
      by_contra unlinked
      rw [if_neg unlinked] at terminated
      cases terminated
    · intro condition
      rw [if_pos (linked.mpr condition.2)] at left
      exact ⟨final, after, finishes, succeeded, left⟩
  · obtain ⟨failure, refused⟩ := run_refused_saga text job worker quiet jobExecutor
      fresh assignable valid pending
    constructor
    · intro released
      obtain ⟨final, after, finishes, -⟩ := released
      rw [refused] at finishes
      cases (Prod.mk.inj finishes).1
    · intro condition
      exact absurd condition.1 pending

end Saga

/-! ## One job and one worker -/

def quietEnv : Env := ⟨fun _ => none, 0, 3⟩

theorem quiet_env_quiet : Quiet quietEnv := fun _ => rfl

def firstUuid : String := "00000000-0000-0000-0000-000000000001"

def secondUuid : String := "00000000-0000-0000-0000-000000000002"

theorem zeros_ne_hyphenated {text : String} (hyphen : '-' ∈ text.toList) (count : Nat) :
    String.ofList (List.replicate count '0') ≠ text := by
  intro same
  rw [← same, String.toList_ofList] at hyphen
  exact absurd (List.eq_of_mem_replicate hyphen) (by decide)

/-- The usual text of two ids, and zeros for the rest. -/
def sampleText : RustText where
  display id := if id = 1 then firstUuid else if id = 2 then secondUuid
    else String.ofList (List.replicate (id + 1) '0')
  parse value := if value = firstUuid then some 1 else if value = secondUuid then some 2
    else if value ≠ "" ∧ value.toList.all (· = '0') then some (value.length - 1) else none
  parse_display id := by
    have zeros : String.ofList (List.replicate (id + 1) '0') ≠ "" ∧
        (String.ofList (List.replicate (id + 1) '0')).toList.all (· = '0') = true := by
      constructor
      · intro same
        have length := congrArg String.length same
        rw [String.length_ofList, List.length_replicate] at length
        exact Nat.succ_ne_zero id length
      · rw [String.toList_ofList, List.all_eq_true]
        exact fun c member => decide_eq_true (List.eq_of_mem_replicate member)
    by_cases first : id = 1
    · rw [if_pos first, if_pos rfl, first]
    · by_cases second : id = 2
      · rw [if_neg first, if_pos second, if_neg (by decide), if_pos rfl, second]
      · rw [if_neg first, if_neg second, if_neg (zeros_ne_hyphenated (by decide) (id + 1)),
          if_neg (zeros_ne_hyphenated (by decide) (id + 1)), if_pos zeros, String.length_ofList,
          List.length_replicate, Nat.add_sub_cancel]
  strDebug value := "\"" ++ value ++ "\""
  rfc3339 _ := "1970-01-01T00:00:00+00:00"

def sampleContext : SagaContext :=
  { SagaContext.new ⟨3⟩ .execution none none 0 with services := some ⟨true, true⟩ }

theorem sample_context_fresh : FreshContext sampleContext := ⟨rfl, rfl⟩

def sampleJob (state : JobState) : Job := ⟨⟨1⟩, state, none, none, none, none, 0⟩

def sampleWorker (currentJobId : Option JobId) : Worker := ⟨⟨2⟩, .ready, currentJobId, none, 0, 0⟩

def sampleTables (job : Job) (worker : Worker) : Tables where
  jobs := ⟨[job], List.nodup_singleton _⟩
  jobQueue := if job.state = .pending then [job.id] else []
  workers := ⟨[worker], List.nodup_singleton _⟩

theorem sample_executor_records :
    ∀ executor ∈ some jobExecutorImpl, RecordsRunning quietEnv executor := by
  intro executor member
  rw [← Option.mem_some_iff.mp member]
  exact job_executor_impl_records_running quiet_env_quiet

theorem linked_worker_is_released :
    FinishesAndReleases quietEnv sampleText (some jobExecutorImpl) ⟨1⟩ ⟨2⟩ sampleContext
      (sampleTables (sampleJob .pending) (sampleWorker (some ⟨1⟩))) := by
  exact (execution_saga_releases_iff sampleText (sampleJob .pending) (sampleWorker (some ⟨1⟩))
    quiet_env_quiet sample_executor_records sample_context_fresh rfl (by decide) rfl
    (.inl rfl)).mpr ⟨rfl, rfl⟩

/-- A pending job and a ready worker: the job succeeds and its worker stays busy.
An assigned job does not even reach the third step. -/
theorem ready_worker_is_left_busy :
    (∃ final after, exec (handle quietEnv) ((ExecutionSaga.withWorker ⟨1⟩ ⟨2⟩).executeSteps
        sampleText (some jobExecutorImpl) sampleContext)
        (sampleTables (sampleJob .pending) (sampleWorker none)) = (.ok final, after) ∧
      (after.jobs.find ⟨1⟩).map Job.state = some .succeeded ∧
      (after.workers.find ⟨2⟩).map Worker.state = some .busy) ∧
    ¬FinishesAndReleases quietEnv sampleText (some jobExecutorImpl) ⟨1⟩ ⟨2⟩ sampleContext
      (sampleTables (sampleJob .pending) (sampleWorker none)) ∧
    ∃ failure, exec (handle quietEnv) ((ExecutionSaga.withWorker ⟨1⟩ ⟨2⟩).executeSteps
        sampleText (some jobExecutorImpl) sampleContext)
        (sampleTables (sampleJob .assigned) (sampleWorker (some ⟨1⟩))) =
      (.error failure, sampleTables (sampleJob .assigned) (sampleWorker (some ⟨1⟩))) := by
  have assignable : Assignable (sampleTables (sampleJob .pending) (sampleWorker none))
      (sampleJob .pending) (sampleWorker none) := ⟨rfl, rfl, .inl rfl⟩
  have unlinked := run_pending_saga sampleText (sampleJob .pending) (sampleWorker none)
    quiet_env_quiet sample_executor_records sample_context_fresh assignable rfl
  refine ⟨unlinked, ?_, run_refused_saga sampleText (sampleJob .assigned)
    (sampleWorker (some ⟨1⟩)) quiet_env_quiet _ sample_context_fresh ⟨rfl, rfl, .inl rfl⟩
    (by decide) (by decide)⟩
  intro released
  obtain ⟨final, after, finishes, -, busy⟩ := unlinked
  obtain ⟨otherFinal, otherAfter, otherFinishes, -, terminated⟩ := released
  have same := (Prod.mk.inj (finishes.symm.trans otherFinishes)).2
  rw [← same] at terminated
  cases busy.symm.trans terminated

end HodeiJobs.Execution
