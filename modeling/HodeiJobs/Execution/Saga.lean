import HodeiJobs.Execution.Commands

/-!
# The execution saga

The four steps of `ExecutionSaga` and what their `execute()` does with the
context. The command bus is the one on which the handlers of
`saga/commands/execution.rs` are registered.
-/

namespace HodeiJobs.Execution

open HodeiJobs.Library HodeiJobs.Shared
open HodeiJobs.Sagas (DateTime Json JsonMap SagaContext SagaError SagaServices)

/-! ## Texts -/

/-- The texts that the standard library and `chrono` produce. -/
structure RustText extends UuidText where
  strDebug : String → String
  rfc3339 : DateTime → String

namespace RustText

variable (text : RustText)

def debugStruct (name : String) (fields : List (String × String)) : String :=
  name ++ " \x7b " ++ ", ".intercalate (fields.map fun field => field.1 ++ ": " ++ field.2) ++
    " \x7d"

def debugJobId (id : JobId) : String := "JobId(" ++ text.display id.uuid ++ ")"

def debugWorkerId (id : WorkerId) : String := "WorkerId(" ++ text.display id.uuid ++ ")"

def displayDomainError : DomainError → String
  | .infrastructureError message => "Infrastructure error: " ++ message
  | .invalidStateTransition jobId fromState toState =>
      "Invalid job state transition from " ++ fromState.display ++ " to " ++ toState.display ++
        " for job " ++ text.display jobId.uuid

def debugDomainError : DomainError → String
  | .infrastructureError message =>
      debugStruct "InfrastructureError" [("message", text.strDebug message)]
  | .invalidStateTransition jobId fromState toState =>
      debugStruct "InvalidStateTransition" [("job_id", text.debugJobId jobId),
        ("from_state", fromState.debug), ("to_state", toState.debug)]

def debugAssignWorkerError : AssignWorkerError → String
  | .noAvailableWorkers jobId =>
      debugStruct "NoAvailableWorkers" [("job_id", text.debugJobId jobId)]
  | .assignmentFailed jobId source =>
      debugStruct "AssignmentFailed" [("job_id", text.debugJobId jobId),
        ("source", text.debugDomainError source)]
  | .workerNotFound workerId =>
      debugStruct "WorkerNotFound" [("worker_id", text.debugWorkerId workerId)]
  | .workerNotAvailable workerId state =>
      debugStruct "WorkerNotAvailable" [("worker_id", text.debugWorkerId workerId),
        ("state", state.debug)]

def debugExecuteJobError : ExecuteJobError → String
  | .jobNotFound jobId => debugStruct "JobNotFound" [("job_id", text.debugJobId jobId)]
  | .workerNotFound workerId =>
      debugStruct "WorkerNotFound" [("worker_id", text.debugWorkerId workerId)]
  | .executionFailed jobId source =>
      debugStruct "ExecutionFailed" [("job_id", text.debugJobId jobId),
        ("source", text.debugDomainError source)]

def debugCompleteJobError : CompleteJobError → String
  | .jobNotFound jobId => debugStruct "JobNotFound" [("job_id", text.debugJobId jobId)]
  | .invalidTransition jobId current desired =>
      debugStruct "InvalidTransition" [("job_id", text.debugJobId jobId),
        ("current", current.debug), ("desired", desired.debug)]
  | .completionFailed jobId source =>
      debugStruct "CompletionFailed" [("job_id", text.debugJobId jobId),
        ("source", text.debugDomainError source)]

end RustText

/-! ## Dispatch -/

/-- `dispatch_erased` of a command whose handler is registered, with the step's
`map_err` on its `CommandError::HandlerError`. -/
def dispatch {Failure Result : Type} (step command : String) (willCompensate : Bool)
    (debug : Failure → String) (handler : CallM Failure Result) : CallM SagaError Result :=
  ExceptT.adapt
    (fun error => .stepFailed step
      ("Failed to dispatch " ++ command ++ ": Handler error for " ++
        "hodei_server_domain::saga::commands::execution::" ++ command ++ ": " ++ debug error)
      willCompensate)
    handler

/-! ## Context metadata -/

/-- `if let Some(Ok(true)) = context.get_metadata::<bool>(key)`. -/
def hasFlag (context : SagaContext) (key : String) : Bool :=
  match context.getMetadata key with
  | some (.bool true) => true
  | _ => false

/-- `get_metadata::<String>(key).and_then(|r| r.ok())`. -/
def textMetadata (context : SagaContext) (key : String) : Option String :=
  match context.getMetadata key with
  | some (.string value) => some value
  | _ => none

theorem get_metadata_set_other (context : SagaContext) {key other : String} (value : Json)
    (different : other ≠ key) :
    (context.setMetadata key value).getMetadata other = context.getMetadata other :=
  JsonMap.get_insert_other context.metadata value different

theorem get_metadata_set_self (context : SagaContext) (key : String) (value : Json) :
    (context.setMetadata key value).getMetadata key = some value :=
  JsonMap.get_insert_self context.metadata key value

theorem has_flag_set_other (context : SagaContext) {key other : String} (value : Json)
    (different : other ≠ key) :
    hasFlag (context.setMetadata key value) other = hasFlag context other := by
  unfold hasFlag
  rw [get_metadata_set_other context value different]

def markValidated (text : RustText) (jobId : JobId) (state : JobState) (context : SagaContext) :
    SagaContext :=
  let context := context.setMetadata "execution_original_state" (.string state.debug)
  let context := context.setMetadata "execution_job_id" (.string (text.display jobId.uuid))
  context.setMetadata "job_validated" (.bool true)

def markAssigned (text : RustText) (workerId : WorkerId) (context : SagaContext) : SagaContext :=
  let context := context.setMetadata "execution_worker_id" (.string (text.display workerId.uuid))
  context.setMetadata "worker_assignment_done" (.bool true)

/-- The next step reads back the worker that was assigned. -/
theorem text_metadata_mark_assigned (text : RustText) (workerId : WorkerId)
    (context : SagaContext) :
    textMetadata (markAssigned text workerId context) "execution_worker_id" =
      some (text.display workerId.uuid) := by
  unfold textMetadata markAssigned
  rw [get_metadata_set_other _ _ (by decide), get_metadata_set_self]

def markStarted (text : RustText) (startedAt : DateTime) (context : SagaContext) : SagaContext :=
  let context := context.setMetadata "job_started_at" (.string (text.rfc3339 startedAt))
  context.setMetadata "job_execution_started" (.bool true)

def markCompleted (text : RustText) (completedAt : DateTime) (context : SagaContext) :
    SagaContext :=
  let context := context.setMetadata "job_completed_at" (.string (text.rfc3339 completedAt))
  let context := context.setMetadata "job_final_state" (.string JobState.succeeded.debug)
  context.setMetadata "job_execution_completed" (.bool true)

/-! ## Steps -/

abbrev StepM := CallM SagaError

/-- `context.services()…command_bus`, which three of the steps need. -/
def requireCommandBus (step : String) (willCompensate : Bool) (context : SagaContext) :
    StepM Unit := do
  let services ← okOr context.services
    (.stepFailed step "SagaServices not available in context" willCompensate)
  if services.hasCommandBus then return ()
  else throw (.stepFailed step "CommandBus not available in SagaServices" willCompensate)

def validStates : List JobState := [.pending, .running, .assigned, .scheduled]

def validateJobStep (text : RustText) (jobId : JobId) (context : SagaContext) :
    StepM SagaContext := do
  let failed := fun message => SagaError.stepFailed "ValidateJob" message false
  let services ← okOr context.services (failed "SagaServices not available in context")
  if services.hasJobRepository then
    if hasFlag context "job_validated" then return context
    else do
      let found ← callOr (call (.findJob .validateFindJob jobId)) fun error =>
        failed ("Failed to fetch job from repository: " ++ text.displayDomainError error)
      let job ← okOr found
        (failed ("Job " ++ text.display jobId.uuid ++ " not found in repository"))
      if job.state ∈ validStates then return markValidated text jobId job.state context
      else
        throw (failed ("Job " ++ text.display jobId.uuid ++ " is in state " ++ job.state.debug ++
          ", expected PENDING, ASSIGNED, SCHEDULED or RUNNING"))
  else throw (failed "JobRepository service not available")

def assignWorkerStep (text : RustText) (jobId : JobId) (workerId : Option WorkerId)
    (context : SagaContext) : StepM SagaContext := do
  requireCommandBus "AssignWorker" true context
  if hasFlag context "worker_assignment_done" then return context
  else do
    let result ← dispatch "AssignWorker" "AssignWorkerCommand" true text.debugAssignWorkerError
      (assignWorkerHandler ⟨jobId, workerId⟩)
    let assigned ← okOr result.workerId
      (.stepFailed "AssignWorker" "No worker assigned by command" true)
    return markAssigned text assigned context

/-- `WorkerId::from_string(&worker_id_str).unwrap_or_default()`. -/
def parseWorkerId (text : RustText) (value : String) : StepM WorkerId := do
  match text.parse value with
  | some uuid => return ⟨uuid⟩
  | none => do
      let uuid ← call .newV4
      return ⟨uuid⟩

def executeJobStep (text : RustText) (jobExecutor : Option JobExecutor) (jobId : JobId)
    (context : SagaContext) : StepM SagaContext := do
  requireCommandBus "ExecuteJob" true context
  if hasFlag context "job_execution_started" then return context
  else do
    let workerId ← parseWorkerId text
      ((textMetadata context "execution_worker_id").getD "unknown")
    let _ ← dispatch "ExecuteJob" "ExecuteJobCommand" true text.debugExecuteJobError
      (executeJobHandler jobExecutor ⟨jobId, workerId⟩)
    let startedAt ← call .now
    return markStarted text startedAt context

def completeJobStep (text : RustText) (jobId : JobId) (context : SagaContext) :
    StepM SagaContext := do
  requireCommandBus "CompleteJob" false context
  if hasFlag context "job_execution_completed" then return context
  else do
    let _ ← dispatch "CompleteJob" "CompleteJobCommand" false text.debugCompleteJobError
      (completeJobHandler ⟨jobId, .succeeded⟩)
    let completedAt ← call .now
    return markCompleted text completedAt context

/-! ## Compensations -/

/-- `job.set_state(target).ok()` and `update_with_tx(..).await.ok()` on a job
found in one of the states `from`. Neither failure is reported. -/
def revertJob (findSite updateSite : CallSite) (jobId : JobId) (revertible : List JobState)
    (target : JobState) : StepM Unit := do
  match ← call (.findJob findSite jobId) with
  | .ok (some job) =>
      if job.state ∈ revertible then do
        let _ ← call (.updateJob updateSite ((job.setState target).toOption.getD job))
        return ()
      else return ()
  | _ => return ()

/-- The busy worker is made ready again; a failed read of it is passed over. -/
def revertWorker (text : RustText) (workerIdText : String) (workerId : WorkerId) :
    StepM Unit := do
  match ← call (.findWorker .undoAssignFindWorker workerId) with
  | .ok (some worker) =>
      if worker.state = .busy then
        callOr (call (.updateWorkerState .undoAssignUpdateWorker workerId .ready)) fun error =>
          .compensationFailed "AssignWorker" ("Failed to release worker " ++ workerIdText ++ ": " ++
            text.displayDomainError error)
      else return ()
  | _ => return ()

def assignWorkerCompensate (text : RustText) (jobId : JobId) (context : SagaContext) :
    StepM Unit := do
  let failed := SagaError.compensationFailed "AssignWorker"
  match textMetadata context "execution_worker_id" with
  | none => return ()
  | some workerIdText => do
      let services ← okOr context.services (failed "SagaServices not available")
      match text.parse workerIdText with
      | none => throw (failed ("Invalid worker_id in context: " ++ workerIdText))
      | some uuid => do
          revertWorker text workerIdText ⟨uuid⟩
          if services.hasJobRepository then
            revertJob .undoAssignFindJob .undoAssignUpdateJob jobId [.assigned, .running] .pending
          else return ()

def executeJobCompensate (jobId : JobId) (context : SagaContext) : StepM Unit := do
  let services ← okOr context.services
    (.compensationFailed "ExecuteJob" "SagaServices not available")
  if services.hasJobRepository then
    revertJob .undoExecuteFindJob .undoExecuteUpdateJob jobId [.running] .assigned
  else return ()

structure SagaStep where
  name : String
  execute : SagaContext → StepM SagaContext
  compensate : SagaContext → StepM Unit
  hasCompensation : Bool

structure ExecutionSaga where
  jobId : JobId
  workerId : Option WorkerId

def ExecutionSaga.withWorker (jobId : JobId) (workerId : WorkerId) : ExecutionSaga :=
  ⟨jobId, some workerId⟩

def ExecutionSaga.steps (saga : ExecutionSaga) (text : RustText)
    (jobExecutor : Option JobExecutor) : List SagaStep :=
  [⟨"ValidateJob", validateJobStep text saga.jobId, fun _ => return (), false⟩,
    ⟨"AssignWorker", assignWorkerStep text saga.jobId saga.workerId,
      assignWorkerCompensate text saga.jobId, true⟩,
    ⟨"ExecuteJob", executeJobStep text jobExecutor saga.jobId,
      executeJobCompensate saga.jobId, true⟩,
    ⟨"CompleteJob", completeJobStep text saga.jobId, fun _ => return (), false⟩]

/-- The steps in order, each on the context the one before it left. -/
def ExecutionSaga.executeSteps (saga : ExecutionSaga) (text : RustText)
    (jobExecutor : Option JobExecutor) (context : SagaContext) : StepM SagaContext := do
  let context ← validateJobStep text saga.jobId context
  let context ← assignWorkerStep text saga.jobId saga.workerId context
  let context ← executeJobStep text jobExecutor saga.jobId context
  completeJobStep text saga.jobId context

/-- How far a forward run came: the completed steps, the last one first. -/
structure Attempt where
  completed : List SagaStep
  context : SagaContext
  failure : Option SagaError

/-- Execute the steps until one fails. A failed step leaves the context alone. -/
def executeUntilFailure : List SagaStep → List SagaStep → SagaContext → Program Op Op.Reply Attempt
  | [], completed, context => return ⟨completed, context, none⟩
  | step :: rest, completed, context => do
      match ← (step.execute context).run with
      | .ok next => executeUntilFailure rest (step :: completed) next
      | .error failure => return ⟨completed, context, some failure⟩

/-- `compensate()` of the compensable steps, in the order given. -/
def compensateAll (context : SagaContext) : List SagaStep → StepM Unit
  | [] => return ()
  | step :: rest => do
      if step.hasCompensation then step.compensate context
      compensateAll context rest

end HodeiJobs.Execution
