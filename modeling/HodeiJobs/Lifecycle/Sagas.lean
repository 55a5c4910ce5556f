import Mathlib.Algebra.Group.Nat.Defs
import HodeiJobs.Lifecycle.Commands

/-!
# The timeout and the cancellation saga

The steps of `saga/timeout.rs` and `saga/cancellation.rs` and their
compensations. Both sagas look up the worker that the registry links to the job
and give it back with `ReleaseWorkerCommand`; the timeout saga has terminated it
two steps before.
-/

namespace HodeiJobs.Lifecycle

open HodeiJobs.Library HodeiJobs.Shared HodeiJobs.Execution
open HodeiJobs.Sagas (Duration SagaContext SagaError SagaServices)

/-! ## Services -/

/-- `context.services()…job_repository` of the two validating steps. -/
def requireJobRepository (step : String) (context : SagaContext) : StepM Unit := do
  let failed := fun message => SagaError.stepFailed step message false
  let services ← okOr context.services (failed "SagaServices not available")
  if services.hasJobRepository then return () else throw (failed "JobRepository not available")

/-- `context.services()…command_bus` of the steps of the cancellation saga. -/
def requireCancellationBus (step : String) (willCompensate : Bool) (context : SagaContext) :
    StepM Unit := do
  let failed := fun message => SagaError.stepFailed step message willCompensate
  let services ← okOr context.services (failed "SagaServices not available")
  if services.hasCommandBus then return ()
  else throw (failed "CommandBus not available in SagaServices")

/-- A dispatch whose error is only logged. -/
def dispatchLogged {Failure Result : Type} (handler : CallM Failure Result) : StepM Unit := do
  let _ ← ExceptT.lift handler.run
  return ()

/-! ## The timeout saga -/

structure TimeoutSaga where
  jobId : JobId
  timeoutDuration : Duration
  reason : String

/-- `as_millis() as i64`. -/
def timeoutMillis (duration : Duration) : Int := Int.bmod (duration.nanos / 1000000) (2 ^ 64)

def validateTimeoutStep (text : RustText) (saga : TimeoutSaga) (context : SagaContext) :
    StepM SagaContext := do
  let failed := fun message => SagaError.stepFailed "ValidateTimeout" message false
  requireJobRepository "ValidateTimeout" context
  if hasFlag context "timeout_validated" then return context
  else do
    let found ← callOr (call (.findJob .timeoutFindJob saga.jobId)) fun error =>
      failed ("Failed to fetch job: " ++ text.displayDomainError error)
    let job ← okOr found (failed ("Job " ++ text.display saga.jobId.uuid ++ " not found"))
    if job.state ≠ .running then return context.setMetadata "timeout_skipped" (.bool true)
    else
      let context := context.setMetadata "timeout_duration_ms"
        (.integer (timeoutMillis saga.timeoutDuration))
      let context := context.setMetadata "timeout_reason" (.string saga.reason)
      return context.setMetadata "timeout_validated" (.bool true)

/-- The worker counts as terminated even when the command failed. -/
def terminateWorkerStep (text : RustText) (jobId : JobId) (context : SagaContext) :
    StepM SagaContext := do
  requireCommandBus "TerminateWorker" true context
  if hasFlag context "timeout_skipped" then return context
  else if hasFlag context "worker_terminated" then return context
  else do
    let found ← callOr (call (.getByJobId .timeoutFindWorker jobId)) fun error =>
      .stepFailed "TerminateWorker" ("Failed to find worker: " ++ text.displayDomainError error)
        true
    match found with
    | none => return context
    | some worker => do
        let context := context.setMetadata "timed_out_worker_id"
          (.string (text.display worker.id.uuid))
        dispatchLogged (terminateWorkerHandler worker.id)
        return context.setMetadata "worker_terminated" (.bool true)

/-- The worker that the metadata name, if it can be read and parsed. -/
def timedOutWorker (text : RustText) (context : SagaContext) : Option WorkerId :=
  (textMetadata context "timed_out_worker_id").bind fun value => (text.parse value).map .mk

/-- Both compensations of the timeout saga write one state to that worker. -/
def restoreWorker (text : RustText) (site : CallSite) (step message : String)
    (state : WorkerState) (context : SagaContext) : StepM Unit := do
  match timedOutWorker text context with
  | none => return ()
  | some workerId => do
      let _ ← okOr context.services (.compensationFailed step "SagaServices not available")
      callOr (call (.updateWorkerState site workerId state)) fun error =>
        .compensationFailed step (message ++ text.displayDomainError error)

def terminateWorkerCompensate (text : RustText) (context : SagaContext) : StepM Unit :=
  restoreWorker text .undoTerminateUpdateWorker "TerminateWorker"
    "Failed to restore worker state: " .busy context

def markJobFailedStep (jobId : JobId) (context : SagaContext) : StepM SagaContext := do
  requireCommandBus "MarkJobFailed" true context
  if hasFlag context "timeout_skipped" then return context
  else if hasFlag context "job_marked_failed" then return context
  else do
    dispatchLogged (markJobTimedOutHandler jobId)
    return context.setMetadata "job_marked_failed" (.bool true)

def markJobFailedCompensate (context : SagaContext) : StepM Unit := do
  let _ ← okOr context.services (.compensationFailed "MarkJobFailed" "SagaServices not available")
  return ()

/-- The id of the worker to release: as the saga stored it, else as the registry
links it. A value that is no text names none. -/
def releasedWorkerId (text : RustText) (jobId : JobId) (context : SagaContext) :
    StepM (Option String) := do
  match context.getMetadata "timed_out_worker_id" with
  | some (.string value) => return some value
  | some _ => return none
  | none => do
      let found ← callOr (call (.getByJobId .timeoutFindReleased jobId)) fun error =>
        .stepFailed "ReleaseWorker"
          ("Failed to find worker by job_id: " ++ text.displayDomainError error) true
      return found.map fun worker => text.display worker.id.uuid

def releaseTimedOutWorkerStep (text : RustText) (jobId : JobId) (context : SagaContext) :
    StepM SagaContext := do
  requireCommandBus "ReleaseWorker" true context
  if hasFlag context "timeout_skipped" then return context
  else if hasFlag context "worker_released" then return context
  else do
    match (← releasedWorkerId text jobId context).bind text.parse with
    | none => return context
    | some uuid => do
        dispatchLogged (releaseWorkerHandler ⟨uuid⟩)
        return context.setMetadata "worker_released" (.bool true)

def releaseTimedOutWorkerCompensate (text : RustText) (context : SagaContext) : StepM Unit :=
  restoreWorker text .undoReleaseUpdateWorker "ReleaseWorker"
    "Failed to mark worker as terminated: " .terminated context

def TimeoutSaga.steps (saga : TimeoutSaga) (text : RustText) : List SagaStep :=
  [⟨"ValidateTimeout", validateTimeoutStep text saga, fun _ => return (), false⟩,
    ⟨"TerminateWorker", terminateWorkerStep text saga.jobId, terminateWorkerCompensate text, true⟩,
    ⟨"MarkJobFailed", markJobFailedStep saga.jobId, markJobFailedCompensate, true⟩,
    ⟨"ReleaseWorker", releaseTimedOutWorkerStep text saga.jobId,
      releaseTimedOutWorkerCompensate text, true⟩]

/-! ## The cancellation saga -/

def cancellableStates : List JobState := [.pending, .assigned, .running, .scheduled]

def validateCancellationStep (text : RustText) (jobId : JobId) (context : SagaContext) :
    StepM SagaContext := do
  let failed := fun message => SagaError.stepFailed "ValidateCancellation" message false
  requireJobRepository "ValidateCancellation" context
  if hasFlag context "cancellation_validated" then return context
  else do
    let found ← callOr (call (.findJob .cancellationFindJob jobId)) fun error =>
      failed ("Failed to fetch job: " ++ text.displayDomainError error)
    let job ← okOr found (failed ("Job " ++ text.display jobId.uuid ++ " not found"))
    if job.state ∈ cancellableStates then
      let context := context.setMetadata "cancellation_original_state" (.string job.state.debug)
      return context.setMetadata "cancellation_validated" (.bool true)
    else
      throw (failed ("Job " ++ text.display jobId.uuid ++ " is in state " ++ job.state.debug ++
        ", cannot cancel"))

/-- `NotifyWorkerHandler` makes no call when the command names the worker. -/
def notifyWorkerStep (text : RustText) (jobId : JobId) (context : SagaContext) :
    StepM SagaContext := do
  requireCancellationBus "NotifyWorker" true context
  if hasFlag context "worker_notified" then return context
  else do
    let found ← callOr (call (.getByJobId .cancellationFindWorker jobId)) fun error =>
      .stepFailed "NotifyWorker"
        ("Failed to find worker for job: " ++ text.displayDomainError error) true
    let context := match found with
      | some worker =>
          context.setMetadata "cancelled_worker_id" (.string (text.display worker.id.uuid))
      | none => context
    return context.setMetadata "worker_notified" (.bool true)

def debugUpdateJobStateError (text : RustText) : UpdateJobStateError → String
  | .jobNotFound jobId =>
      RustText.debugStruct "JobNotFound" [("job_id", text.debugJobId jobId)]
  | .updateFailed jobId source =>
      RustText.debugStruct "UpdateFailed" [("job_id", text.debugJobId jobId),
        ("source", text.debugDomainError source)]

def updateJobStateMessage (text : RustText) (error : UpdateJobStateError) : String :=
  "Handler error for hodei_server_domain::saga::commands::cancellation::UpdateJobStateCommand: " ++
    debugUpdateJobStateError text error

def updateJobStateStep (text : RustText) (jobId : JobId) (context : SagaContext) :
    StepM SagaContext := do
  requireCancellationBus "UpdateJobState" true context
  if hasFlag context "job_state_updated" then return context
  else do
    let result ← ExceptT.adapt (fun error => .stepFailed "UpdateJobState"
        ("Failed to update job state via CommandBus: " ++ updateJobStateMessage text error) true)
      (updateJobStateHandler ⟨jobId, .cancelled⟩)
    if result.alreadyInState then pure ()
    else
      callOr (call (.publishJobCancelled jobId)) fun error =>
        .stepFailed "UpdateJobState"
          ("Failed to publish JobCancelled event: " ++ text.displayDomainError error) false
    return context.setMetadata "job_state_updated" (.bool true)

def originalState (context : SagaContext) : JobState :=
  match (textMetadata context "cancellation_original_state").getD "Queued" with
  | "Running" => .running
  | "Pending" => .pending
  | "Assigned" => .assigned
  | "Scheduled" => .scheduled
  | _ => .pending

def updateJobStateCompensate (text : RustText) (jobId : JobId) (context : SagaContext) :
    StepM Unit := do
  let failed := SagaError.compensationFailed "UpdateJobState"
  let services ← okOr context.services (failed "SagaServices not available")
  if services.hasCommandBus then do
    let _ ← ExceptT.adapt (fun error =>
        failed ("Failed to restore job state via CommandBus: " ++ updateJobStateMessage text error))
      (updateJobStateHandler ⟨jobId, originalState context⟩)
    return ()
  else throw (failed "CommandBus not available in SagaServices")

def releaseCancelledWorkerStep (text : RustText) (context : SagaContext) : StepM SagaContext := do
  requireCancellationBus "ReleaseWorker" false context
  if hasFlag context "worker_released" then return context
  else
    let workerIdText := (textMetadata context "cancelled_worker_id").getD "none"
    if workerIdText ≠ "none" then
      match text.parse workerIdText with
      | none => throw (.stepFailed "ReleaseWorker" ("Invalid worker_id: " ++ workerIdText) false)
      | some uuid => do
          dispatchLogged (releaseWorkerHandler ⟨uuid⟩)
          return context.setMetadata "worker_released" (.bool true)
    else return context

def cancellationSteps (text : RustText) (jobId : JobId) : List SagaStep :=
  [⟨"ValidateCancellation", validateCancellationStep text jobId, fun _ => return (), false⟩,
    ⟨"NotifyWorker", notifyWorkerStep text jobId, fun _ => return (), false⟩,
    ⟨"UpdateJobState", updateJobStateStep text jobId, updateJobStateCompensate text jobId, true⟩,
    ⟨"ReleaseWorker", releaseCancelledWorkerStep text, fun _ => return (), false⟩]

/-! ## Running a saga -/

/-- The steps in order; after a failure, the compensations of the completed ones,
the last first. The result is the last context, when every step was executed. -/
def runSaga (steps : List SagaStep) (context : SagaContext) :
    Program Op Op.Reply (Option SagaContext) := do
  let attempt ← executeUntilFailure steps [] context
  match attempt.failure with
  | none => return some attempt.context
  | some _ => do
      let _ ← (compensateAll attempt.context attempt.completed).run
      return none

end HodeiJobs.Lifecycle
