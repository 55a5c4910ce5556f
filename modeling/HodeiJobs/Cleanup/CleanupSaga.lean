import HodeiJobs.Execution.Saga

/-!
# The cleanup saga

The steps of `CleanupSaga` that identify unhealthy workers and orphaned jobs,
remove the workers and fail the jobs, with `MarkJobFailedHandler` and
`UnregisterWorkerHandler` on the command bus. The last step of the saga only
publishes counts and is left out, as are the events of the others.
-/

namespace HodeiJobs.Cleanup

open HodeiJobs.Library HodeiJobs.Shared HodeiJobs.Execution
open HodeiJobs.Sagas (DateTime Duration Json SagaContext SagaError)

/-! ## Commands -/

inductive MarkJobFailedError where
  | jobNotFound (jobId : JobId)
  | invalidTransition (jobId : JobId) (current : JobState)
  | terminalState (jobId : JobId) (state : JobState)

/-- The previous state is returned. -/
def markJobFailedHandler (jobId : JobId) : CallM MarkJobFailedError JobState := do
  let found ← callOr (call (.findJob .resetFindJob jobId)) fun _ => .jobNotFound jobId
  let job ← okOr found (.jobNotFound jobId)
  if job.state.isTerminal then throw (.terminalState jobId job.state)
  else if job.state.canTransitionTo .failed then do
    callOr (call (.updateJobState .resetUpdateJob jobId .failed)) fun _ =>
      .invalidTransition jobId job.state
    return job.state
  else throw (.invalidTransition jobId job.state)

structure UnregistrationFailed where
  workerId : WorkerId
  source : DomainError

def unregisterWorkerHandler (workerId : WorkerId) : CallM UnregistrationFailed Unit :=
  callOr (call (.unregister .cleanupUnregister workerId)) (.mk workerId)

/-! ## Metadata -/

/-- `set_metadata(key, &Vec<String>)`. -/
def textList (values : List String) : Json := .array (values.map .string)

def jsonText : Json → Option String
  | .string value => some value
  | _ => none

/-- `get_metadata::<Vec<String>>(key).and_then(|r| r.ok()).unwrap_or_default()`. -/
def textListMetadata (context : SagaContext) (key : String) : List String :=
  match context.getMetadata key with
  | some (.array items) => (items.mapM jsonText).getD []
  | _ => []

theorem map_text_list (values : List String) :
    (values.map Json.string).mapM jsonText = some values := by
  induction values with
  | nil => rfl
  | cons value rest ih =>
      rw [List.map_cons, List.mapM_cons, ih]
      rfl

/-! ## Steps -/

structure CleanupSaga where
  unhealthyThreshold : Duration
  orphanedJobThreshold : Duration
  dryRun : Bool

/-- The time since the last heartbeat in microseconds. A worker that never sent
one is decoded with the time of the reading. -/
def sinceHeartbeat (now : DateTime) (worker : Worker) : Int := now - worker.lastHeartbeat.getD now

/-- A negative time does not convert to a `std::time::Duration` and counts as
stale. -/
def isStaleHeartbeat (now : DateTime) (threshold : Duration) (worker : Worker) : Bool :=
  decide (sinceHeartbeat now worker < 0 ∨
    (threshold.nanos : Int) < sinceHeartbeat now worker * 1000)

def isUnhealthy (now : DateTime) (threshold : Duration) (worker : Worker) : Bool :=
  decide (worker.state = .creating) ||
    (isStaleHeartbeat now threshold worker && decide (worker.state ≠ .terminated))

def identifyUnhealthyWorkersStep (text : RustText) (threshold : Duration)
    (context : SagaContext) : StepM SagaContext := do
  let failed := fun message => SagaError.stepFailed "IdentifyUnhealthyWorkers" message false
  let _ ← okOr context.services (failed "SagaServices not available")
  let allWorkers ← callOr (call (.findAvailable .cleanupFindWorkers)) fun error =>
    failed ("Failed to fetch workers: " ++ text.displayDomainError error)
  let now ← call .now
  let ids := (allWorkers.filter (isUnhealthy now threshold)).map fun worker =>
    text.display worker.id.uuid
  let context := context.setMetadata "unhealthy_worker_ids" (textList ids)
  return context.setMetadata "unhealthy_worker_count" (.integer ids.length)

/-- The threshold is not kept: `new(_threshold, dry_run)`. -/
def identifyOrphanedJobsStep (text : RustText) (_threshold : Duration) (context : SagaContext) :
    StepM SagaContext := do
  let failed := fun message => SagaError.stepFailed "IdentifyOrphanedJobs" message false
  let services ← okOr context.services (failed "SagaServices not available")
  if services.hasJobRepository then do
    let runningJobs ← callOr (call (.findJobsByState .cleanupFindJobs .running)) fun error =>
      failed ("Failed to fetch running jobs: " ++ text.displayDomainError error)
    let ids := runningJobs.map fun job => text.display job.id.uuid
    let context := context.setMetadata "orphaned_job_ids" (textList ids)
    return context.setMetadata "orphaned_job_count" (.integer ids.length)
  else throw (failed "JobRepository not available")

/-- `context.services()…command_bus` of the two steps that act. -/
def requireBus (step : String) (context : SagaContext) : StepM Unit := do
  let failed := fun message => SagaError.stepFailed step message false
  let services ← okOr context.services (failed "SagaServices not available")
  if services.hasCommandBus then return () else throw (failed "CommandBus not available")

/-- The loop over the unhealthy workers; a failed command is only logged. -/
def unregisterWorkers (text : RustText) (dryRun : Bool) : List String → Nat → StepM Nat
  | [], cleaned => return cleaned
  | workerIdText :: rest, cleaned =>
      if dryRun then unregisterWorkers text dryRun rest (cleaned + 1)
      else
        match text.parse workerIdText with
        | none => unregisterWorkers text dryRun rest cleaned
        | some uuid => do
            match ← ExceptT.lift (unregisterWorkerHandler ⟨uuid⟩).run with
            | .ok () => unregisterWorkers text dryRun rest (cleaned + 1)
            | .error _ => unregisterWorkers text dryRun rest cleaned

def cleanupUnhealthyWorkersStep (text : RustText) (dryRun : Bool) (context : SagaContext) :
    StepM SagaContext := do
  requireBus "CleanupUnhealthyWorkers" context
  let cleaned ← unregisterWorkers text dryRun
    (textListMetadata context "unhealthy_worker_ids") 0
  return context.setMetadata "cleaned_up_worker_count" (.integer cleaned)

/-- The loop over the orphaned jobs; a failed command is only logged. `uuidError`
is the text of a parse error. -/
def failJobs (text : RustText) (uuidError : String → String) (dryRun : Bool) :
    List String → Nat → StepM Nat
  | [], reset => return reset
  | jobIdText :: rest, reset =>
      if dryRun then failJobs text uuidError dryRun rest (reset + 1)
      else
        match text.parse jobIdText with
        | none => throw (.stepFailed "ResetOrphanedJobs"
            ("Invalid job_id: " ++ uuidError jobIdText) true)
        | some uuid => do
            match ← ExceptT.lift (markJobFailedHandler ⟨uuid⟩).run with
            | .ok _ => failJobs text uuidError dryRun rest (reset + 1)
            | .error _ => failJobs text uuidError dryRun rest reset

def resetOrphanedJobsStep (text : RustText) (uuidError : String → String) (dryRun : Bool)
    (context : SagaContext) : StepM SagaContext := do
  requireBus "ResetOrphanedJobs" context
  let reset ← failJobs text uuidError dryRun (textListMetadata context "orphaned_job_ids") 0
  return context.setMetadata "reset_job_count" (.integer reset)

def CleanupSaga.executeSteps (saga : CleanupSaga) (text : RustText)
    (uuidError : String → String) (context : SagaContext) : StepM SagaContext := do
  let context ← identifyUnhealthyWorkersStep text saga.unhealthyThreshold context
  let context ← identifyOrphanedJobsStep text saga.orphanedJobThreshold context
  let context ← cleanupUnhealthyWorkersStep text saga.dryRun context
  resetOrphanedJobsStep text uuidError saga.dryRun context

end HodeiJobs.Cleanup
