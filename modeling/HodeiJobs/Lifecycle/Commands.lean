import HodeiJobs.Cleanup.CleanupSaga

/-!
# Commands that change a job or a worker

The handlers of `saga/commands/cancellation.rs`, `timeout.rs` and `recovery.rs`
that write the state of a job or of a worker, and the compensations of the
recovery and the cleanup saga that do. A write inside the transaction of a step
is the same statement as the one outside of it. What a command carries only for
its log line or its idempotency key is left out.
-/

namespace HodeiJobs.Lifecycle

open HodeiJobs.Library HodeiJobs.Shared HodeiJobs.Execution
open HodeiJobs.Sagas (SagaContext SagaError)

/-! ## Jobs -/

structure UpdateJobStateCommand where
  jobId : JobId
  targetState : JobState

structure UpdateJobStateResult where
  success : Bool
  newState : JobState
  alreadyInState : Bool
  errorMessage : Option String

inductive UpdateJobStateError where
  | jobNotFound (jobId : JobId)
  | updateFailed (jobId : JobId) (source : DomainError)

/-- A job that is not found is updated all the same. -/
def updateJobStateHandler (command : UpdateJobStateCommand) :
    CallM UpdateJobStateError UpdateJobStateResult := do
  let jobId := command.jobId
  let targetState := command.targetState
  let found ← callOr (call (.findJob .stateFindJob jobId)) (.updateFailed jobId)
  if found.map Job.state = some targetState then return ⟨true, targetState, true, none⟩
  else do
    callOr (call (.updateJobState .stateUpdateJob jobId targetState)) (.updateFailed jobId)
    return ⟨true, targetState, false, none⟩

structure MarkJobTimedOutResult where
  success : Bool
  newState : JobState
  alreadyTimedOut : Bool
  errorMessage : Option String

inductive MarkJobTimedOutError where
  | jobNotFound (jobId : JobId)
  | markFailed (jobId : JobId) (source : DomainError)

def markJobTimedOutHandler (jobId : JobId) :
    CallM MarkJobTimedOutError MarkJobTimedOutResult := do
  let found ← callOr (call (.findJob .timedOutFindJob jobId)) (.markFailed jobId)
  match found with
  | none => return ⟨true, .failed, true, none⟩
  | some job =>
      if job.state = .failed then return ⟨true, .failed, true, none⟩
      else do
        callOr (call (.updateJobState .timedOutUpdateJob jobId .failed)) (.markFailed jobId)
        return ⟨true, .failed, false, none⟩

structure JobRecoveryMarkResult where
  success : Bool
  newState : JobState
  failureReason : Option String

inductive MarkJobForRecoveryError where
  | jobNotFound (jobId : JobId)
  | markFailed (jobId : JobId) (source : DomainError)

def markJobForRecoveryHandler (jobId : JobId) :
    CallM MarkJobForRecoveryError JobRecoveryMarkResult := do
  let found ← callOr (call (.findJob .recoveryFindJob jobId)) (.markFailed jobId)
  let _ ← okOr found (.jobNotFound jobId)
  callOr (call (.updateJobState .recoveryUpdateJob jobId .pending)) (.markFailed jobId)
  return ⟨true, .pending, none⟩

structure TransferJobCommand where
  jobId : JobId
  newWorkerId : WorkerId

structure JobTransferResult where
  success : Bool
  newState : JobState
  errorMessage : Option String

inductive TransferJobError where
  | jobNotFound (jobId : JobId)
  | transferFailed (jobId : JobId) (source : DomainError)

def transferJobHandler (command : TransferJobCommand) :
    CallM TransferJobError JobTransferResult := do
  let jobId := command.jobId
  let found ← callOr (call (.findJob .transferFindJob jobId)) (.transferFailed jobId)
  let _ ← okOr found (.jobNotFound jobId)
  callOr (call (.updateWorkerState .transferUpdateWorker command.newWorkerId .busy))
    (.transferFailed jobId)
  callOr (call (.updateJobState .transferUpdateJob jobId .running)) (.transferFailed jobId)
  return ⟨true, .running, none⟩

/-! ## Workers -/

structure ReleaseWorkerResult where
  success : Bool
  newState : WorkerState
  errorMessage : Option String

inductive ReleaseWorkerError where
  | workerNotFound (workerId : WorkerId)
  | releaseFailed (workerId : WorkerId) (source : DomainError)

def releaseWorkerHandler (workerId : WorkerId) :
    CallM ReleaseWorkerError ReleaseWorkerResult := do
  let found ← callOr (call (.findWorker .releaseFindWorker workerId)) (.releaseFailed workerId)
  let _ ← okOr found (.workerNotFound workerId)
  callOr (call (.updateWorkerState .releaseUpdateWorker workerId .ready))
    (.releaseFailed workerId)
  return ⟨true, .ready, none⟩

structure TerminateWorkerResult where
  success : Bool
  finalState : WorkerState
  alreadyTerminated : Bool
  errorMessage : Option String

inductive TerminateWorkerError where
  | workerNotFound (workerId : WorkerId)
  | terminationFailed (workerId : WorkerId) (source : DomainError)

/-- A worker that is not found counts as terminated. -/
def terminateWorkerHandler (workerId : WorkerId) :
    CallM TerminateWorkerError TerminateWorkerResult := do
  let found ← callOr (call (.findWorker .terminateFindWorker workerId))
    (.terminationFailed workerId)
  match found with
  | none => return ⟨true, .terminated, true, none⟩
  | some worker =>
      if worker.state = .terminated then return ⟨true, .terminated, true, none⟩
      else do
        callOr (call (.updateWorkerState .terminateUpdateWorker workerId .terminated))
          (.terminationFailed workerId)
        return ⟨true, .terminated, false, none⟩

/-! ## Compensations -/

/-- `TransferJobStep::compensate`. -/
def transferJobCompensate (text : RustText) (jobId : JobId) (context : SagaContext) :
    StepM Unit := do
  if hasFlag context "job_transfer_done" then
    match context.services with
    | some services =>
        if services.hasJobRepository then
          callOr (call (.updateJobState .undoTransferUpdateJob jobId .failed)) fun error =>
            .compensationFailed "TransferJob"
              ("Failed to revert job state: " ++ text.displayDomainError error)
        else return ()
    | none => return ()
  else return ()

/-- The jobs are set back to running one by one; a failed update is passed over. -/
def restoreJobs (text : RustText) (uuidError : String → String) : List String → StepM Unit
  | [] => return ()
  | jobIdText :: rest =>
      match text.parse jobIdText with
      | none => throw (.compensationFailed "ResetOrphanedJobs"
          ("Invalid job_id: " ++ uuidError jobIdText))
      | some uuid => do
          let _ ← call (.updateJobState .undoResetUpdateJob ⟨uuid⟩ .running)
          restoreJobs text uuidError rest

/-- `ResetOrphanedJobsStep::compensate`. -/
def resetOrphanedJobsCompensate (text : RustText) (uuidError : String → String) (dryRun : Bool)
    (context : SagaContext) : StepM Unit := do
  let failed := SagaError.compensationFailed "ResetOrphanedJobs"
  if dryRun then return ()
  else do
    let services ← okOr context.services (failed "SagaServices not available")
    if services.hasJobRepository then
      restoreJobs text uuidError (Cleanup.textListMetadata context "orphaned_job_ids")
    else throw (failed "JobRepository not available")

end HodeiJobs.Lifecycle
