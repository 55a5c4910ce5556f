import HodeiJobs.Execution.Repositories

/-!
# Command handlers of the execution saga

`AssignWorkerHandler`, `ExecuteJobHandler` and `CompleteJobHandler` of
`saga/commands/execution.rs`, the executor that the second one delegates to,
and the dispatch of a command through the erased bus, which calls the
registered handler and wraps its error.
-/

namespace HodeiJobs.Execution

open HodeiJobs.Library HodeiJobs.Shared

/-- `call.await.map_err(..)?` -/
def callOr {Failure : Type} {Value : Type} (op : CallM Failure (Except DomainError Value))
    (mapErr : DomainError → Failure) : CallM Failure Value := do
  match ← op with
  | .ok value => return value
  | .error error => throw (mapErr error)

/-- `value.ok_or_else(..)?` -/
def okOr {Failure : Type} {Value : Type} (value : Option Value) (failure : Failure) :
    CallM Failure Value :=
  match value with
  | some value => return value
  | none => throw failure

/-! ## Assigning a worker -/

structure AssignWorkerCommand where
  jobId : JobId
  workerId : Option WorkerId

structure WorkerAssignmentResult where
  success : Bool
  workerId : Option WorkerId
  workerState : Option WorkerState
  failureReason : Option String

inductive AssignWorkerError where
  | noAvailableWorkers (jobId : JobId)
  | assignmentFailed (jobId : JobId) (source : DomainError)
  | workerNotFound (workerId : WorkerId)
  | workerNotAvailable (workerId : WorkerId) (state : WorkerState)

/-- The worker to assign: the given one if it is ready or busy, else the first
that the registry finds. -/
def selectWorker (command : AssignWorkerCommand) :
    CallM AssignWorkerError (Option WorkerId) := do
  match command.workerId with
  | some preAssignedId => do
      let found ← callOr (call (.findWorker .assignFindWorker preAssignedId))
        (.assignmentFailed command.jobId)
      let worker ← okOr found (.workerNotFound preAssignedId)
      if worker.state ≠ .ready ∧ worker.state ≠ .busy then
        throw (.workerNotAvailable preAssignedId worker.state)
      else return some preAssignedId
  | none => do
      let available ← callOr
        (call (.findWorkers .assignFindWorkers ⟨some [.ready], some true⟩))
        (.assignmentFailed command.jobId)
      return available.head?.map Worker.id

def assignWorkerHandler (command : AssignWorkerCommand) :
    CallM AssignWorkerError WorkerAssignmentResult := do
  let jobId := command.jobId
  match ← selectWorker command with
  | none => return ⟨false, none, none, some "No available workers"⟩
  | some workerId => do
      let found ← callOr (call (.findJob .assignFindJob jobId)) (.assignmentFailed jobId)
      let job ← okOr found (.noAvailableWorkers jobId)
      match job.setState .assigned with
      | .error error => throw (.assignmentFailed jobId error)
      | .ok job => do
          callOr (call (.updateJob .assignUpdateJob job)) (.assignmentFailed jobId)
          callOr (call (.updateWorkerState .assignUpdateWorker workerId .busy))
            (.assignmentFailed jobId)
          let final ← callOr (call (.findWorker .assignFinalWorker workerId))
            (.assignmentFailed jobId)
          let worker ← okOr final (.workerNotFound workerId)
          return ⟨true, some workerId, some worker.state, none⟩

/-! ## Executing a job -/

structure ExecuteJobCommand where
  jobId : JobId
  workerId : WorkerId

structure JobExecutionResult where
  initiated : Bool
  newState : JobState
  failureReason : Option String

inductive ExecuteJobError where
  | jobNotFound (jobId : JobId)
  | workerNotFound (workerId : WorkerId)
  | executionFailed (jobId : JobId) (source : DomainError)

/-- The `JobExecutor` trait. -/
structure JobExecutor where
  executeJob : JobId → WorkerId → CallM ExecuteJobError Unit

/-- `JobExecutorImpl`: send `RUN_JOB`, then record that the job runs. -/
def jobExecutorImpl : JobExecutor where
  executeJob jobId workerId := do
    let found ← callOr (call (.findJob .executorFindJob jobId)) (.executionFailed jobId)
    let job ← okOr found (.jobNotFound jobId)
    callOr (call (.sendRunJob workerId job)) (.executionFailed jobId)
    let now ← call .now
    match job.markRunning now with
    | .error error => throw (.executionFailed jobId error)
    | .ok job => do
        callOr (call (.updateJob .executorUpdateJob job)) (.executionFailed jobId)
        callOr (call (.insertJobStarted jobId workerId)) (.executionFailed jobId)

def executeJobHandler (jobExecutor : Option JobExecutor) (command : ExecuteJobCommand) :
    CallM ExecuteJobError JobExecutionResult := do
  let jobId := command.jobId
  let workerId := command.workerId
  let job ← callOr (call (.findJob .executeFindJob jobId)) (fun _ => .jobNotFound jobId)
  let _ ← okOr job (.jobNotFound jobId)
  let worker ← callOr (call (.findWorker .executeFindWorker workerId))
    (fun _ => .workerNotFound workerId)
  let _ ← okOr worker (.workerNotFound workerId)
  match jobExecutor with
  | some executor => executor.executeJob jobId workerId
  | none =>
      callOr (call (.updateJobState .executeUpdateJob jobId .running)) (.executionFailed jobId)
  return ⟨true, .running, none⟩

/-! ## Completing a job -/

structure CompleteJobCommand where
  jobId : JobId
  finalState : JobState

structure JobCompletionResult where
  success : Bool
  finalState : JobState

inductive CompleteJobError where
  | jobNotFound (jobId : JobId)
  | invalidTransition (jobId : JobId) (current desired : JobState)
  | completionFailed (jobId : JobId) (source : DomainError)

/-- The worker that is released is the one the registry links to the job; an
error of that query releases none. -/
def releaseWorker (jobId : JobId) (finalState : JobState) : CallM CompleteJobError Unit := do
  if finalState.isTerminal then
    match ← call (.getByJobId .completeFindWorker jobId) with
    | .ok (some worker) =>
        callOr (call (.updateWorkerState .completeUpdateWorker worker.id .terminated))
          (.completionFailed jobId)
    | _ => return ()
  else return ()

def completeJobHandler (command : CompleteJobCommand) :
    CallM CompleteJobError JobCompletionResult := do
  let jobId := command.jobId
  let finalState := command.finalState
  let found ← callOr (call (.findJob .completeFindJob jobId)) (fun _ => .jobNotFound jobId)
  let job ← okOr found (.jobNotFound jobId)
  if job.state.canTransitionTo finalState then do
    callOr (call (.updateJobState .completeUpdateJob jobId finalState)) (.completionFailed jobId)
    releaseWorker jobId finalState
    return ⟨finalState.isTerminal, finalState⟩
  else throw (.invalidTransition jobId job.state finalState)

end HodeiJobs.Execution
