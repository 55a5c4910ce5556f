import HodeiJobs.Execution.Saga

/-!
# The dispatchers

Every place that starts an execution, provisioning, recovery, cancellation or
timeout saga: the saga it hands to `execute_saga`, and the context that the
orchestrator then writes. Services are never written, so a context here has
none. An idempotency key is a text made of the other fields and is left out.
-/

namespace HodeiJobs.Dispatch

open HodeiJobs.Execution (JobId WorkerId RustText ExecutionSaga)
open HodeiJobs.Sagas (Uuid DateTime Duration SagaContext SagaId SagaType)

structure ProviderId where
  uuid : Uuid
  deriving DecidableEq, Repr

/-- `Settings` stands for the fields that `WorkerSpec::new` sets to a default. -/
structure WorkerSpec (Settings : Type) where
  workerId : WorkerId
  image : String
  serverAddress : String
  settings : Settings

structure ProvisioningSaga (Settings : Type) where
  spec : WorkerSpec Settings
  providerId : ProviderId
  jobId : Option JobId

structure RecoverySaga where
  jobId : JobId
  failedWorkerId : WorkerId
  targetProviderId : Option String

structure CancellationSaga where
  jobId : JobId
  reason : String

structure TimeoutSaga where
  jobId : JobId
  timeoutDuration : Duration
  reason : String

/-- `Box<dyn Saga>`. The cleanup saga that `execute` makes has default
thresholds and takes nothing from the context. -/
inductive AnySaga (Settings : Type) where
  | provisioning (saga : ProvisioningSaga Settings)
  | execution (saga : ExecutionSaga)
  | recovery (saga : RecoverySaga)
  | cancellation (saga : CancellationSaga)
  | timeout (saga : TimeoutSaga)
  | cleanup

/-- One call of a dispatcher: its arguments, and the ids it generates. -/
inductive DispatcherCall (Settings : Type) where
  /-- `DynExecutionSagaDispatcher::execute_execution_saga`. -/
  | dynExecution (jobId : JobId) (workerId : WorkerId)
  /-- `ExecutionSagaDispatcher::execute_execution_saga`, which does not pass the
  worker on. -/
  | execution (jobId : JobId) (workerId : WorkerId)
  /-- `ExecutionSagaConsumer::trigger_execution_saga`. -/
  | executionConsumer (jobId : JobId) (workerId : WorkerId)
  /-- `execute_provisioning_saga`; without a job, `ProvisioningSaga::new` makes up
  `generated`. -/
  | provisioning (providerId : ProviderId) (spec : WorkerSpec Settings) (jobId : Option JobId)
      (generated : JobId)
  /-- `execute_recovery_saga`. -/
  | recovery (jobId : JobId) (failedWorkerId : WorkerId) (targetProviderId : Option String)
  /-- `WorkerEphemeralTerminatingConsumer`. -/
  | ephemeralTerminating (workerId : WorkerId) (providerId : ProviderId) (jobId : Option JobId)
      (generatedJobId : JobId) (dummyWorkerId : WorkerId)
  /-- `OrphanWorkerDetectorConsumer::trigger_recovery_saga`. -/
  | orphanRecovery (workerId : WorkerId) (providerId : ProviderId) (generatedJobId : JobId)
  /-- `OrphanWorkerDetectorConsumer::trigger_cleanup_saga`. -/
  | orphanCleanup (workerId : WorkerId) (providerId : ProviderId) (generatedJobId : JobId)
  /-- `WorkerDisconnectionHandlerConsumer::trigger_job_timeout_saga`. -/
  | workerDisconnection (jobId : JobId) (workerId : WorkerId)
  /-- `CancellationSagaConsumer::trigger_cancellation_saga`. -/
  | cancellation (jobId : JobId) (reason : String)
  /-- `TimeoutChecker::trigger_timeout_saga`. -/
  | timeoutChecker (jobId : JobId) (timeoutDuration : Duration)
  /-- `DynTimeoutChecker::trigger_timeout_saga`. -/
  | dynTimeoutChecker (jobId : JobId) (timeoutDuration : Duration)

namespace DispatcherCall

variable {Settings : Type}

/-- The saga that `execute_saga` is given. -/
def saga (text : RustText) : DispatcherCall Settings → AnySaga Settings
  | .dynExecution jobId workerId => .execution (ExecutionSaga.withWorker jobId workerId)
  | .execution jobId _ => .execution ⟨jobId, none⟩
  | .executionConsumer jobId workerId => .execution (ExecutionSaga.withWorker jobId workerId)
  | .provisioning providerId spec jobId generated =>
      .provisioning ⟨spec, providerId, some (jobId.getD generated)⟩
  | .recovery jobId failedWorkerId targetProviderId =>
      .recovery ⟨jobId, failedWorkerId, targetProviderId⟩
  | .ephemeralTerminating workerId _ jobId generatedJobId dummyWorkerId =>
      .recovery ⟨jobId.getD generatedJobId, dummyWorkerId, some (text.display workerId.uuid)⟩
  | .orphanRecovery workerId _ generatedJobId => .recovery ⟨generatedJobId, workerId, none⟩
  | .orphanCleanup workerId providerId generatedJobId =>
      .recovery ⟨generatedJobId, workerId, some (text.display providerId.uuid)⟩
  | .workerDisconnection jobId workerId =>
      .recovery ⟨jobId, workerId, some (text.display workerId.uuid)⟩
  | .cancellation jobId reason => .cancellation ⟨jobId, reason⟩
  | .timeoutChecker jobId timeoutDuration =>
      .timeout ⟨jobId, timeoutDuration, "system_timeout_checker"⟩
  | .dynTimeoutChecker jobId timeoutDuration =>
      .timeout ⟨jobId, timeoutDuration, "system_timeout_checker"⟩

def sagaType : DispatcherCall Settings → SagaType
  | .dynExecution .. | .execution .. | .executionConsumer .. => .execution
  | .provisioning .. => .provisioning
  | .recovery .. | .ephemeralTerminating .. | .orphanRecovery .. | .orphanCleanup ..
  | .workerDisconnection .. => .recovery
  | .cancellation .. => .cancellation
  | .timeoutChecker .. | .dynTimeoutChecker .. => .timeout

def correlationId (text : RustText) (sagaId : SagaId) : DispatcherCall Settings → String
  | .dynExecution jobId _ | .execution jobId _ | .executionConsumer jobId _ =>
      "job-" ++ text.display jobId.uuid
  | .provisioning .. => "provisioning-" ++ text.display sagaId.uuid
  | .recovery .. => "recovery-" ++ text.display sagaId.uuid
  | .ephemeralTerminating workerId .. => "ephemeral-cleanup-" ++ text.display workerId.uuid
  | .orphanRecovery workerId .. => "orphan-recovery-" ++ text.display workerId.uuid
  | .orphanCleanup workerId .. => "orphan-cleanup-" ++ text.display workerId.uuid
  | .workerDisconnection jobId workerId =>
      "job-timeout-" ++ text.display jobId.uuid ++ "-" ++ text.display workerId.uuid
  | .cancellation jobId _ => "cancellation-" ++ text.display jobId.uuid
  | .timeoutChecker jobId _ | .dynTimeoutChecker jobId _ => "timeout-" ++ text.display jobId.uuid

def actor : DispatcherCall Settings → String
  | .dynExecution .. | .execution .. | .provisioning .. => "job_dispatcher"
  | .executionConsumer .. => "execution_saga_consumer"
  | .recovery .. => "lifecycle-manager"
  | .ephemeralTerminating .. => "worker_ephemeral_terminating_consumer"
  | .orphanRecovery .. | .orphanCleanup .. => "orphan_worker_detector_consumer"
  | .workerDisconnection .. => "worker_disconnection_handler_consumer"
  | .cancellation .. => "cancellation_saga_consumer"
  | .timeoutChecker .. => "timeout_checker"
  | .dynTimeoutChecker .. => "dyn_timeout_checker"

/-- The `set_metadata` calls in their order. The timeout checkers make none. -/
def metadata (text : RustText) : DispatcherCall Settings → List (String × String)
  | .dynExecution jobId workerId | .execution jobId workerId | .executionConsumer jobId workerId =>
      [("job_id", text.display jobId.uuid), ("worker_id", text.display workerId.uuid)]
  | .provisioning providerId spec jobId _ =>
      [("provider_id", text.display providerId.uuid)] ++
        (jobId.map fun jobId => ("job_id", text.display jobId.uuid)).toList ++
        [("worker_image", spec.image)]
  | .recovery jobId failedWorkerId _ =>
      [("job_id", text.display jobId.uuid), ("failed_worker_id", text.display failedWorkerId.uuid)]
  | .ephemeralTerminating workerId providerId jobId _ _ =>
      [("worker_id", text.display workerId.uuid), ("provider_id", text.display providerId.uuid)] ++
        (jobId.map fun jobId => ("job_id", text.display jobId.uuid)).toList ++
        [("ephemeral_worker", "ephemeral_worker")]
  | .orphanRecovery workerId providerId _ | .orphanCleanup workerId providerId _ =>
      [("worker_id", text.display workerId.uuid), ("provider_id", text.display providerId.uuid),
        ("orphan_worker", "orphan_worker")]
  | .workerDisconnection jobId workerId =>
      [("job_id", text.display jobId.uuid), ("worker_id", text.display workerId.uuid),
        ("worker_disconnection", "worker_disconnection")]
  | .cancellation jobId reason =>
      [("job_id", text.display jobId.uuid), ("cancellation_reason", reason)]
  | .timeoutChecker .. | .dynTimeoutChecker .. => []

/-- The context that is written. -/
def context (text : RustText) (sagaId : SagaId) (now : DateTime)
    (dispatch : DispatcherCall Settings) : SagaContext :=
  (dispatch.metadata text).foldl
    (fun context entry => context.setMetadata entry.1 (.string entry.2))
    (SagaContext.new sagaId dispatch.sagaType (some (dispatch.correlationId text sagaId))
      (some dispatch.actor) now)

/-- The job and worker ids that the started saga carries. -/
def ids : DispatcherCall Settings → List Uuid
  | .dynExecution jobId workerId | .execution jobId workerId | .executionConsumer jobId workerId =>
      [jobId.uuid, workerId.uuid]
  | .provisioning _ spec jobId generated => [spec.workerId.uuid, (jobId.getD generated).uuid]
  | .recovery jobId failedWorkerId _ => [jobId.uuid, failedWorkerId.uuid]
  | .ephemeralTerminating _ _ jobId generatedJobId dummyWorkerId =>
      [(jobId.getD generatedJobId).uuid, dummyWorkerId.uuid]
  | .orphanRecovery workerId _ generatedJobId | .orphanCleanup workerId _ generatedJobId =>
      [generatedJobId.uuid, workerId.uuid]
  | .workerDisconnection jobId workerId => [jobId.uuid, workerId.uuid]
  | .cancellation jobId _ => [jobId.uuid]
  | .timeoutChecker jobId _ | .dynTimeoutChecker jobId _ => [jobId.uuid]

end DispatcherCall

end HodeiJobs.Dispatch
