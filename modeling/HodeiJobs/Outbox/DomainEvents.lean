import HodeiJobs.Commands.OutboxRelay
import HodeiJobs.Dispatch.Dispatchers
import HodeiJobs.Outbox.Events
import HodeiJobs.Outbox.Serde
import HodeiJobs.Workers.ProviderType

/-!
# Domain events and the rows that hold them

`DomainEvent` of `domain/src/events.rs` as `Serialize` writes it, and the row that
`publish_with_outbox` inserts for an event.
-/

namespace HodeiJobs.Outbox

open HodeiJobs.Commands (payloadFields)
open HodeiJobs.Dispatch (ProviderId)
open HodeiJobs.Execution (JobId UuidText WorkerId)
open HodeiJobs.Sagas (Json JsonMap Uuid DateTime)
open HodeiJobs.Shared (JobState WorkerState)
open HodeiJobs.WorkerAgent.Secrets (StringMap)
open HodeiJobs.Workers (ProviderType)

/-! ## Reasons -/

inductive CleanupReason where
  | normalTermination
  | ttlExpired
  | orphanDetected
  | forceCleanup
  | providerShutdown
  | workerError
  deriving DecidableEq

/-- The `{:?}` text. -/
def CleanupReason.debug : CleanupReason → String
  | .normalTermination => "NormalTermination"
  | .ttlExpired => "TtlExpired"
  | .orphanDetected => "OrphanDetected"
  | .forceCleanup => "ForceCleanup"
  | .providerShutdown => "ProviderShutdown"
  | .workerError => "WorkerError"

def cleanupReason : Serde CleanupReason :=
  .variant [.normalTermination, .ttlExpired, .orphanDetected, .forceCleanup, .providerShutdown,
    .workerError] CleanupReason.debug fun reason => by cases reason <;> rfl

inductive TerminationReason where
  | unregistered
  | idleTimeout
  | lifetimeExceeded
  | healthCheckFailed
  | manualTermination
  | providerError (message : String)
  | jobCompleted
  | selfInitiated (lastJobId : Option JobId) (expectedCleanupMs actualWaitMs : UInt64)
  deriving DecidableEq

namespace TerminationReason

def toValue (uuid : Serde Uuid) : TerminationReason → Json
  | .unregistered => .string "Unregistered"
  | .idleTimeout => .string "IdleTimeout"
  | .lifetimeExceeded => .string "LifetimeExceeded"
  | .healthCheckFailed => .string "HealthCheckFailed"
  | .manualTermination => .string "ManualTermination"
  | .providerError message => .object [("ProviderError", .object [("message", .string message)])]
  | .jobCompleted => .string "JobCompleted"
  | .selfInitiated lastJobId expectedCleanupMs actualWaitMs =>
      .object [("SelfInitiated", .object
        [("last_job_id", uuid.optional (lastJobId.map JobId.uuid)),
          ("expected_cleanup_ms", Serde.u64.toValue expectedCleanupMs),
          ("actual_wait_ms", Serde.u64.toValue actualWaitMs)])]

/-- The variants without fields. -/
def ofName : String → Option TerminationReason
  | "Unregistered" => some .unregistered
  | "IdleTimeout" => some .idleTimeout
  | "LifetimeExceeded" => some .lifetimeExceeded
  | "HealthCheckFailed" => some .healthCheckFailed
  | "ManualTermination" => some .manualTermination
  | "JobCompleted" => some .jobCompleted
  | _ => none

def fromValue (uuid : Serde Uuid) : Json → Option TerminationReason
  | .string name => ofName name
  | .object [("ProviderError", content)] =>
      match payloadFields ["message"] content with
      | some [some message] => (Serde.text.fromValue message).map .providerError
      | _ => none
  | .object [("SelfInitiated", content)] =>
      match payloadFields ["last_job_id", "expected_cleanup_ms", "actual_wait_ms"] content with
      | some [lastJobId, some expectedCleanupMs, some actualWaitMs] => do
          let lastJobId ← uuid.fromOptional (lastJobId.getD .null)
          let expectedCleanupMs ← Serde.u64.fromValue expectedCleanupMs
          let actualWaitMs ← Serde.u64.fromValue actualWaitMs
          return .selfInitiated (lastJobId.map JobId.mk) expectedCleanupMs actualWaitMs
      | _ => none
  | .object [(name, .null)] => ofName name
  | _ => none

theorem from_value_to_value (uuid : Serde Uuid) (reason : TerminationReason) :
    fromValue uuid (reason.toValue uuid) = some reason := by
  cases reason with
  | unregistered | idleTimeout | lifetimeExceeded | healthCheckFailed | manualTermination
  | jobCompleted => rfl
  | providerError message => rfl
  | selfInitiated lastJobId expectedCleanupMs actualWaitMs =>
      change (do
        let lastJobId ← uuid.fromOptional (uuid.optional (lastJobId.map JobId.uuid))
        let expectedCleanupMs ← Serde.u64.fromValue (Serde.u64.toValue expectedCleanupMs)
        let actualWaitMs ← Serde.u64.fromValue (Serde.u64.toValue actualWaitMs)
        return TerminationReason.selfInitiated (lastJobId.map JobId.mk) expectedCleanupMs
          actualWaitMs) = _
      rw [uuid.from_optional_optional, Serde.from_to_value, Serde.from_to_value]
      cases lastJobId <;> rfl

end TerminationReason

/-! ## Events -/

/-- The types of fields that the outbox only carries along. -/
structure FieldTypes where
  JobSpec : Type
  F64 : Type
  JobFailureReason : Type
  DispatchFailureReason : Type
  ProvisioningFailureReason : Type
  SchedulingFailureReason : Type
  ProviderErrorType : Type

structure Codecs (types : FieldTypes) where
  uuids : UuidText
  times : TimeText
  jobSpec : Serde types.JobSpec
  f64 : Serde types.F64
  f64Zero : types.F64
  jobFailureReason : Serde types.JobFailureReason
  dispatchFailureReason : Serde types.DispatchFailureReason
  provisioningFailureReason : Serde types.ProvisioningFailureReason
  schedulingFailureReason : Serde types.SchedulingFailureReason
  providerErrorType : Serde types.ProviderErrorType

namespace Codecs

variable {types : FieldTypes}

def uuid (codecs : Codecs types) : Serde Uuid := .uuid codecs.uuids

def time (codecs : Codecs types) : Serde DateTime := .time codecs.times

def terminationReason (codecs : Codecs types) : Serde TerminationReason where
  toValue := TerminationReason.toValue codecs.uuid
  fromValue := TerminationReason.fromValue codecs.uuid
  from_to_value := TerminationReason.from_value_to_value codecs.uuid
  from_null := rfl

def jobId (codecs : Codecs types) (id : JobId) : String × Json :=
  ("job_id", codecs.uuid.toValue id.uuid)

def workerId (codecs : Codecs types) (id : WorkerId) : String × Json :=
  ("worker_id", codecs.uuid.toValue id.uuid)

def providerId (codecs : Codecs types) (id : ProviderId) : String × Json :=
  ("provider_id", codecs.uuid.toValue id.uuid)

end Codecs

/-- The variants with their fields, without the three that all of them have: when the event
occurred, the correlation id and the actor. -/
inductive EventDetails (types : FieldTypes) where
  | jobCreated (jobId : JobId) (spec : types.JobSpec)
  | jobStatusChanged (jobId : JobId) (oldState newState : JobState)
  | workerRegistered (workerId : WorkerId) (providerId : ProviderId)
  | workerStatusChanged (workerId : WorkerId) (oldStatus newStatus : WorkerState)
  | providerRegistered (providerId : ProviderId) (providerType configSummary : String)
  | providerUpdated (providerId : ProviderId) (changes : Option String)
  | jobQueueDepthChanged (queueDepth threshold : UInt64)
  | autoScalingTriggered (providerId : ProviderId) (reason : String)
  | jobCancelled (jobId : JobId) (reason : Option String)
  | workerTerminated (workerId : WorkerId) (providerId : ProviderId)
      (reason : TerminationReason)
  | workerDisconnected (workerId : WorkerId) (lastHeartbeat : Option DateTime)
  | workerProvisioned (workerId : WorkerId) (providerId : ProviderId) (specSummary : String)
  | jobRetried (jobId : JobId) (attempt maxAttempts : UInt32)
  | jobAssigned (jobId : JobId) (workerId : WorkerId)
  | jobAccepted (jobId : JobId) (workerId : WorkerId)
  | jobDispatchAcknowledged (jobId : JobId) (workerId : WorkerId)
  | runJobReceived (jobId : JobId) (workerId : WorkerId)
  | providerHealthChanged (providerId : ProviderId) (oldStatus newStatus : ProviderStatus)
  | workerReconnected (workerId : WorkerId) (sessionId : String)
  | workerRecoveryFailed (workerId : WorkerId) (invalidSessionId : String)
  | providerRecovered (providerId : ProviderId) (previousStatus : ProviderStatus)
  | workerEphemeralCreated (workerId : WorkerId) (providerId : ProviderId)
      (maxLifetimeSecs : UInt64) (ttlAfterCompletionSecs : Option UInt64)
  | workerEphemeralReady (workerId : WorkerId) (providerId : ProviderId)
  | workerReady (workerId : WorkerId) (providerId : ProviderId)
  | workerStateUpdated (workerId : WorkerId) (providerId : ProviderId)
      (oldState newState : WorkerState) (currentJobId : Option JobId)
      (lastHeartbeat : Option DateTime) (capabilities : List String) (metadata : StringMap)
      (transitionReason : String)
  | workerEphemeralTerminating (workerId : WorkerId) (providerId : ProviderId)
      (reason : TerminationReason)
  | workerEphemeralTerminated (workerId : WorkerId) (providerId : ProviderId)
      (cleanupScheduled : Bool) (ttlExpiresAt : Option DateTime)
  | workerEphemeralCleanedUp (workerId : WorkerId) (providerId : ProviderId)
      (cleanupReason : CleanupReason) (cleanupDurationMs : UInt64)
  | orphanWorkerDetected (workerId : WorkerId) (providerId : ProviderId) (lastSeen : DateTime)
      (orphanedDurationSecs : UInt64)
  | garbageCollectionCompleted (providerId : ProviderId)
      (workersCleaned orphansDetected errors durationMs : UInt64)
  | workerEphemeralIdle (workerId : WorkerId) (providerId : ProviderId) (idleSince : DateTime)
  | jobExecutionError (jobId : JobId) (workerId : WorkerId)
      (failureReason : types.JobFailureReason) (exitCode : Int32) (command : String)
      (arguments : List String) (workingDir : Option String) (executionTimeMs : UInt64)
      (suggestedActions : List String)
  | jobDispatchFailed (jobId : JobId) (workerId : WorkerId)
      (failureReason : types.DispatchFailureReason) (retryCount : UInt32)
  | workerProvisioningError (workerId : WorkerId) (providerId : ProviderId)
      (failureReason : types.ProvisioningFailureReason)
  | schedulingDecisionFailed (jobId : JobId) (failureReason : types.SchedulingFailureReason)
      (attemptedProviders : List ProviderId)
  | providerExecutionError (providerId : ProviderId) (workerId : WorkerId)
      (errorType : types.ProviderErrorType) (message : String)
  | jobQueued (jobId : JobId) (preferredProvider : Option ProviderId)
      (jobRequirements : types.JobSpec)
  | workerReadyForJob (workerId : WorkerId) (providerId : ProviderId)
      (capabilities : List String) (tags : StringMap)
  | workerProvisioningRequested (jobId : JobId) (providerId : ProviderId)
      (jobRequirements : types.JobSpec)
  | providerSelected (jobId : JobId) (providerId : ProviderId) (providerType : ProviderType)
      (selectionStrategy : String) (effectiveCost : types.F64)
      (effectiveStartupMs elapsedMs : UInt64)
  | workerHeartbeat (workerId : WorkerId) (state : WorkerState) (loadAverage : Option types.F64)
      (memoryUsageMb : Option UInt64) (currentJobId : Option JobId)
  | workerSelfTerminated (workerId : WorkerId) (providerId : ProviderId)
      (lastJobId : Option JobId) (expectedCleanupMs actualWaitMs : UInt64)
      (workerState : WorkerState)
  | templateCreated (templateId templateName : String) (version : UInt32)
      (createdBy : Option String) (specSummary : String)
  | templateUpdated (templateId templateName : String) (oldVersion newVersion : UInt32)
      (changes : Option String)
  | templateDisabled (templateId templateName : String) (version : UInt32)
  | templateRunCreated (templateId templateName executionId : String) (jobId : Option JobId)
      (jobName : String) (templateVersion : UInt32) (executionNumber : UInt64)
      (triggeredBy : String) (triggeredByUser : Option String)
  | executionRecorded (executionId templateId : String) (jobId : Option JobId) (status : String)
      (exitCode : Option Int32) (durationMs : Option UInt64)
  | scheduledJobCreated (scheduledJobId name templateId cronExpression timezone : String)
      (createdBy : Option String)
  | scheduledJobTriggered (scheduledJobId name templateId executionId : String)
      (jobId : Option JobId) (scheduledFor triggeredAt : DateTime) (parameters : StringMap)
  | scheduledJobMissed (scheduledJobId name : String) (scheduledFor detectedAt : DateTime)
      (reason : String)
  | scheduledJobError (scheduledJobId name errorMessage : String) (executionId : Option String)
  | sagaCompleted (sagaId : Uuid) (sagaType : String) (durationMs : UInt64)
      (stepsExecuted : UInt32)
  | sagaFailed (sagaId : Uuid) (sagaType errorMessage : String) (failedAtStep : UInt32)
      (compensationTriggered : Bool)
  | sagaTimedOut (sagaId : Uuid) (sagaType : String) (timeoutDurationMs elapsedMs : UInt64)
      (stepsCompleted : UInt32)

namespace EventDetails

variable {types : FieldTypes}

open Serde (text bool u64 u32 i32 stringMap)

def eventType : EventDetails types → String
  | .jobCreated .. => "JobCreated"
  | .jobStatusChanged .. => "JobStatusChanged"
  | .workerRegistered .. => "WorkerRegistered"
  | .workerStatusChanged .. => "WorkerStatusChanged"
  | .providerRegistered .. => "ProviderRegistered"
  | .providerUpdated .. => "ProviderUpdated"
  | .jobQueueDepthChanged .. => "JobQueueDepthChanged"
  | .autoScalingTriggered .. => "AutoScalingTriggered"
  | .jobCancelled .. => "JobCancelled"
  | .workerTerminated .. => "WorkerTerminated"
  | .workerDisconnected .. => "WorkerDisconnected"
  | .workerProvisioned .. => "WorkerProvisioned"
  | .jobRetried .. => "JobRetried"
  | .jobAssigned .. => "JobAssigned"
  | .jobAccepted .. => "JobAccepted"
  | .jobDispatchAcknowledged .. => "JobDispatchAcknowledged"
  | .runJobReceived .. => "RunJobReceived"
  | .providerHealthChanged .. => "ProviderHealthChanged"
  | .workerReconnected .. => "WorkerReconnected"
  | .workerRecoveryFailed .. => "WorkerRecoveryFailed"
  | .providerRecovered .. => "ProviderRecovered"
  | .workerEphemeralCreated .. => "WorkerEphemeralCreated"
  | .workerEphemeralReady .. => "WorkerEphemeralReady"
  | .workerReady .. => "WorkerReady"
  | .workerStateUpdated .. => "WorkerStateUpdated"
  | .workerEphemeralTerminating .. => "WorkerEphemeralTerminating"
  | .workerEphemeralTerminated .. => "WorkerEphemeralTerminated"
  | .workerEphemeralCleanedUp .. => "WorkerEphemeralCleanedUp"
  | .orphanWorkerDetected .. => "OrphanWorkerDetected"
  | .garbageCollectionCompleted .. => "GarbageCollectionCompleted"
  | .workerEphemeralIdle .. => "WorkerEphemeralIdle"
  | .jobExecutionError .. => "JobExecutionError"
  | .jobDispatchFailed .. => "JobDispatchFailed"
  | .workerProvisioningError .. => "WorkerProvisioningError"
  | .schedulingDecisionFailed .. => "SchedulingDecisionFailed"
  | .providerExecutionError .. => "ProviderExecutionError"
  | .jobQueued .. => "JobQueued"
  | .workerReadyForJob .. => "WorkerReadyForJob"
  | .workerProvisioningRequested .. => "WorkerProvisioningRequested"
  | .providerSelected .. => "ProviderSelected"
  | .workerHeartbeat .. => "WorkerHeartbeat"
  | .workerSelfTerminated .. => "WorkerSelfTerminated"
  | .templateCreated .. => "TemplateCreated"
  | .templateUpdated .. => "TemplateUpdated"
  | .templateDisabled .. => "TemplateDisabled"
  | .templateRunCreated .. => "TemplateRunCreated"
  | .executionRecorded .. => "ExecutionRecorded"
  | .scheduledJobCreated .. => "ScheduledJobCreated"
  | .scheduledJobTriggered .. => "ScheduledJobTriggered"
  | .scheduledJobMissed .. => "ScheduledJobMissed"
  | .scheduledJobError .. => "ScheduledJobError"
  | .sagaCompleted .. => "SagaCompleted"
  | .sagaFailed .. => "SagaFailed"
  | .sagaTimedOut .. => "SagaTimedOut"

/-- The name of the field that says when the event occurred. -/
def timeField : EventDetails types → String
  | .jobDispatchAcknowledged _ _ => "acknowledged_at"
  | .runJobReceived _ _ => "received_at"
  | .workerReady _ _ | .workerReadyForJob _ _ _ _ => "ready_at"
  | .jobQueued _ _ _ => "queued_at"
  | .workerProvisioningRequested _ _ _ => "requested_at"
  | _ => "occurred_at"

/-- Saga events have no actor. -/
def isSaga : EventDetails types → Bool
  | .sagaCompleted _ _ _ _ | .sagaFailed _ _ _ _ _ | .sagaTimedOut _ _ _ _ _ => true
  | _ => false

def aggregateId (uuids : UuidText) : EventDetails types → String
  | .jobCreated jobId _ | .jobStatusChanged jobId _ _ | .jobCancelled jobId _
  | .jobRetried jobId _ _ | .jobAssigned jobId _ | .jobAccepted jobId _
  | .jobDispatchAcknowledged jobId _ | .runJobReceived jobId _
  | .jobExecutionError jobId _ _ _ _ _ _ _ _ | .jobDispatchFailed jobId _ _ _
  | .schedulingDecisionFailed jobId _ _ | .jobQueued jobId _ _
  | .workerProvisioningRequested jobId _ _ | .providerSelected jobId _ _ _ _ _ _ =>
      uuids.display jobId.uuid
  | .workerRegistered workerId _ | .workerStatusChanged workerId _ _
  | .workerTerminated workerId _ _ | .workerDisconnected workerId _
  | .workerProvisioned workerId _ _ | .workerReconnected workerId _
  | .workerRecoveryFailed workerId _ | .workerEphemeralCreated workerId _ _ _
  | .workerEphemeralReady workerId _ | .workerReady workerId _
  | .workerStateUpdated workerId _ _ _ _ _ _ _ _ | .workerEphemeralTerminating workerId _ _
  | .workerEphemeralTerminated workerId _ _ _ | .workerEphemeralCleanedUp workerId _ _ _
  | .orphanWorkerDetected workerId _ _ _ | .workerEphemeralIdle workerId _ _
  | .workerProvisioningError workerId _ _ | .workerReadyForJob workerId _ _ _
  | .workerHeartbeat workerId _ _ _ _ | .workerSelfTerminated workerId _ _ _ _ _ =>
      uuids.display workerId.uuid
  | .garbageCollectionCompleted providerId _ _ _ _ | .providerRegistered providerId _ _
  | .providerUpdated providerId _ | .providerHealthChanged providerId _ _
  | .autoScalingTriggered providerId _ | .providerRecovered providerId _
  | .providerExecutionError providerId _ _ _ =>
      uuids.display providerId.uuid
  | .jobQueueDepthChanged _ _ => "SYSTEM_QUEUE"
  | .templateCreated templateId _ _ _ _ | .templateUpdated templateId _ _ _ _
  | .templateDisabled templateId _ _ | .templateRunCreated templateId _ _ _ _ _ _ _ _
  | .executionRecorded _ templateId _ _ _ _ =>
      templateId
  | .scheduledJobCreated scheduledJobId _ _ _ _ _
  | .scheduledJobTriggered scheduledJobId _ _ _ _ _ _ _
  | .scheduledJobMissed scheduledJobId _ _ _ _ | .scheduledJobError scheduledJobId _ _ _ =>
      scheduledJobId
  | .sagaCompleted sagaId _ _ _ | .sagaFailed sagaId _ _ _ _ | .sagaTimedOut sagaId _ _ _ _ =>
      uuids.display sagaId

def fields (codecs : Codecs types) : EventDetails types → JsonMap
  | .jobCreated jobId spec =>
      [codecs.jobId jobId, ("spec", codecs.jobSpec.toValue spec)]
  | .jobStatusChanged jobId oldState newState =>
      [codecs.jobId jobId, ("old_state", jobState.toValue oldState),
        ("new_state", jobState.toValue newState)]
  | .workerRegistered workerId providerId | .workerEphemeralReady workerId providerId
  | .workerReady workerId providerId =>
      [codecs.workerId workerId, codecs.providerId providerId]
  | .workerStatusChanged workerId oldStatus newStatus =>
      [codecs.workerId workerId, ("old_status", workerState.toValue oldStatus),
        ("new_status", workerState.toValue newStatus)]
  | .providerRegistered providerId providerType configSummary =>
      [codecs.providerId providerId, ("provider_type", text.toValue providerType),
        ("config_summary", text.toValue configSummary)]
  | .providerUpdated providerId changes =>
      [codecs.providerId providerId, ("changes", text.optional changes)]
  | .jobQueueDepthChanged queueDepth threshold =>
      [("queue_depth", u64.toValue queueDepth), ("threshold", u64.toValue threshold)]
  | .autoScalingTriggered providerId reason =>
      [codecs.providerId providerId, ("reason", text.toValue reason)]
  | .jobCancelled jobId reason =>
      [codecs.jobId jobId, ("reason", text.optional reason)]
  | .workerTerminated workerId providerId reason
  | .workerEphemeralTerminating workerId providerId reason =>
      [codecs.workerId workerId, codecs.providerId providerId,
        ("reason", codecs.terminationReason.toValue reason)]
  | .workerDisconnected workerId lastHeartbeat =>
      [codecs.workerId workerId, ("last_heartbeat", codecs.time.optional lastHeartbeat)]
  | .workerProvisioned workerId providerId specSummary =>
      [codecs.workerId workerId, codecs.providerId providerId,
        ("spec_summary", text.toValue specSummary)]
  | .jobRetried jobId attempt maxAttempts =>
      [codecs.jobId jobId, ("attempt", u32.toValue attempt),
        ("max_attempts", u32.toValue maxAttempts)]
  | .jobAssigned jobId workerId | .jobAccepted jobId workerId
  | .jobDispatchAcknowledged jobId workerId | .runJobReceived jobId workerId =>
      [codecs.jobId jobId, codecs.workerId workerId]
  | .providerHealthChanged providerId oldStatus newStatus =>
      [codecs.providerId providerId, ("old_status", providerStatus.toValue oldStatus),
        ("new_status", providerStatus.toValue newStatus)]
  | .workerReconnected workerId sessionId =>
      [codecs.workerId workerId, ("session_id", text.toValue sessionId)]
  | .workerRecoveryFailed workerId invalidSessionId =>
      [codecs.workerId workerId, ("invalid_session_id", text.toValue invalidSessionId)]
  | .providerRecovered providerId previousStatus =>
      [codecs.providerId providerId, ("previous_status", providerStatus.toValue previousStatus)]
  | .workerEphemeralCreated workerId providerId maxLifetimeSecs ttlAfterCompletionSecs =>
      [codecs.workerId workerId, codecs.providerId providerId,
        ("max_lifetime_secs", u64.toValue maxLifetimeSecs),
        ("ttl_after_completion_secs", u64.optional ttlAfterCompletionSecs)]
  | .workerStateUpdated workerId providerId oldState newState currentJobId lastHeartbeat
      capabilities metadata transitionReason =>
      [codecs.workerId workerId, codecs.providerId providerId,
        ("old_state", workerState.toValue oldState), ("new_state", workerState.toValue newState),
        ("current_job_id", codecs.uuid.optional (currentJobId.map JobId.uuid)),
        ("last_heartbeat", codecs.time.optional lastHeartbeat),
        ("capabilities", text.list capabilities), ("metadata", stringMap metadata),
        ("transition_reason", text.toValue transitionReason)]
  | .workerEphemeralTerminated workerId providerId cleanupScheduled ttlExpiresAt =>
      [codecs.workerId workerId, codecs.providerId providerId,
        ("cleanup_scheduled", bool.toValue cleanupScheduled),
        ("ttl_expires_at", codecs.time.optional ttlExpiresAt)]
  | .workerEphemeralCleanedUp workerId providerId cleanupReason cleanupDurationMs =>
      [codecs.workerId workerId, codecs.providerId providerId,
        ("cleanup_reason", Outbox.cleanupReason.toValue cleanupReason),
        ("cleanup_duration_ms", u64.toValue cleanupDurationMs)]
  | .orphanWorkerDetected workerId providerId lastSeen orphanedDurationSecs =>
      [codecs.workerId workerId, codecs.providerId providerId,
        ("last_seen", codecs.time.toValue lastSeen),
        ("orphaned_duration_secs", u64.toValue orphanedDurationSecs)]
  | .garbageCollectionCompleted providerId workersCleaned orphansDetected errors durationMs =>
      [codecs.providerId providerId, ("workers_cleaned", u64.toValue workersCleaned),
        ("orphans_detected", u64.toValue orphansDetected), ("errors", u64.toValue errors),
        ("duration_ms", u64.toValue durationMs)]
  | .workerEphemeralIdle workerId providerId idleSince =>
      [codecs.workerId workerId, codecs.providerId providerId,
        ("idle_since", codecs.time.toValue idleSince)]
  | .jobExecutionError jobId workerId failureReason exitCode command arguments workingDir
      executionTimeMs suggestedActions =>
      [codecs.jobId jobId, codecs.workerId workerId,
        ("failure_reason", codecs.jobFailureReason.toValue failureReason),
        ("exit_code", i32.toValue exitCode), ("command", text.toValue command),
        ("arguments", text.list arguments), ("working_dir", text.optional workingDir),
        ("execution_time_ms", u64.toValue executionTimeMs),
        ("suggested_actions", text.list suggestedActions)]
  | .jobDispatchFailed jobId workerId failureReason retryCount =>
      [codecs.jobId jobId, codecs.workerId workerId,
        ("failure_reason", codecs.dispatchFailureReason.toValue failureReason),
        ("retry_count", u32.toValue retryCount)]
  | .workerProvisioningError workerId providerId failureReason =>
      [codecs.workerId workerId, codecs.providerId providerId,
        ("failure_reason", codecs.provisioningFailureReason.toValue failureReason)]
  | .schedulingDecisionFailed jobId failureReason attemptedProviders =>
      [codecs.jobId jobId, ("failure_reason", codecs.schedulingFailureReason.toValue failureReason),
        ("attempted_providers", codecs.uuid.list (attemptedProviders.map ProviderId.uuid))]
  | .providerExecutionError providerId workerId errorType message =>
      [codecs.providerId providerId, codecs.workerId workerId,
        ("error_type", codecs.providerErrorType.toValue errorType),
        ("message", text.toValue message)]
  | .jobQueued jobId preferredProvider jobRequirements =>
      [codecs.jobId jobId,
        ("preferred_provider", codecs.uuid.optional (preferredProvider.map ProviderId.uuid)),
        ("job_requirements", codecs.jobSpec.toValue jobRequirements)]
  | .workerReadyForJob workerId providerId capabilities tags =>
      [codecs.workerId workerId, codecs.providerId providerId,
        ("capabilities", text.list capabilities), ("tags", stringMap tags)]
  | .workerProvisioningRequested jobId providerId jobRequirements =>
      [codecs.jobId jobId, codecs.providerId providerId,
        ("job_requirements", codecs.jobSpec.toValue jobRequirements)]
  | .providerSelected jobId providerId providerType selectionStrategy effectiveCost
      effectiveStartupMs elapsedMs =>
      [codecs.jobId jobId, codecs.providerId providerId, ("provider_type", providerType.serialize),
        ("selection_strategy", text.toValue selectionStrategy),
        ("effective_cost", codecs.f64.toValue effectiveCost),
        ("effective_startup_ms", u64.toValue effectiveStartupMs),
        ("elapsed_ms", u64.toValue elapsedMs)]
  | .workerHeartbeat workerId state loadAverage memoryUsageMb currentJobId =>
      [codecs.workerId workerId, ("state", workerState.toValue state),
        ("load_average", codecs.f64.optional loadAverage),
        ("memory_usage_mb", u64.optional memoryUsageMb),
        ("current_job_id", codecs.uuid.optional (currentJobId.map JobId.uuid))]
  | .workerSelfTerminated workerId providerId lastJobId expectedCleanupMs actualWaitMs
      workerState =>
      [codecs.workerId workerId, codecs.providerId providerId,
        ("last_job_id", codecs.uuid.optional (lastJobId.map JobId.uuid)),
        ("expected_cleanup_ms", u64.toValue expectedCleanupMs),
        ("actual_wait_ms", u64.toValue actualWaitMs),
        ("worker_state", Outbox.workerState.toValue workerState)]
  | .templateCreated templateId templateName version createdBy specSummary =>
      [("template_id", text.toValue templateId), ("template_name", text.toValue templateName),
        ("version", u32.toValue version), ("created_by", text.optional createdBy),
        ("spec_summary", text.toValue specSummary)]
  | .templateUpdated templateId templateName oldVersion newVersion changes =>
      [("template_id", text.toValue templateId), ("template_name", text.toValue templateName),
        ("old_version", u32.toValue oldVersion), ("new_version", u32.toValue newVersion),
        ("changes", text.optional changes)]
  | .templateDisabled templateId templateName version =>
      [("template_id", text.toValue templateId), ("template_name", text.toValue templateName),
        ("version", u32.toValue version)]
  | .templateRunCreated templateId templateName executionId jobId jobName templateVersion
      executionNumber triggeredBy triggeredByUser =>
      [("template_id", text.toValue templateId), ("template_name", text.toValue templateName),
        ("execution_id", text.toValue executionId),
        ("job_id", codecs.uuid.optional (jobId.map JobId.uuid)),
        ("job_name", text.toValue jobName), ("template_version", u32.toValue templateVersion),
        ("execution_number", u64.toValue executionNumber),
        ("triggered_by", text.toValue triggeredBy),
        ("triggered_by_user", text.optional triggeredByUser)]
  | .executionRecorded executionId templateId jobId status exitCode durationMs =>
      [("execution_id", text.toValue executionId), ("template_id", text.toValue templateId),
        ("job_id", codecs.uuid.optional (jobId.map JobId.uuid)),
        ("status", text.toValue status), ("exit_code", i32.optional exitCode),
        ("duration_ms", u64.optional durationMs)]
  | .scheduledJobCreated scheduledJobId name templateId cronExpression timezone createdBy =>
      [("scheduled_job_id", text.toValue scheduledJobId), ("name", text.toValue name),
        ("template_id", text.toValue templateId),
        ("cron_expression", text.toValue cronExpression), ("timezone", text.toValue timezone),
        ("created_by", text.optional createdBy)]
  | .scheduledJobTriggered scheduledJobId name templateId executionId jobId scheduledFor
      triggeredAt parameters =>
      [("scheduled_job_id", text.toValue scheduledJobId), ("name", text.toValue name),
        ("template_id", text.toValue templateId), ("execution_id", text.toValue executionId),
        ("job_id", codecs.uuid.optional (jobId.map JobId.uuid)),
        ("scheduled_for", codecs.time.toValue scheduledFor),
        ("triggered_at", codecs.time.toValue triggeredAt), ("parameters", stringMap parameters)]
  | .scheduledJobMissed scheduledJobId name scheduledFor detectedAt reason =>
      [("scheduled_job_id", text.toValue scheduledJobId), ("name", text.toValue name),
        ("scheduled_for", codecs.time.toValue scheduledFor),
        ("detected_at", codecs.time.toValue detectedAt), ("reason", text.toValue reason)]
  | .scheduledJobError scheduledJobId name errorMessage executionId =>
      [("scheduled_job_id", text.toValue scheduledJobId), ("name", text.toValue name),
        ("error_message", text.toValue errorMessage), ("execution_id", text.optional executionId)]
  | .sagaCompleted sagaId sagaType durationMs stepsExecuted =>
      [("saga_id", codecs.uuid.toValue sagaId), ("saga_type", text.toValue sagaType),
        ("duration_ms", u64.toValue durationMs), ("steps_executed", u32.toValue stepsExecuted)]
  | .sagaFailed sagaId sagaType errorMessage failedAtStep compensationTriggered =>
      [("saga_id", codecs.uuid.toValue sagaId), ("saga_type", text.toValue sagaType),
        ("error_message", text.toValue errorMessage), ("failed_at_step", u32.toValue failedAtStep),
        ("compensation_triggered", bool.toValue compensationTriggered)]
  | .sagaTimedOut sagaId sagaType timeoutDurationMs elapsedMs stepsCompleted =>
      [("saga_id", codecs.uuid.toValue sagaId), ("saga_type", text.toValue sagaType),
        ("timeout_duration_ms", u64.toValue timeoutDurationMs),
        ("elapsed_ms", u64.toValue elapsedMs), ("steps_completed", u32.toValue stepsCompleted)]

end EventDetails

structure DomainEvent (types : FieldTypes) where
  details : EventDetails types
  occurredAt : DateTime
  correlationId : Option String
  actor : Option String
  agentless : details.isSaga = true → actor = none

namespace DomainEvent

variable {types : FieldTypes}

/-- The fields that every variant has; those of a saga event are without the actor. -/
def auditFields (codecs : Codecs types) (event : DomainEvent types) : JsonMap :=
  (event.details.timeField, codecs.time.toValue event.occurredAt) ::
    ("correlation_id", Serde.text.optional event.correlationId) ::
      if event.details.isSaga then [] else [("actor", Serde.text.optional event.actor)]

/-- `serde_json::to_value`: the variant, with its fields under its name. -/
def toValue (codecs : Codecs types) (event : DomainEvent types) : Json :=
  .object [(event.details.eventType,
    .object (event.details.fields codecs ++ event.auditFields codecs))]

/-- The metadata of `publish_with_outbox`. -/
def metadata (codecs : Codecs types) (event : DomainEvent types) : Json :=
  .object [("event_type", .string event.details.eventType),
    ("correlation_id", Serde.text.optional event.correlationId),
    ("actor", Serde.text.optional event.actor),
    ("aggregate_id", .string (event.details.aggregateId codecs.uuids)),
    ("occurred_at", codecs.time.toValue event.occurredAt)]

end DomainEvent

/-- The record that `publish_with_outbox` hands to `insert_events`. -/
def publishWithOutbox {types : FieldTypes} (codecs : Codecs types) (aggregateId : Uuid)
    (aggregateType : AggregateType) (event : DomainEvent types)
    (idempotencyKey : Option String) : OutboxEventInsert where
  aggregateId := aggregateId
  aggregateType := aggregateType
  eventType := event.details.eventType
  payload := event.toValue codecs
  metadata := some (event.metadata codecs)
  idempotencyKey := idempotencyKey

end HodeiJobs.Outbox
