import HodeiJobs.Jobs.QueueJob
import HodeiJobs.Outbox.ReadBack
import HodeiJobs.Recovery.FailureHandlers
import HodeiJobs.Recovery.Reconciler

/-!
# Which hand-written rows become events

The rows that five emitters build with `json!`, and what `convert_to_domain_event` makes of
them. Nothing but their texts ties the two together.
-/

namespace HodeiJobs.Outbox

open HodeiJobs.Dispatch (ProviderId)
open HodeiJobs.Execution (JobId Worker WorkerId)
open HodeiJobs.Jobs (Floats jobQueuedRow)
open HodeiJobs.Recovery
open HodeiJobs.Sagas (DateTime Json JsonMap Uuid)
open HodeiJobs.Shared (WorkerState)
open OutboxRelay

/-! ## The rows of the garbage collector -/

namespace WorkerGarbageCollector

variable (texts : RowTexts)

def emitWorkerIdleEvent (workerId : WorkerId) (providerId : ProviderId)
    (lastHeartbeat : DateTime) (idleTimeoutSecs : UInt64) (currentJobId : Option JobId) :
    OutboxEventInsert :=
  .forWorker workerId.uuid "WorkerEphemeralIdle"
    [("worker_id", texts.uuid workerId.uuid), ("provider_id", texts.uuid providerId.uuid),
      ("idle_since", texts.time lastHeartbeat),
      ("idle_timeout_secs", Serde.u64.toValue idleTimeoutSecs),
      ("current_job_id",
        Serde.text.optional (currentJobId.map fun jobId => texts.uuids.display jobId.uuid))]
    [("source", .string "WorkerGarbageCollector"), ("event", .string "idle_timeout_detected")]
    ("worker-idle-" ++ texts.uuids.display workerId.uuid)

structure OrphanWorkerInfo where
  workerId : WorkerId
  providerResourceId : String
  lastSeen : DateTime

/-- Whole seconds; zero for a time that lies ahead. -/
def orphanedDuration (orphan : OrphanWorkerInfo) (now : DateTime) : UInt64 :=
  .ofNat ((now - orphan.lastSeen).toNat / 1000000)

def emitOrphanDetected (orphan : OrphanWorkerInfo) (providerId : ProviderId) (now : DateTime) :
    OutboxEventInsert :=
  .forWorker orphan.workerId.uuid "OrphanWorkerDetected"
    [("worker_id", texts.uuid orphan.workerId.uuid), ("provider_id", texts.uuid providerId.uuid),
      ("last_seen", texts.time orphan.lastSeen),
      ("orphaned_duration_secs", Serde.u64.toValue (orphanedDuration orphan now)),
      ("detection_method", .string "garbage_collection")]
    [("source", .string "WorkerGarbageCollector"),
      ("provider_resource_id", .string orphan.providerResourceId)]
    ("orphan-detected-" ++ texts.uuids.display providerId.uuid ++ "-" ++ toString (timestamp now))

end WorkerGarbageCollector

open WorkerGarbageCollector (OrphanWorkerInfo orphanedDuration)

/-! ## The emitters -/

section

variable {types : FieldTypes} {floats : Floats}

/-- The field types with specifications as they are. -/
def FieldTypes.withSpecs (types : FieldTypes) (floats : Floats) : FieldTypes :=
  { types with JobSpec := HodeiJobs.Jobs.JobSpec floats }

def Codecs.withSpecs (codecs : Codecs types) (serdes : FloatSerdes floats) :
    Codecs (types.withSpecs floats) where
  uuids := codecs.uuids
  times := codecs.times
  jobSpec := HodeiJobs.Outbox.jobSpec serdes
  f64 := codecs.f64
  f64Zero := codecs.f64Zero
  jobFailureReason := codecs.jobFailureReason
  dispatchFailureReason := codecs.dispatchFailureReason
  provisioningFailureReason := codecs.provisioningFailureReason
  schedulingFailureReason := codecs.schedulingFailureReason
  providerErrorType := codecs.providerErrorType

/-- The texts of the emitters: `to_rfc3339` writes what is read back as a time. -/
structure EmitterTexts (codecs : Codecs types) where
  toRfc3339 : DateTime → String
  dispatchReason : DispatchFailureReason → String
  parse_to_rfc3339 : ∀ time, codecs.times.parse (toRfc3339 time) = some time

def EmitterTexts.toFailureTexts {codecs : Codecs types} (texts : EmitterTexts codecs) :
    FailureTexts where
  uuids := codecs.uuids
  toRfc3339 := texts.toRfc3339
  dispatchReason := texts.dispatchReason

/-- A row that one of the emitters writes. -/
inductive Emission (floats : Floats) where
  | jobQueued (jobId : JobId) (spec : HodeiJobs.Jobs.JobSpec floats) (correlationId actor : Option String)
      (now : DateTime)
  | heartbeatMissed (worker : Worker) (jobId : JobId) (now : DateTime)
  | reassignmentRequired (worker : Worker) (jobId : JobId) (now : DateTime)
  | statusChanged (workerId : WorkerId) (oldState newState : WorkerState) (reason : String)
      (now : DateTime)
  | workerIdle (workerId : WorkerId) (providerId : ProviderId) (lastHeartbeat : DateTime)
      (idleTimeoutSecs : UInt64) (currentJobId : Option JobId)
  | orphanDetected (orphan : OrphanWorkerInfo) (providerId : ProviderId) (now : DateTime)
  | dispatchRequeued (jobId : JobId) (nextRetry : UInt32) (backoffSecs : Nat)
  | dispatchFailed (jobId : JobId) (reason : DispatchFailureReason) (now : DateTime)
  | provisioningRequeued (jobId : JobId) (retryCount backoffSecs : Nat)
  | provisioningRequeuedElsewhere (jobId : JobId) (excludedProvider : ProviderId)
      (retryCount : Nat)
  | provisioningFailed (jobId : JobId) (reason : String) (now : DateTime)

namespace Emission

def row (texts : FailureTexts) : Emission floats → OutboxEventInsert
  | .jobQueued jobId spec correlationId actor now =>
      jobQueuedRow texts.toRowTexts jobId spec correlationId actor now
  | .heartbeatMissed worker jobId now =>
      WorkerReconciler.emitHeartbeatMissed texts.toRowTexts worker jobId now
  | .reassignmentRequired worker jobId now =>
      WorkerReconciler.emitJobReassignmentRequired texts.toRowTexts worker jobId now
  | .statusChanged workerId oldState newState reason now =>
      WorkerReconciler.emitStatusChanged texts.toRowTexts workerId oldState newState reason now
  | .workerIdle workerId providerId lastHeartbeat idleTimeoutSecs currentJobId =>
      WorkerGarbageCollector.emitWorkerIdleEvent texts.toRowTexts workerId providerId
        lastHeartbeat idleTimeoutSecs currentJobId
  | .orphanDetected orphan providerId now =>
      WorkerGarbageCollector.emitOrphanDetected texts.toRowTexts orphan providerId now
  | .dispatchRequeued jobId nextRetry backoffSecs =>
      DispatchFailureHandler.emitJobRequeued texts jobId nextRetry backoffSecs
  | .dispatchFailed jobId reason now => DispatchFailureHandler.jobFailed texts jobId reason now
  | .provisioningRequeued jobId retryCount backoffSecs =>
      ProvisioningFailureHandler.emitJobRequeued texts.toRowTexts jobId retryCount backoffSecs
  | .provisioningRequeuedElsewhere jobId excludedProvider retryCount =>
      ProvisioningFailureHandler.emitJobRequeuedDifferentProvider texts.toRowTexts jobId
        excludedProvider retryCount
  | .provisioningFailed jobId reason now =>
      ProvisioningFailureHandler.jobFailed texts.toRowTexts jobId reason now

/-- The event says what the emitter has put into the row. Of a row whose type no event has,
it is only asked that it be accepted. -/
def Carries (codecs : Codecs types) :
    Emission floats → EventDetails (types.withSpecs floats) → Prop
  | .jobQueued jobId spec _ _ _, details =>
      ∃ provider : Option ProviderId, details = .jobQueued jobId provider spec ∧
        provider.map (fun provider => codecs.uuids.display provider.uuid) =
          spec.preferences.preferredProvider
  | .statusChanged workerId oldState newState _ _, details =>
      details = .workerStatusChanged workerId oldState newState
  | .workerIdle workerId providerId lastHeartbeat _ _, details =>
      details = .workerEphemeralIdle workerId providerId lastHeartbeat
  | .orphanDetected orphan providerId now, details =>
      details = .orphanWorkerDetected orphan.workerId providerId orphan.lastSeen
        (orphanedDuration orphan now)
  | .dispatchFailed jobId _ _, details => details = .jobStatusChanged jobId .assigned .failed
  | .provisioningFailed jobId _ _, details => details = .jobStatusChanged jobId .pending .failed
  | .heartbeatMissed _ _ _, _ | .reassignmentRequired _ _ _, _ | .dispatchRequeued _ _ _, _
  | .provisioningRequeued _ _ _, _ | .provisioningRequeuedElsewhere _ _ _, _ => True

/-- The three kinds of rows that an arm can read. -/
def Readable : Emission floats → Prop
  | .statusChanged _ _ _ _ _ | .workerIdle _ _ _ _ _ | .orphanDetected _ _ _ => True
  | _ => False

end Emission

/-! ## The rows read back -/

theorem required_read {Value : Type} {serde : Serde Value} {payload : Json}
    {event field : String} {value : Value}
    (read : serde.fromValue (payload.index field) = some value) :
    required serde payload event field = .ok value := by
  rw [required, read]
  rfl

section ReadBack

variable {codecs : Codecs types} {serdes : FloatSerdes floats}

theorem time_read (texts : EmitterTexts codecs) {payload : Json} {event field : String}
    {time : DateTime} (written : payload.index field = .string (texts.toRfc3339 time)) :
    required (codecs.withSpecs serdes).time payload event field = .ok time := by
  apply required_read
  rw [written]
  exact texts.parse_to_rfc3339 time

/-- A queued row has no environment and no inputs, and its command is a plain array. -/
theorem queued_spec_refused (spec : HodeiJobs.Jobs.JobSpec floats) :
    (HodeiJobs.Outbox.jobSpec serdes).fromValue (HodeiJobs.Jobs.queuedSpec spec) = none :=
  rfl

variable (codecs) (serdes) (texts : EmitterTexts codecs) (id : Uuid) (createdAt now : DateTime)
  (newV4 : Uuid)

/-- What the relay makes of the row, once it is in the table. -/
def relayed (emission : Emission floats) :
    Except String (DomainEvent (types.withSpecs floats)) :=
  convertToDomainEvent (codecs.withSpecs serdes) now newV4
    (EventTable.insertedEvent id createdAt (emission.row texts.toFailureTexts))

theorem relayed_status_changed (workerId : WorkerId) (oldState newState : WorkerState)
    (reason : String) (time : DateTime) :
    ∃ event,
      relayed codecs serdes texts id createdAt now newV4
        (.statusChanged workerId oldState newState reason time) = .ok event ∧
      event.details = .workerStatusChanged workerId oldState newState :=
  ⟨_, ok_bind (required_written rfl) (ok_bind (required_written rfl)
    (ok_bind (required_written rfl) rfl)), rfl⟩

theorem relayed_worker_idle (workerId : WorkerId) (providerId : ProviderId)
    (lastHeartbeat : DateTime) (idleTimeoutSecs : UInt64) (currentJobId : Option JobId) :
    ∃ event,
      relayed codecs serdes texts id createdAt now newV4
        (.workerIdle workerId providerId lastHeartbeat idleTimeoutSecs currentJobId) =
          .ok event ∧
      event.details = .workerEphemeralIdle workerId providerId lastHeartbeat :=
  ⟨_, ok_bind (two_ids_written rfl rfl) (ok_bind (time_read texts rfl) rfl), rfl⟩

theorem relayed_orphan_detected (orphan : OrphanWorkerInfo) (providerId : ProviderId)
    (time : DateTime) :
    ∃ event,
      relayed codecs serdes texts id createdAt now newV4
        (.orphanDetected orphan providerId time) = .ok event ∧
      event.details = .orphanWorkerDetected orphan.workerId providerId orphan.lastSeen
        (orphanedDuration orphan time) :=
  ⟨_, ok_bind (two_ids_written rfl rfl)
    (ok_bind (time_read texts rfl) (ok_bind (required_written rfl) rfl)), rfl⟩

theorem relayed_job_queued (jobId : JobId) (spec : HodeiJobs.Jobs.JobSpec floats)
    (correlationId actor : Option String) (time : DateTime) :
    relayed codecs serdes texts id createdAt now newV4
      (.jobQueued jobId spec correlationId actor time) =
        .error "Invalid job_requirements in JobQueued event" :=
  ok_bind (required_written rfl)
    (error_bind (congrArg (orInvalid · "JobQueued" "job_requirements")
      (queued_spec_refused spec)))

/-- The handlers write `previous_state`, where the arm looks for `old_state`. -/
theorem relayed_job_failed (jobId : JobId) (previousState reason : String) (metadata : JsonMap)
    (time : DateTime) :
    convertToDomainEvent (codecs.withSpecs serdes) now newV4
      (EventTable.insertedEvent id createdAt
        (jobFailedRow texts.toFailureTexts.toRowTexts jobId previousState reason metadata time)) =
      .error "Invalid old_state in JobStatusChanged event" :=
  ok_bind (required_written rfl) (error_bind rfl)

theorem relayed_of_not_readable {emission : Emission floats} (unread : ¬ emission.Readable) :
    ∃ error, relayed codecs serdes texts id createdAt now newV4 emission = .error error := by
  cases emission with
  | jobQueued => exact ⟨_, relayed_job_queued ..⟩
  | dispatchFailed => exact ⟨_, relayed_job_failed codecs serdes texts id createdAt now newV4 ..⟩
  | provisioningFailed => exact ⟨_, relayed_job_failed codecs serdes texts id createdAt now newV4 ..⟩
  | heartbeatMissed | reassignmentRequired | dispatchRequeued | provisioningRequeued
  | provisioningRequeuedElsewhere => exact ⟨_, rfl⟩
  | statusChanged | workerIdle | orphanDetected => exact absurd trivial unread

/-- A row is accepted, as an event that says what was put into it, exactly if it is one of
the three kinds. -/
theorem emission_reads_back_iff_readable (emission : Emission floats) :
    (∃ event,
      convertToDomainEvent (codecs.withSpecs serdes) now newV4
        (EventTable.insertedEvent id createdAt (emission.row texts.toFailureTexts)) =
          .ok event ∧
      emission.Carries codecs event.details) ↔ emission.Readable := by
  constructor
  · intro accepted
    by_contra unread
    obtain ⟨event, converts, _⟩ := accepted
    obtain ⟨error, refused⟩ :=
      relayed_of_not_readable codecs serdes texts id createdAt now newV4 unread
    cases refused.symm.trans converts
  · intro readable
    cases emission with
    | statusChanged => exact relayed_status_changed ..
    | workerIdle => exact relayed_worker_idle ..
    | orphanDetected => exact relayed_orphan_detected ..
    | _ => exact readable.elim

end ReadBack

end

/-! ## A queued job -/

/-- Numbers without a fraction. -/
def wholeFloats : Floats where
  F32 := Int
  F64 := Int
  one := 1
  notPositive value := value ≤ 0
  isPositive value := 0 < value
  narrow value := value

def wholeNumber : Serde Int where
  toValue := .integer
  fromValue
    | .integer value => some value
    | _ => none
  from_to_value _ := rfl
  from_null := rfl

def wholeSerdes : FloatSerdes wholeFloats := ⟨wholeNumber, wholeNumber⟩

def zerosEmitterTexts : EmitterTexts textCodecs where
  toRfc3339 := zerosTimes.display
  dispatchReason _ := "WorkerCrashed"
  parse_to_rfc3339 := zerosTimes.parse_display

def queuedEcho : Emission wholeFloats :=
  .jobQueued ⟨1⟩ (HodeiJobs.Jobs.JobSpec.new wholeFloats ["echo", "hello"]) none none 5

theorem queued_job_is_refused :
    ¬ ∃ event,
      convertToDomainEvent (textCodecs.withSpecs wholeSerdes) 7 4
        (EventTable.insertedEvent 3 6 (queuedEcho.row zerosEmitterTexts.toFailureTexts)) =
          .ok event ∧
      queuedEcho.Carries textCodecs event.details := by
  intro accepted
  obtain ⟨event, converts, _⟩ := accepted
  have refused := relayed_job_queued textCodecs wholeSerdes zerosEmitterTexts 3 6 7 4 ⟨1⟩
    (.new wholeFloats ["echo", "hello"]) none none 5
  cases refused.symm.trans converts

end HodeiJobs.Outbox
