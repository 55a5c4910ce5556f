import Mathlib.Logic.Equiv.Nat
import HodeiJobs.Outbox.Conversion

/-!
# Which events come back

Of the rows that `publish_with_outbox` writes, those that `convert_to_domain_event` turns
back into the events they were written for.
-/

namespace HodeiJobs.Outbox

open HodeiJobs.Commands (zerosText)
open HodeiJobs.Sagas (Json Uuid DateTime)
open OutboxRelay

variable {types : FieldTypes}

/-- What `publish_with_outbox` and `insert_events` are given besides the event. -/
structure Publication where
  id : Uuid
  aggregateId : Uuid
  aggregateType : AggregateType
  idempotencyKey : Option String
  createdAt : DateTime

/-- The row that is written for an event. -/
def Publication.row (publication : Publication) (codecs : Codecs types)
    (event : DomainEvent types) : OutboxEventView :=
  EventTable.insertedEvent publication.id publication.createdAt
    (publishWithOutbox codecs publication.aggregateId publication.aggregateType event
      publication.idempotencyKey)

/-- The variant has an arm, and the arm reads every value of its fields. -/
def EventDetails.ReadBack : EventDetails types → Prop
  | .workerStateUpdated _ _ _ _ currentJobId _ _ _ _ => currentJobId ≠ none
  | .workerEphemeralTerminated _ _ _ ttlExpiresAt => ttlExpiresAt ≠ none
  | .providerSelected _ _ providerType _ _ _ _ => ∀ name, providerType ≠ .custom name
  | .jobQueueDepthChanged _ _ | .jobExecutionError _ _ _ _ _ _ _ _ _
  | .jobDispatchFailed _ _ _ _ | .workerProvisioningError _ _ _
  | .schedulingDecisionFailed _ _ _ | .providerExecutionError _ _ _ _
  | .workerReadyForJob _ _ _ _ | .workerSelfTerminated _ _ _ _ _ _ | .templateCreated _ _ _ _ _
  | .templateUpdated _ _ _ _ _ | .templateDisabled _ _ _ | .templateRunCreated _ _ _ _ _ _ _ _ _
  | .executionRecorded _ _ _ _ _ _ | .scheduledJobCreated _ _ _ _ _ _
  | .scheduledJobTriggered _ _ _ _ _ _ _ _ | .scheduledJobMissed _ _ _ _ _
  | .scheduledJobError _ _ _ _ | .sagaCompleted _ _ _ _ | .sagaFailed _ _ _ _ _
  | .sagaTimedOut _ _ _ _ _ => False
  | _ => True

section Published

variable (codecs : Codecs types) (publication : Publication) (now : DateTime) (newV4 : Uuid)

theorem unwrapped_row (event : DomainEvent types) :
    unwrapped (publication.row codecs event) =
      written codecs event.details (event.auditFields codecs) :=
  unwrapped_wrapped rfl

theorem converted_row (event : DomainEvent types) (time : DateTime)
    (hasActor : event.details.isSaga = false) :
    converted (publication.row codecs event) time event.details hasActor =
      { event with occurredAt := time } := by
  have correlationId : metadataText (publication.row codecs event) "correlation_id" =
      event.correlationId := metadata_text_written rfl rfl
  have actor : metadataText (publication.row codecs event) "actor" = event.actor :=
    metadata_text_written rfl rfl
  simp only [converted, correlationId, actor]

variable {codecs publication now newV4}

/-- The event, with its own time or with the time of the row. -/
def GivenBack (publication : Publication) (event : DomainEvent types)
    (result : Except String (DomainEvent types)) : Prop :=
  result = .ok event ∨ result = .ok { event with occurredAt := publication.createdAt }

theorem given_back {event : DomainEvent types}
    {arm : OutboxEventView → Json → Except String (DomainEvent types)}
    (reads : ReadsBack codecs arm event.details)
    (dispatched : convertToDomainEvent codecs now newV4 (publication.row codecs event) =
      arm (publication.row codecs event) (unwrapped (publication.row codecs event))) :
    GivenBack publication event
      (convertToDomainEvent codecs now newV4 (publication.row codecs event)) := by
  obtain ⟨hasActor, reads⟩ := reads
  rw [dispatched, unwrapped_row, reads, converted_row]
  exact .inr rfl

theorem given_back_time {event : DomainEvent types}
    {arm : OutboxEventView → Json → Except String (DomainEvent types)}
    (reads : ReadsTimeBack codecs arm event.details)
    (dispatched : convertToDomainEvent codecs now newV4 (publication.row codecs event) =
      arm (publication.row codecs event) (unwrapped (publication.row codecs event))) :
    GivenBack publication event
      (convertToDomainEvent codecs now newV4 (publication.row codecs event)) := by
  obtain ⟨hasActor, reads⟩ := reads
  rw [dispatched, unwrapped_row, DomainEvent.auditFields, reads, converted_row]
  exact .inl rfl

theorem convert_published {event : DomainEvent types} (readBack : event.details.ReadBack) :
    GivenBack publication event
      (convertToDomainEvent codecs now newV4 (publication.row codecs event)) := by
  obtain ⟨details, occurredAt, correlationId, actor, agentless⟩ := event
  cases details with
  | jobCreated => exact given_back (convert_job_created codecs ..) rfl
  | jobStatusChanged => exact given_back (convert_job_status_changed codecs ..) rfl
  | workerRegistered => exact given_back (convert_worker_registered codecs ..) rfl
  | workerStatusChanged => exact given_back (convert_worker_status_changed codecs ..) rfl
  | providerRegistered => exact given_back (convert_provider_registered codecs ..) rfl
  | providerUpdated => exact given_back (convert_provider_updated codecs ..) rfl
  | autoScalingTriggered => exact given_back (convert_auto_scaling_triggered codecs ..) rfl
  | jobCancelled => exact given_back (convert_job_cancelled codecs ..) rfl
  | workerTerminated => exact given_back (convert_worker_terminated codecs ..) rfl
  | workerDisconnected => exact given_back (convert_worker_disconnected codecs ..) rfl
  | workerProvisioned => exact given_back (convert_worker_provisioned codecs ..) rfl
  | jobRetried => exact given_back (convert_job_retried codecs ..) rfl
  | jobAssigned => exact given_back (convert_job_assigned codecs ..) rfl
  | jobAccepted => exact given_back (convert_job_accepted codecs ..) rfl
  | jobDispatchAcknowledged =>
      exact given_back_time (convert_job_dispatch_acknowledged codecs ..) rfl
  | runJobReceived => exact given_back_time (convert_run_job_received codecs ..) rfl
  | providerHealthChanged => exact given_back (convert_provider_health_changed codecs ..) rfl
  | workerReconnected => exact given_back (convert_worker_reconnected codecs ..) rfl
  | workerRecoveryFailed => exact given_back (convert_worker_recovery_failed codecs ..) rfl
  | providerRecovered => exact given_back (convert_provider_recovered codecs ..) rfl
  | workerEphemeralCreated => exact given_back (convert_worker_ephemeral_created codecs ..) rfl
  | workerEphemeralReady => exact given_back (convert_worker_ephemeral_ready codecs ..) rfl
  | workerReady => exact given_back (convert_worker_ready codecs ..) rfl
  | workerEphemeralTerminating =>
      exact given_back (convert_worker_ephemeral_terminating codecs ..) rfl
  | workerEphemeralCleanedUp => exact given_back (convert_worker_ephemeral_cleaned_up codecs ..) rfl
  | orphanWorkerDetected => exact given_back (convert_orphan_worker_detected codecs ..) rfl
  | garbageCollectionCompleted =>
      exact given_back (convert_garbage_collection_completed codecs ..) rfl
  | workerEphemeralIdle => exact given_back (convert_worker_ephemeral_idle codecs ..) rfl
  | jobQueued => exact given_back_time (convert_job_queued codecs ..) rfl
  | workerProvisioningRequested =>
      exact given_back_time (convert_worker_provisioning_requested codecs now ..) rfl
  | workerHeartbeat => exact given_back (convert_worker_heartbeat codecs ..) rfl
  | workerStateUpdated _ _ _ _ currentJobId =>
      cases currentJobId with
      | none => exact absurd rfl readBack
      | some currentJobId =>
          exact given_back (convert_worker_state_updated codecs ..) rfl
  | workerEphemeralTerminated _ _ _ ttlExpiresAt =>
      cases ttlExpiresAt with
      | none => exact absurd rfl readBack
      | some ttlExpiresAt =>
          exact given_back (convert_worker_ephemeral_terminated codecs ..) rfl
  | providerSelected =>
      exact given_back_time
        (convert_provider_selected codecs now _ _ readBack ..) rfl
  | _ => exact readBack.elim

/-- A variant without an arm, or a null that its arm refuses. -/
theorem refused_or_custom {event : DomainEvent types} (lost : ¬ event.details.ReadBack) :
    (∃ error, convertToDomainEvent codecs now newV4 (publication.row codecs event) =
      .error error) ∨
    ∃ jobId providerId name selectionStrategy effectiveCost effectiveStartupMs elapsedMs,
      event.details = .providerSelected jobId providerId (.custom name) selectionStrategy
        effectiveCost effectiveStartupMs elapsedMs := by
  obtain ⟨details, occurredAt, correlationId, actor, agentless⟩ := event
  cases details with
  | workerStateUpdated _ _ _ _ currentJobId =>
      cases currentJobId with
      | none => exact .inl ⟨_, convert_worker_state_updated_null codecs ..⟩
      | some currentJobId => exact absurd (fun same => by cases same) lost
  | workerEphemeralTerminated _ _ _ ttlExpiresAt =>
      cases ttlExpiresAt with
      | none => exact .inl ⟨_, convert_worker_ephemeral_terminated_null codecs ..⟩
      | some ttlExpiresAt => exact absurd (fun same => by cases same) lost
  | providerSelected jobId providerId providerType =>
      cases providerType with
      | custom name => exact .inr ⟨jobId, providerId, name, _, _, _, _, rfl⟩
      | _ => exact absurd (fun name same => by cases same) lost
  | jobQueueDepthChanged | jobExecutionError | jobDispatchFailed | workerProvisioningError
  | schedulingDecisionFailed | providerExecutionError | workerReadyForJob | workerSelfTerminated
  | templateCreated | templateUpdated | templateDisabled | templateRunCreated
  | executionRecorded | scheduledJobCreated | scheduledJobTriggered | scheduledJobMissed
  | scheduledJobError | sagaCompleted | sagaFailed | sagaTimedOut =>
      exact .inl ⟨_, rfl⟩
  | _ => exact absurd trivial lost

/-- An event that is not read back is refused, or read as an event with other details. -/
theorem details_ne_of_lost {event result : DomainEvent types} (lost : ¬ event.details.ReadBack)
    (converts : convertToDomainEvent codecs now newV4 (publication.row codecs event) =
      .ok result) : result.details ≠ event.details := by
  rcases refused_or_custom lost with ⟨error, refused⟩ | ⟨_, _, _, _, _, _, _, custom⟩
  · rw [refused] at converts
    cases converts
  · rw [custom]
    have dispatched : convertToDomainEvent codecs now newV4 (publication.row codecs event) =
        convertProviderSelected codecs (publication.row codecs event)
          (unwrapped (publication.row codecs event)) now := by
      have type : (publication.row codecs event).eventType = "ProviderSelected" :=
        congrArg EventDetails.eventType custom
      rw [convertToDomainEvent, type]
      rfl
    rw [dispatched] at converts
    exact convert_provider_selected_built_in codecs _ _ converts _ _ _ _ _ _ _

end Published

/-- The row of an event is converted into the event, up to the time, exactly if its details
can be read back. -/
theorem published_converts_back_iff (codecs : Codecs types) (publication : Publication)
    (now : DateTime) (newV4 : Uuid) (event : DomainEvent types) :
    (∃ converted,
      convertToDomainEvent codecs now newV4 (publication.row codecs event) = .ok converted ∧
        (converted = event ∨
          converted = { event with occurredAt := publication.createdAt })) ↔
      event.details.ReadBack := by
  constructor
  · rintro ⟨converted, converts, same⟩
    by_contra lost
    apply details_ne_of_lost lost converts
    rcases same with same | same <;> rw [same]
  · intro readBack
    rcases convert_published readBack with converts | converts
    · exact ⟨_, converts, .inl rfl⟩
    · exact ⟨_, converts, .inr rfl⟩

/-- Times that are written as so many zeros. -/
def zerosTimes : TimeText where
  display time := String.ofList (List.replicate (Equiv.intEquivNat time) '0')
  parse text := some (Equiv.intEquivNat.symm text.length)
  parseFromRfc3339 text := some (Equiv.intEquivNat.symm text.length)
  parse_display time := by
    rw [String.length_ofList, List.length_replicate, Equiv.symm_apply_apply]
  parse_from_rfc3339_display time := by
    rw [String.length_ofList, List.length_replicate, Equiv.symm_apply_apply]

def textTypes : FieldTypes where
  JobSpec := String
  F64 := String
  JobFailureReason := String
  DispatchFailureReason := String
  ProvisioningFailureReason := String
  SchedulingFailureReason := String
  ProviderErrorType := String

def textCodecs : Codecs textTypes where
  uuids := zerosText
  times := zerosTimes
  jobSpec := .text
  f64 := .text
  f64Zero := "0.0"
  jobFailureReason := .text
  dispatchFailureReason := .text
  provisioningFailureReason := .text
  schedulingFailureReason := .text
  providerErrorType := .text

/-- A worker that is terminated without a time to live. -/
def terminatedWorker : DomainEvent textTypes where
  details := .workerEphemeralTerminated ⟨1⟩ ⟨2⟩ true none
  occurredAt := 5
  correlationId := some "correlation"
  actor := some "system"
  agentless isSaga := by cases isSaga

def terminatedPublication : Publication := ⟨3, 1, .worker, none, 6⟩

theorem terminated_worker_not_converted :
    ¬ ∃ converted,
      convertToDomainEvent textCodecs 7 4
        (terminatedPublication.row textCodecs terminatedWorker) = .ok converted ∧
          (converted = terminatedWorker ∨ converted =
            { terminatedWorker with occurredAt := terminatedPublication.createdAt }) := by
  rintro ⟨converted, converts, _⟩
  have refused := convert_worker_ephemeral_terminated_null textCodecs
    (terminatedPublication.row textCodecs terminatedWorker) ⟨1⟩ ⟨2⟩ true
    (terminatedWorker.auditFields textCodecs)
  cases refused.symm.trans converts

end HodeiJobs.Outbox
