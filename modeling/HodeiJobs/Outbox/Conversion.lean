import HodeiJobs.Outbox.DomainEvents
import HodeiJobs.Outbox.Relays

/-!
# From rows back to events

`OutboxRelay::convert_to_domain_event`, with one definition for each of its arms and beside
it what the arm makes of the fields that the event of its variant writes.
-/

namespace HodeiJobs.Outbox.OutboxRelay

open HodeiJobs.Dispatch (ProviderId)
open HodeiJobs.Execution (JobId WorkerId)
open HodeiJobs.Sagas (Json JsonMap Uuid DateTime)
open HodeiJobs.Shared (JobState WorkerState)
open HodeiJobs.WorkerAgent.Secrets (StringMap)
open HodeiJobs.Workers (ProviderType)

variable {types : FieldTypes} {Value : Type}

/-! ## Reading fields -/

def orInvalid (value : Option Value) (event field : String) : Except String Value :=
  match value with
  | some value => .ok value
  | none => .error ("Invalid " ++ field ++ " in " ++ event ++ " event")

/-- `from_value(payload[field])`: an absent field is read as null. -/
def required (serde : Serde Value) (payload : Json) (event field : String) :
    Except String Value :=
  orInvalid (serde.fromValue (payload.index field)) event field

/-- `from_value::<Option<_>>` of a field that may be absent. -/
def nullable (serde : Serde Value) (payload : Json) (event field : String) :
    Except String (Option Value) :=
  match payload.get field with
  | none => .ok none
  | some value => orInvalid (serde.fromOptional value) event field

/-- `from_value::<_>` of a field that may be absent: null is refused. -/
def presentOrAbsent (serde : Serde Value) (payload : Json) (event field : String) :
    Except String (Option Value) :=
  match payload.get field with
  | none => .ok none
  | some value => (orInvalid (serde.fromValue value) event field).map some

/-- An accessor of `Value` on a field that may be absent. -/
def accessed (read : Json → Option Value) (payload : Json) (field : String) : Option Value :=
  (payload.get field).bind read

/-- The two ids with which most arms begin. -/
def twoIds (codecs : Codecs types) (payload : Json) (event first second : String) :
    Except String (Uuid × Uuid) := do
  let one ← required codecs.uuid payload event first
  let other ← required codecs.uuid payload event second
  return (one, other)

theorem ok_bind {Result : Type} {first : Except String Value}
    {next : Value → Except String Result} {value : Value} {result : Except String Result}
    (reads : first = .ok value) (continues : next value = result) :
    (first >>= next) = result := by
  rw [reads]
  exact continues

theorem error_bind {Result : Type} {first : Except String Value}
    {next : Value → Except String Result} {error : String} (fails : first = .error error) :
    (first >>= next) = .error error := by
  rw [fails]
  rfl

theorem required_written {serde : Serde Value} {payload : Json} {event field : String}
    {value : Value} (written : payload.index field = serde.toValue value) :
    required serde payload event field = .ok value := by
  rw [required, written, serde.from_to_value]
  rfl

theorem nullable_written {serde : Serde Value} {payload : Json} {event field : String}
    {value : Option Value} (written : payload.get field = some (serde.optional value)) :
    nullable serde payload event field = .ok value := by
  simp only [nullable, written, serde.from_optional_optional, orInvalid]

theorem present_or_absent_written {serde : Serde Value} {payload : Json} {event field : String}
    {value : Value} (written : payload.get field = some (serde.toValue value)) :
    presentOrAbsent serde payload event field = .ok (some value) := by
  simp only [presentOrAbsent, written, serde.from_to_value, orInvalid]
  rfl

theorem present_or_absent_null {serde : Serde Value} {payload : Json} {event field : String}
    (written : payload.get field = some .null) :
    presentOrAbsent serde payload event field =
      .error ("Invalid " ++ field ++ " in " ++ event ++ " event") := by
  simp only [presentOrAbsent, written, serde.from_null, orInvalid]
  rfl

theorem accessed_written {serde : Serde Value} {payload : Json} {field : String} {value : Value}
    (written : payload.get field = some (serde.toValue value)) :
    accessed serde.fromValue payload field = some value := by
  rw [accessed, written]
  exact serde.from_to_value value

theorem accessed_optional {serde : Serde Value} {payload : Json} {field : String}
    {value : Option Value} (written : payload.get field = some (serde.optional value)) :
    accessed serde.fromValue payload field = value := by
  rw [accessed, written]
  exact serde.from_value_optional value

theorem or_invalid_written {serde : Serde Value} {event field : String} {value : Value}
    {read : Json} (written : read = serde.toValue value) :
    orInvalid (serde.fromValue read) event field = .ok value := by
  rw [written, serde.from_to_value]
  rfl

theorem text_accessed {payload : Json} {field text : String}
    (written : payload.get field = some (Serde.text.toValue text)) :
    accessed Json.asStr payload field = some text :=
  accessed_written written

theorem optional_text_accessed {payload : Json} {field : String} {text : Option String}
    (written : payload.get field = some (Serde.text.optional text)) :
    accessed Json.asStr payload field = text :=
  accessed_optional written

theorem items_accessed {payload : Json} {field : String} {values : List String}
    (written : payload.get field = some (Serde.text.list values)) :
    accessed textItems payload field = some values := by
  rw [accessed, written]
  exact text_items_list values

theorem entries_accessed {payload : Json} {field : String} {map : StringMap}
    (written : payload.get field = some (Serde.stringMap map)) :
    accessed textEntries payload field = some map := by
  rw [accessed, written]
  exact text_entries_string_map map

theorem parsed_written {codecs : Codecs types} {payload : Json} {field : String}
    {id : Option Uuid} (written : payload.get field = some (codecs.uuid.optional id)) :
    (accessed Json.asStr payload field).bind codecs.uuids.parse = id := by
  rw [accessed, Option.bind_assoc]
  exact accessed_optional written

theorem parsed_job {codecs : Codecs types} {payload : Json} {field : String} {job : Option JobId}
    (written : payload.get field = some (codecs.uuid.optional (job.map JobId.uuid))) :
    ((accessed Json.asStr payload field).bind codecs.uuids.parse).map JobId.mk = job := by
  rw [parsed_written written]
  cases job <;> rfl

theorem parsed_provider {codecs : Codecs types} {payload : Json} {field : String}
    {provider : Option ProviderId}
    (written : payload.get field = some (codecs.uuid.optional (provider.map ProviderId.uuid))) :
    ((accessed Json.asStr payload field).bind codecs.uuids.parse).map ProviderId.mk =
      provider := by
  rw [parsed_written written]
  cases provider <;> rfl

/-- A time is read back by every parser that reads its text. -/
theorem parsed_time {codecs : Codecs types} {payload : Json} {field : String} {time : DateTime}
    {parse : String → Option DateTime} (parses : parse (codecs.times.display time) = some time)
    (written : payload.get field = some (codecs.time.toValue time)) (otherwise : DateTime) :
    ((accessed Json.asStr payload field).bind parse).getD otherwise = time := by
  have read : accessed Json.asStr payload field = some (codecs.times.display time) := by
    rw [accessed, written]
    rfl
  rw [read, Option.bind_some, parses, Option.getD_some]

theorem two_ids_written {codecs : Codecs types} {payload : Json} {event first second : String}
    {one other : Uuid} (writtenFirst : payload.index first = codecs.uuid.toValue one)
    (writtenSecond : payload.index second = codecs.uuid.toValue other) :
    twoIds codecs payload event first second = .ok (one, other) :=
  ok_bind (required_written writtenFirst) (ok_bind (required_written writtenSecond) rfl)

def metadataText (row : OutboxEventView) (key : String) : Option String :=
  row.metadata.bind (accessed Json.asStr · key)

theorem metadata_text_written {row : OutboxEventView} {metadata : Json} {key : String}
    {text : Option String} (stored : row.metadata = some metadata)
    (written : metadata.get key = some (Serde.text.optional text)) :
    metadataText row key = text := by
  rw [metadataText, stored]
  exact optional_text_accessed written

/-- The event with the correlation id and the actor of the row's metadata. -/
def converted (row : OutboxEventView) (occurredAt : DateTime) (details : EventDetails types)
    (hasActor : details.isSaga = false) : DomainEvent types where
  details := details
  occurredAt := occurredAt
  correlationId := metadataText row "correlation_id"
  actor := metadataText row "actor"
  agentless isSaga := absurd (hasActor.symm.trans isSaga) Bool.false_ne_true

theorem converted_congr {row : OutboxEventView} {time other : DateTime}
    {details same : EventDetails types} {hasActor : details.isSaga = false}
    {sameActor : same.isSaga = false} (times : time = other) (equal : details = same) :
    (Except.ok (converted row time details hasActor) : Except String (DomainEvent types)) =
      .ok (converted row other same sameActor) := by
  cases times
  cases equal
  rfl

/-- The inner payload of an event: its own fields and those that every variant has. -/
def written (codecs : Codecs types) (details : EventDetails types) (audit : JsonMap) : Json :=
  .object (details.fields codecs ++ audit)

/-- An arm gives an event back from its fields, with the time of the row. -/
def ReadsBack (codecs : Codecs types)
    (arm : OutboxEventView → Json → Except String (DomainEvent types))
    (details : EventDetails types) : Prop :=
  ∃ hasActor, ∀ row audit,
    arm row (written codecs details audit) = .ok (converted row row.createdAt details hasActor)

/-- The same, with the time of the event. -/
def ReadsTimeBack (codecs : Codecs types)
    (arm : OutboxEventView → Json → Except String (DomainEvent types))
    (details : EventDetails types) : Prop :=
  ∃ hasActor, ∀ row time audit,
    arm row (written codecs details ((details.timeField, codecs.time.toValue time) :: audit)) =
      .ok (converted row time details hasActor)

/-! ## The arms -/

section Arms

variable (codecs : Codecs types) (row : OutboxEventView) (payload : Json)

def convertJobCreated : Except String (DomainEvent types) := do
  let jobId ← required codecs.uuid payload "JobCreated" "job_id"
  let spec ← required codecs.jobSpec payload "JobCreated" "spec"
  return converted row row.createdAt (.jobCreated ⟨jobId⟩ spec) rfl

theorem convert_job_created (jobId : JobId) (spec : types.JobSpec) :
    ReadsBack codecs (convertJobCreated codecs) (.jobCreated jobId spec) :=
  ⟨rfl, fun _ _ => ok_bind (required_written rfl) (ok_bind (required_written rfl) rfl)⟩

/-- The first of the two arms for the type; the second is never reached. -/
def convertJobQueued : Except String (DomainEvent types) := do
  let jobId ← required codecs.uuid payload "JobQueued" "job_id"
  let preferredProvider :=
    (accessed Json.asStr payload "preferred_provider").bind codecs.uuids.parse
  let requirements :=
    ((payload.get "job_requirements").or (payload.get "spec")).getD (.object [])
  let jobRequirements ←
    orInvalid (codecs.jobSpec.fromValue requirements) "JobQueued" "job_requirements"
  let queuedAt := (accessed Json.asStr payload "queued_at").bind codecs.times.parse
  return converted row (queuedAt.getD row.createdAt)
    (.jobQueued ⟨jobId⟩ (preferredProvider.map ProviderId.mk) jobRequirements) rfl

theorem convert_job_queued (jobId : JobId) (preferredProvider : Option ProviderId)
    (jobRequirements : types.JobSpec) :
    ReadsTimeBack codecs (convertJobQueued codecs)
      (.jobQueued jobId preferredProvider jobRequirements) := by
  refine ⟨rfl, fun row time audit => ok_bind (required_written rfl)
    (ok_bind (or_invalid_written rfl)
      (converted_congr (parsed_time (codecs.times.parse_display time) rfl row.createdAt) ?_))⟩
  rw [parsed_provider rfl]

def convertJobAssigned : Except String (DomainEvent types) := do
  let (jobId, workerId) ← twoIds codecs payload "JobAssigned" "job_id" "worker_id"
  return converted row row.createdAt (.jobAssigned ⟨jobId⟩ ⟨workerId⟩) rfl

theorem convert_job_assigned (jobId : JobId) (workerId : WorkerId) :
    ReadsBack codecs (convertJobAssigned codecs) (.jobAssigned jobId workerId) :=
  ⟨rfl, fun _ _ => ok_bind (two_ids_written rfl rfl) rfl⟩

def convertJobAccepted : Except String (DomainEvent types) := do
  let (jobId, workerId) ← twoIds codecs payload "JobAccepted" "job_id" "worker_id"
  return converted row row.createdAt (.jobAccepted ⟨jobId⟩ ⟨workerId⟩) rfl

theorem convert_job_accepted (jobId : JobId) (workerId : WorkerId) :
    ReadsBack codecs (convertJobAccepted codecs) (.jobAccepted jobId workerId) :=
  ⟨rfl, fun _ _ => ok_bind (two_ids_written rfl rfl) rfl⟩

def convertJobStatusChanged : Except String (DomainEvent types) := do
  let jobId ← required codecs.uuid payload "JobStatusChanged" "job_id"
  let oldState ← required jobState payload "JobStatusChanged" "old_state"
  let newState ← required jobState payload "JobStatusChanged" "new_state"
  return converted row row.createdAt (.jobStatusChanged ⟨jobId⟩ oldState newState) rfl

theorem convert_job_status_changed (jobId : JobId) (oldState newState : JobState) :
    ReadsBack codecs (convertJobStatusChanged codecs)
      (.jobStatusChanged jobId oldState newState) :=
  ⟨rfl, fun _ _ =>
    ok_bind (required_written rfl) (ok_bind (required_written rfl)
      (ok_bind (required_written rfl) rfl))⟩

def convertWorkerReady : Except String (DomainEvent types) := do
  let (workerId, providerId) ← twoIds codecs payload "WorkerReady" "worker_id" "provider_id"
  return converted row row.createdAt (.workerReady ⟨workerId⟩ ⟨providerId⟩) rfl

theorem convert_worker_ready (workerId : WorkerId) (providerId : ProviderId) :
    ReadsBack codecs (convertWorkerReady codecs) (.workerReady workerId providerId) :=
  ⟨rfl, fun _ _ => ok_bind (two_ids_written rfl rfl) rfl⟩

def convertWorkerStatusChanged : Except String (DomainEvent types) := do
  let workerId ← required codecs.uuid payload "WorkerStatusChanged" "worker_id"
  let oldStatus ← required workerState payload "WorkerStatusChanged" "old_status"
  let newStatus ← required workerState payload "WorkerStatusChanged" "new_status"
  return converted row row.createdAt (.workerStatusChanged ⟨workerId⟩ oldStatus newStatus) rfl

theorem convert_worker_status_changed (workerId : WorkerId) (oldStatus newStatus : WorkerState) :
    ReadsBack codecs (convertWorkerStatusChanged codecs)
      (.workerStatusChanged workerId oldStatus newStatus) :=
  ⟨rfl, fun _ _ =>
    ok_bind (required_written rfl) (ok_bind (required_written rfl)
      (ok_bind (required_written rfl) rfl))⟩

def convertWorkerRegistered : Except String (DomainEvent types) := do
  let (workerId, providerId) ← twoIds codecs payload "WorkerRegistered" "worker_id" "provider_id"
  return converted row row.createdAt (.workerRegistered ⟨workerId⟩ ⟨providerId⟩) rfl

theorem convert_worker_registered (workerId : WorkerId) (providerId : ProviderId) :
    ReadsBack codecs (convertWorkerRegistered codecs) (.workerRegistered workerId providerId) :=
  ⟨rfl, fun _ _ => ok_bind (two_ids_written rfl rfl) rfl⟩

def convertWorkerTerminated : Except String (DomainEvent types) := do
  let (workerId, providerId) ← twoIds codecs payload "WorkerTerminated" "worker_id" "provider_id"
  let reason ← required codecs.terminationReason payload "WorkerTerminated" "reason"
  return converted row row.createdAt (.workerTerminated ⟨workerId⟩ ⟨providerId⟩ reason) rfl

theorem convert_worker_terminated (workerId : WorkerId) (providerId : ProviderId)
    (reason : TerminationReason) :
    ReadsBack codecs (convertWorkerTerminated codecs)
      (.workerTerminated workerId providerId reason) :=
  ⟨rfl, fun _ _ => ok_bind (two_ids_written rfl rfl) (ok_bind (required_written rfl) rfl)⟩

def convertWorkerDisconnected : Except String (DomainEvent types) := do
  let workerId ← required codecs.uuid payload "WorkerDisconnected" "worker_id"
  let lastHeartbeat ← nullable codecs.time payload "WorkerDisconnected" "last_heartbeat"
  return converted row row.createdAt (.workerDisconnected ⟨workerId⟩ lastHeartbeat) rfl

theorem convert_worker_disconnected (workerId : WorkerId) (lastHeartbeat : Option DateTime) :
    ReadsBack codecs (convertWorkerDisconnected codecs)
      (.workerDisconnected workerId lastHeartbeat) :=
  ⟨rfl, fun _ _ => ok_bind (required_written rfl) (ok_bind (nullable_written rfl) rfl)⟩

def convertJobDispatchAcknowledged : Except String (DomainEvent types) := do
  let (jobId, workerId) ← twoIds codecs payload "JobDispatchAcknowledged" "job_id" "worker_id"
  let acknowledgedAt ← required codecs.time payload "JobDispatchAcknowledged" "acknowledged_at"
  return converted row acknowledgedAt (.jobDispatchAcknowledged ⟨jobId⟩ ⟨workerId⟩) rfl

theorem convert_job_dispatch_acknowledged (jobId : JobId) (workerId : WorkerId) :
    ReadsTimeBack codecs (convertJobDispatchAcknowledged codecs)
      (.jobDispatchAcknowledged jobId workerId) :=
  ⟨rfl, fun _ _ _ => ok_bind (two_ids_written rfl rfl) (ok_bind (required_written rfl) rfl)⟩

def convertRunJobReceived : Except String (DomainEvent types) := do
  let (jobId, workerId) ← twoIds codecs payload "RunJobReceived" "job_id" "worker_id"
  let receivedAt ← required codecs.time payload "RunJobReceived" "received_at"
  return converted row receivedAt (.runJobReceived ⟨jobId⟩ ⟨workerId⟩) rfl

theorem convert_run_job_received (jobId : JobId) (workerId : WorkerId) :
    ReadsTimeBack codecs (convertRunJobReceived codecs) (.runJobReceived jobId workerId) :=
  ⟨rfl, fun _ _ _ => ok_bind (two_ids_written rfl rfl) (ok_bind (required_written rfl) rfl)⟩

def convertJobRetried : Except String (DomainEvent types) := do
  let jobId ← required codecs.uuid payload "JobRetried" "job_id"
  let attempt ← required Serde.u32 payload "JobRetried" "attempt"
  let maxAttempts ← required Serde.u32 payload "JobRetried" "max_attempts"
  return converted row row.createdAt (.jobRetried ⟨jobId⟩ attempt maxAttempts) rfl

theorem convert_job_retried (jobId : JobId) (attempt maxAttempts : UInt32) :
    ReadsBack codecs (convertJobRetried codecs) (.jobRetried jobId attempt maxAttempts) :=
  ⟨rfl, fun _ _ =>
    ok_bind (required_written rfl) (ok_bind (required_written rfl)
      (ok_bind (required_written rfl) rfl))⟩

def convertJobCancelled : Except String (DomainEvent types) := do
  let jobId ← required codecs.uuid payload "JobCancelled" "job_id"
  let reason := accessed Json.asStr payload "reason"
  return converted row row.createdAt (.jobCancelled ⟨jobId⟩ reason) rfl

theorem convert_job_cancelled (jobId : JobId) (reason : Option String) :
    ReadsBack codecs (convertJobCancelled codecs) (.jobCancelled jobId reason) := by
  refine ⟨rfl, fun row audit => ok_bind (required_written rfl) (converted_congr rfl ?_)⟩
  exact congrArg (EventDetails.jobCancelled jobId) (optional_text_accessed rfl)

def convertProviderHealthChanged : Except String (DomainEvent types) := do
  let providerId ← required codecs.uuid payload "ProviderHealthChanged" "provider_id"
  let oldStatus ← required providerStatus payload "ProviderHealthChanged" "old_status"
  let newStatus ← required providerStatus payload "ProviderHealthChanged" "new_status"
  return converted row row.createdAt (.providerHealthChanged ⟨providerId⟩ oldStatus newStatus) rfl

theorem convert_provider_health_changed (providerId : ProviderId)
    (oldStatus newStatus : ProviderStatus) :
    ReadsBack codecs (convertProviderHealthChanged codecs)
      (.providerHealthChanged providerId oldStatus newStatus) :=
  ⟨rfl, fun _ _ =>
    ok_bind (required_written rfl) (ok_bind (required_written rfl)
      (ok_bind (required_written rfl) rfl))⟩

def convertWorkerReconnected : Except String (DomainEvent types) := do
  let workerId ← required codecs.uuid payload "WorkerReconnected" "worker_id"
  let sessionId ← required Serde.text payload "WorkerReconnected" "session_id"
  return converted row row.createdAt (.workerReconnected ⟨workerId⟩ sessionId) rfl

theorem convert_worker_reconnected (workerId : WorkerId) (sessionId : String) :
    ReadsBack codecs (convertWorkerReconnected codecs) (.workerReconnected workerId sessionId) :=
  ⟨rfl, fun _ _ => ok_bind (required_written rfl) (ok_bind (required_written rfl) rfl)⟩

def convertWorkerRecoveryFailed : Except String (DomainEvent types) := do
  let workerId ← required codecs.uuid payload "WorkerRecoveryFailed" "worker_id"
  let invalidSessionId ← required Serde.text payload "WorkerRecoveryFailed" "invalid_session_id"
  return converted row row.createdAt (.workerRecoveryFailed ⟨workerId⟩ invalidSessionId) rfl

theorem convert_worker_recovery_failed (workerId : WorkerId) (invalidSessionId : String) :
    ReadsBack codecs (convertWorkerRecoveryFailed codecs)
      (.workerRecoveryFailed workerId invalidSessionId) :=
  ⟨rfl, fun _ _ => ok_bind (required_written rfl) (ok_bind (required_written rfl) rfl)⟩

def convertWorkerHeartbeat : Except String (DomainEvent types) := do
  let workerId ← required codecs.uuid payload "WorkerHeartbeat" "worker_id"
  let currentJobId := (accessed Json.asStr payload "current_job_id").bind codecs.uuids.parse
  let state ← required workerState payload "WorkerHeartbeat" "state"
  let loadAverage := accessed codecs.f64.fromValue payload "load_average"
  let memoryUsageMb := accessed Serde.u64.fromValue payload "memory_usage_mb"
  return converted row row.createdAt
    (.workerHeartbeat ⟨workerId⟩ state loadAverage memoryUsageMb (currentJobId.map JobId.mk)) rfl

theorem convert_worker_heartbeat (workerId : WorkerId) (state : WorkerState)
    (loadAverage : Option types.F64) (memoryUsageMb : Option UInt64)
    (currentJobId : Option JobId) :
    ReadsBack codecs (convertWorkerHeartbeat codecs)
      (.workerHeartbeat workerId state loadAverage memoryUsageMb currentJobId) := by
  refine ⟨rfl, fun row audit => ok_bind (required_written rfl)
    (ok_bind (required_written rfl) (converted_congr rfl ?_))⟩
  rw [parsed_job rfl, accessed_optional rfl, accessed_optional rfl]

def convertProviderRecovered : Except String (DomainEvent types) := do
  let providerId ← required codecs.uuid payload "ProviderRecovered" "provider_id"
  let previousStatus ← required providerStatus payload "ProviderRecovered" "previous_status"
  return converted row row.createdAt (.providerRecovered ⟨providerId⟩ previousStatus) rfl

theorem convert_provider_recovered (providerId : ProviderId) (previousStatus : ProviderStatus) :
    ReadsBack codecs (convertProviderRecovered codecs)
      (.providerRecovered providerId previousStatus) :=
  ⟨rfl, fun _ _ => ok_bind (required_written rfl) (ok_bind (required_written rfl) rfl)⟩

def convertWorkerEphemeralCreated : Except String (DomainEvent types) := do
  let (workerId, providerId) ←
    twoIds codecs payload "WorkerEphemeralCreated" "worker_id" "provider_id"
  let maxLifetimeSecs ←
    required Serde.u64 payload "WorkerEphemeralCreated" "max_lifetime_secs"
  let ttlAfterCompletionSecs :=
    accessed Serde.u64.fromValue payload "ttl_after_completion_secs"
  return converted row row.createdAt
    (.workerEphemeralCreated ⟨workerId⟩ ⟨providerId⟩ maxLifetimeSecs ttlAfterCompletionSecs) rfl

theorem convert_worker_ephemeral_created (workerId : WorkerId) (providerId : ProviderId)
    (maxLifetimeSecs : UInt64) (ttlAfterCompletionSecs : Option UInt64) :
    ReadsBack codecs (convertWorkerEphemeralCreated codecs)
      (.workerEphemeralCreated workerId providerId maxLifetimeSecs ttlAfterCompletionSecs) := by
  refine ⟨rfl, fun row audit => ok_bind (two_ids_written rfl rfl)
    (ok_bind (required_written rfl) (converted_congr rfl ?_))⟩
  exact congrArg (EventDetails.workerEphemeralCreated workerId providerId maxLifetimeSecs)
    (accessed_optional rfl)

def convertWorkerEphemeralReady : Except String (DomainEvent types) := do
  let (workerId, providerId) ←
    twoIds codecs payload "WorkerEphemeralReady" "worker_id" "provider_id"
  return converted row row.createdAt (.workerEphemeralReady ⟨workerId⟩ ⟨providerId⟩) rfl

theorem convert_worker_ephemeral_ready (workerId : WorkerId) (providerId : ProviderId) :
    ReadsBack codecs (convertWorkerEphemeralReady codecs)
      (.workerEphemeralReady workerId providerId) :=
  ⟨rfl, fun _ _ => ok_bind (two_ids_written rfl rfl) rfl⟩

/-- A `current_job_id` that is null is refused, one that is absent is not. -/
def convertWorkerStateUpdated : Except String (DomainEvent types) := do
  let (workerId, providerId) ←
    twoIds codecs payload "WorkerStateUpdated" "worker_id" "provider_id"
  let currentJobId ← presentOrAbsent codecs.uuid payload "WorkerStateUpdated" "current_job_id"
  let lastHeartbeat ← nullable codecs.time payload "WorkerStateUpdated" "last_heartbeat"
  let capabilities := (accessed textItems payload "capabilities").getD []
  let metadata := (accessed textEntries payload "metadata").getD ⟨[], List.nodup_nil⟩
  let oldState ← required workerState payload "WorkerStateUpdated" "old_state"
  let newState ← required workerState payload "WorkerStateUpdated" "new_state"
  let transitionReason ←
    required Serde.text payload "WorkerStateUpdated" "transition_reason"
  return converted row row.createdAt
    (.workerStateUpdated ⟨workerId⟩ ⟨providerId⟩ oldState newState (currentJobId.map JobId.mk)
      lastHeartbeat capabilities metadata transitionReason) rfl

theorem convert_worker_state_updated (workerId : WorkerId) (providerId : ProviderId)
    (oldState newState : WorkerState) (currentJobId : JobId) (lastHeartbeat : Option DateTime)
    (capabilities : List String) (metadata : StringMap) (transitionReason : String) :
    ReadsBack codecs (convertWorkerStateUpdated codecs)
      (.workerStateUpdated workerId providerId oldState newState (some currentJobId) lastHeartbeat
        capabilities metadata transitionReason) := by
  refine ⟨rfl, fun row audit => ok_bind (two_ids_written rfl rfl)
    (ok_bind (present_or_absent_written rfl) (ok_bind (nullable_written rfl)
      (ok_bind (required_written rfl) (ok_bind (required_written rfl)
        (ok_bind (required_written rfl) (converted_congr rfl ?_))))))⟩
  rw [items_accessed rfl, entries_accessed rfl]
  rfl

theorem convert_worker_state_updated_null (workerId : WorkerId) (providerId : ProviderId)
    (oldState newState : WorkerState) (lastHeartbeat : Option DateTime)
    (capabilities : List String) (metadata : StringMap) (transitionReason : String)
    (audit : JsonMap) :
    convertWorkerStateUpdated codecs row (written codecs (.workerStateUpdated workerId providerId
      oldState newState none lastHeartbeat capabilities metadata transitionReason) audit) =
        .error "Invalid current_job_id in WorkerStateUpdated event" :=
  ok_bind (two_ids_written rfl rfl) (error_bind (present_or_absent_null rfl))

def convertWorkerEphemeralTerminating : Except String (DomainEvent types) := do
  let (workerId, providerId) ←
    twoIds codecs payload "WorkerEphemeralTerminating" "worker_id" "provider_id"
  let reason ← required codecs.terminationReason payload "WorkerEphemeralTerminating" "reason"
  return converted row row.createdAt
    (.workerEphemeralTerminating ⟨workerId⟩ ⟨providerId⟩ reason) rfl

theorem convert_worker_ephemeral_terminating (workerId : WorkerId) (providerId : ProviderId)
    (reason : TerminationReason) :
    ReadsBack codecs (convertWorkerEphemeralTerminating codecs)
      (.workerEphemeralTerminating workerId providerId reason) :=
  ⟨rfl, fun _ _ => ok_bind (two_ids_written rfl rfl) (ok_bind (required_written rfl) rfl)⟩

/-- A `ttl_expires_at` that is null is refused, one that is absent is not. -/
def convertWorkerEphemeralTerminated : Except String (DomainEvent types) := do
  let (workerId, providerId) ←
    twoIds codecs payload "WorkerEphemeralTerminated" "worker_id" "provider_id"
  let ttlExpiresAt ←
    presentOrAbsent codecs.time payload "WorkerEphemeralTerminated" "ttl_expires_at"
  let cleanupScheduled := (payload.index "cleanup_scheduled").asBool.getD false
  return converted row row.createdAt
    (.workerEphemeralTerminated ⟨workerId⟩ ⟨providerId⟩ cleanupScheduled ttlExpiresAt) rfl

theorem convert_worker_ephemeral_terminated (workerId : WorkerId) (providerId : ProviderId)
    (cleanupScheduled : Bool) (ttlExpiresAt : DateTime) :
    ReadsBack codecs (convertWorkerEphemeralTerminated codecs)
      (.workerEphemeralTerminated workerId providerId cleanupScheduled (some ttlExpiresAt)) :=
  ⟨rfl, fun _ _ => ok_bind (two_ids_written rfl rfl) (ok_bind (present_or_absent_written rfl) rfl)⟩

theorem convert_worker_ephemeral_terminated_null (workerId : WorkerId)
    (providerId : ProviderId) (cleanupScheduled : Bool) (audit : JsonMap) :
    convertWorkerEphemeralTerminated codecs row
      (written codecs (.workerEphemeralTerminated workerId providerId cleanupScheduled none)
        audit) = .error "Invalid ttl_expires_at in WorkerEphemeralTerminated event" :=
  ok_bind (two_ids_written rfl rfl) (error_bind (present_or_absent_null rfl))

def convertWorkerEphemeralCleanedUp : Except String (DomainEvent types) := do
  let (workerId, providerId) ←
    twoIds codecs payload "WorkerEphemeralCleanedUp" "worker_id" "provider_id"
  let cleanupReason ← required cleanupReason payload "WorkerEphemeralCleanedUp" "cleanup_reason"
  let cleanupDurationMs ←
    required Serde.u64 payload "WorkerEphemeralCleanedUp" "cleanup_duration_ms"
  return converted row row.createdAt
    (.workerEphemeralCleanedUp ⟨workerId⟩ ⟨providerId⟩ cleanupReason cleanupDurationMs) rfl

theorem convert_worker_ephemeral_cleaned_up (workerId : WorkerId) (providerId : ProviderId)
    (cleanupReason : CleanupReason) (cleanupDurationMs : UInt64) :
    ReadsBack codecs (convertWorkerEphemeralCleanedUp codecs)
      (.workerEphemeralCleanedUp workerId providerId cleanupReason cleanupDurationMs) :=
  ⟨rfl, fun _ _ =>
    ok_bind (two_ids_written rfl rfl) (ok_bind (required_written rfl)
      (ok_bind (required_written rfl) rfl))⟩

def convertOrphanWorkerDetected : Except String (DomainEvent types) := do
  let (workerId, providerId) ←
    twoIds codecs payload "OrphanWorkerDetected" "worker_id" "provider_id"
  let lastSeen ← required codecs.time payload "OrphanWorkerDetected" "last_seen"
  let orphanedDurationSecs ←
    required Serde.u64 payload "OrphanWorkerDetected" "orphaned_duration_secs"
  return converted row row.createdAt
    (.orphanWorkerDetected ⟨workerId⟩ ⟨providerId⟩ lastSeen orphanedDurationSecs) rfl

theorem convert_orphan_worker_detected (workerId : WorkerId) (providerId : ProviderId)
    (lastSeen : DateTime) (orphanedDurationSecs : UInt64) :
    ReadsBack codecs (convertOrphanWorkerDetected codecs)
      (.orphanWorkerDetected workerId providerId lastSeen orphanedDurationSecs) :=
  ⟨rfl, fun _ _ =>
    ok_bind (two_ids_written rfl rfl) (ok_bind (required_written rfl)
      (ok_bind (required_written rfl) rfl))⟩

def convertGarbageCollectionCompleted : Except String (DomainEvent types) := do
  let providerId ← required codecs.uuid payload "GarbageCollectionCompleted" "provider_id"
  let workersCleaned ← required Serde.u64 payload "GarbageCollectionCompleted" "workers_cleaned"
  let orphansDetected ← required Serde.u64 payload "GarbageCollectionCompleted" "orphans_detected"
  let errors ← required Serde.u64 payload "GarbageCollectionCompleted" "errors"
  let durationMs ← required Serde.u64 payload "GarbageCollectionCompleted" "duration_ms"
  return converted row row.createdAt
    (.garbageCollectionCompleted ⟨providerId⟩ workersCleaned orphansDetected errors durationMs) rfl

theorem convert_garbage_collection_completed (providerId : ProviderId)
    (workersCleaned orphansDetected errors durationMs : UInt64) :
    ReadsBack codecs (convertGarbageCollectionCompleted codecs)
      (.garbageCollectionCompleted providerId workersCleaned orphansDetected errors durationMs) :=
  ⟨rfl, fun _ _ =>
    ok_bind (required_written rfl) (ok_bind (required_written rfl)
      (ok_bind (required_written rfl) (ok_bind (required_written rfl)
        (ok_bind (required_written rfl) rfl))))⟩

def convertWorkerEphemeralIdle : Except String (DomainEvent types) := do
  let (workerId, providerId) ←
    twoIds codecs payload "WorkerEphemeralIdle" "worker_id" "provider_id"
  let idleSince ← required codecs.time payload "WorkerEphemeralIdle" "idle_since"
  return converted row row.createdAt (.workerEphemeralIdle ⟨workerId⟩ ⟨providerId⟩ idleSince) rfl

theorem convert_worker_ephemeral_idle (workerId : WorkerId) (providerId : ProviderId)
    (idleSince : DateTime) :
    ReadsBack codecs (convertWorkerEphemeralIdle codecs)
      (.workerEphemeralIdle workerId providerId idleSince) :=
  ⟨rfl, fun _ _ => ok_bind (two_ids_written rfl rfl) (ok_bind (required_written rfl) rfl)⟩

/-- No event has this type. -/
def convertProviderError (newV4 : Uuid) : Except String (DomainEvent types) := do
  let providerId ← required codecs.uuid payload "ProviderError" "provider_id"
  let message := (accessed Json.asStr payload "message").getD "Unknown provider error"
  let workerId := (accessed Json.asStr payload "worker_id").bind codecs.uuids.parse
  return converted row row.createdAt
    (.workerTerminated ⟨workerId.getD newV4⟩ ⟨providerId⟩ (.providerError message)) rfl

def convertProviderRegistered : Except String (DomainEvent types) := do
  let providerId ← required codecs.uuid payload "ProviderRegistered" "provider_id"
  let providerType ← required Serde.text payload "ProviderRegistered" "provider_type"
  let configSummary ← required Serde.text payload "ProviderRegistered" "config_summary"
  return converted row row.createdAt
    (.providerRegistered ⟨providerId⟩ providerType configSummary) rfl

theorem convert_provider_registered (providerId : ProviderId)
    (providerType configSummary : String) :
    ReadsBack codecs (convertProviderRegistered codecs)
      (.providerRegistered providerId providerType configSummary) :=
  ⟨rfl, fun _ _ =>
    ok_bind (required_written rfl) (ok_bind (required_written rfl)
      (ok_bind (required_written rfl) rfl))⟩

def convertProviderUpdated : Except String (DomainEvent types) := do
  let providerId ← required codecs.uuid payload "ProviderUpdated" "provider_id"
  let changes := accessed Json.asStr payload "changes"
  return converted row row.createdAt (.providerUpdated ⟨providerId⟩ changes) rfl

theorem convert_provider_updated (providerId : ProviderId) (changes : Option String) :
    ReadsBack codecs (convertProviderUpdated codecs) (.providerUpdated providerId changes) := by
  refine ⟨rfl, fun row audit => ok_bind (required_written rfl) (converted_congr rfl ?_)⟩
  exact congrArg (EventDetails.providerUpdated providerId) (optional_text_accessed rfl)

def convertAutoScalingTriggered : Except String (DomainEvent types) := do
  let providerId ← required codecs.uuid payload "AutoScalingTriggered" "provider_id"
  let reason ← required Serde.text payload "AutoScalingTriggered" "reason"
  return converted row row.createdAt (.autoScalingTriggered ⟨providerId⟩ reason) rfl

theorem convert_auto_scaling_triggered (providerId : ProviderId) (reason : String) :
    ReadsBack codecs (convertAutoScalingTriggered codecs)
      (.autoScalingTriggered providerId reason) :=
  ⟨rfl, fun _ _ => ok_bind (required_written rfl) (ok_bind (required_written rfl) rfl)⟩

def convertWorkerProvisioned : Except String (DomainEvent types) := do
  let (workerId, providerId) ← twoIds codecs payload "WorkerProvisioned" "worker_id" "provider_id"
  let specSummary ← required Serde.text payload "WorkerProvisioned" "spec_summary"
  return converted row row.createdAt (.workerProvisioned ⟨workerId⟩ ⟨providerId⟩ specSummary) rfl

theorem convert_worker_provisioned (workerId : WorkerId) (providerId : ProviderId)
    (specSummary : String) :
    ReadsBack codecs (convertWorkerProvisioned codecs)
      (.workerProvisioned workerId providerId specSummary) :=
  ⟨rfl, fun _ _ => ok_bind (two_ids_written rfl rfl) (ok_bind (required_written rfl) rfl)⟩

def convertWorkerProvisioningRequested (now : DateTime) : Except String (DomainEvent types) := do
  let (jobId, providerId) ←
    twoIds codecs payload "WorkerProvisioningRequested" "job_id" "provider_id"
  let requestedAt :=
    (accessed Json.asStr payload "requested_at").bind codecs.times.parseFromRfc3339
  let jobRequirements ←
    required codecs.jobSpec payload "WorkerProvisioningRequested" "job_requirements"
  return converted row (requestedAt.getD now)
    (.workerProvisioningRequested ⟨jobId⟩ ⟨providerId⟩ jobRequirements) rfl

theorem convert_worker_provisioning_requested (now : DateTime) (jobId : JobId)
    (providerId : ProviderId) (jobRequirements : types.JobSpec) :
    ReadsTimeBack codecs
      (fun row payload => convertWorkerProvisioningRequested codecs row payload now)
      (.workerProvisioningRequested jobId providerId jobRequirements) := by
  refine ⟨rfl, fun row time audit => ok_bind (two_ids_written rfl rfl)
    (ok_bind (required_written rfl) (converted_congr ?_ rfl))⟩
  exact parsed_time (codecs.times.parse_from_rfc3339_display time) rfl now

/-- The name of a provider type; every other text stands for the test provider. -/
def providerTypeOf : String → ProviderType
  | "docker" => .docker
  | "kubernetes" | "k8s" => .kubernetes
  | "fargate" => .fargate
  | "cloudrun" => .cloudRun
  | "containerapps" => .containerApps
  | "lambda" => .lambda
  | "cloudfunctions" => .cloudFunctions
  | "azurefunctions" => .azureFunctions
  | "ec2" => .ec2
  | "computeengine" => .computeEngine
  | "azurevms" => .azureVMs
  | "test" => .test
  | "baremetal" => .bareMetal
  | _ => .test

def convertProviderSelected (now : DateTime) : Except String (DomainEvent types) := do
  let (jobId, providerId) ← twoIds codecs payload "ProviderSelected" "job_id" "provider_id"
  let providerType := (accessed Json.asStr payload "provider_type").getD "unknown"
  let selectionStrategy := (accessed Json.asStr payload "selection_strategy").getD "default"
  let effectiveCost := (accessed codecs.f64.fromValue payload "effective_cost").getD codecs.f64Zero
  let effectiveStartupMs :=
    (accessed Serde.u64.fromValue payload "effective_startup_ms").getD 0
  let elapsedMs := (accessed Serde.u64.fromValue payload "elapsed_ms").getD 0
  let occurredAt :=
    (accessed Json.asStr payload "occurred_at").bind codecs.times.parseFromRfc3339
  return converted row (occurredAt.getD now)
    (.providerSelected ⟨jobId⟩ ⟨providerId⟩ (providerTypeOf providerType) selectionStrategy
      effectiveCost effectiveStartupMs elapsedMs) rfl

theorem provider_type_of_display {providerType : ProviderType}
    (builtIn : ∀ name, providerType ≠ .custom name) :
    providerTypeOf providerType.display = providerType := by
  cases providerType with
  | custom name => exact absurd rfl (builtIn name)
  | docker | kubernetes | fargate | cloudRun | containerApps | lambda | cloudFunctions
  | azureFunctions | ec2 | computeEngine | azureVMs | test | bareMetal => rfl

theorem provider_type_of_ne_custom (text name : String) : providerTypeOf text ≠ .custom name := by
  unfold providerTypeOf
  split <;> exact fun same => by cases same

theorem convert_provider_selected (now : DateTime) (jobId : JobId) (providerId : ProviderId)
    {providerType : ProviderType} (builtIn : ∀ name, providerType ≠ .custom name)
    (selectionStrategy : String) (effectiveCost : types.F64)
    (effectiveStartupMs elapsedMs : UInt64) :
    ReadsTimeBack codecs (fun row payload => convertProviderSelected codecs row payload now)
      (.providerSelected jobId providerId providerType selectionStrategy effectiveCost
        effectiveStartupMs elapsedMs) := by
  refine ⟨rfl, fun row time audit => ok_bind (two_ids_written rfl rfl)
    (converted_congr (parsed_time (codecs.times.parse_from_rfc3339_display time) rfl now) ?_)⟩
  rw [text_accessed rfl, text_accessed rfl, accessed_written rfl, accessed_written rfl,
    accessed_written rfl, Option.getD_some, provider_type_of_display builtIn]
  rfl

/-- Whatever the payload says, the provider type that is read is a built-in one. -/
theorem convert_provider_selected_built_in {now : DateTime} {result : DomainEvent types}
    (converts : convertProviderSelected codecs row payload now = .ok result)
    (jobId : JobId) (providerId : ProviderId) (name selectionStrategy : String)
    (effectiveCost : types.F64) (effectiveStartupMs elapsedMs : UInt64) :
    result.details ≠ .providerSelected jobId providerId (.custom name) selectionStrategy
      effectiveCost effectiveStartupMs elapsedMs := by
  unfold convertProviderSelected at converts
  cases ids : twoIds codecs payload "ProviderSelected" "job_id" "provider_id" with
  | error error =>
      rw [error_bind ids] at converts
      cases converts
  | ok pair =>
      rw [ok_bind ids rfl] at converts
      cases converts
      intro same
      injection same with _ _ sameType
      exact provider_type_of_ne_custom _ name sameType

end Arms

/-! ## The conversion -/

/-- The payload under the name of the event type, if there is nothing else. -/
def unwrapped (row : OutboxEventView) : Json :=
  match row.payload with
  | .object entries =>
      if entries.length = 1 then (JsonMap.get entries row.eventType).getD row.payload
      else row.payload
  | payload => payload

theorem unwrapped_wrapped {row : OutboxEventView} {inner : Json}
    (wrapped : row.payload = .object [(row.eventType, inner)]) : unwrapped row = inner := by
  simp [unwrapped, wrapped, JsonMap.get]

/-- `now` and `newV4` are what the clock and `Uuid::new_v4` give to a field that cannot be
read. -/
def convertToDomainEvent (codecs : Codecs types) (now : DateTime) (newV4 : Uuid)
    (row : OutboxEventView) : Except String (DomainEvent types) :=
  let payload := unwrapped row
  match row.eventType with
  | "JobCreated" => convertJobCreated codecs row payload
  | "JobQueued" => convertJobQueued codecs row payload
  | "JobAssigned" => convertJobAssigned codecs row payload
  | "JobAccepted" => convertJobAccepted codecs row payload
  | "JobStatusChanged" => convertJobStatusChanged codecs row payload
  | "WorkerReady" => convertWorkerReady codecs row payload
  | "WorkerStatusChanged" => convertWorkerStatusChanged codecs row payload
  | "WorkerRegistered" => convertWorkerRegistered codecs row payload
  | "WorkerTerminated" => convertWorkerTerminated codecs row payload
  | "WorkerDisconnected" => convertWorkerDisconnected codecs row payload
  | "JobDispatchAcknowledged" => convertJobDispatchAcknowledged codecs row payload
  | "RunJobReceived" => convertRunJobReceived codecs row payload
  | "JobRetried" => convertJobRetried codecs row payload
  | "JobCancelled" => convertJobCancelled codecs row payload
  | "ProviderHealthChanged" => convertProviderHealthChanged codecs row payload
  | "WorkerReconnected" => convertWorkerReconnected codecs row payload
  | "WorkerRecoveryFailed" => convertWorkerRecoveryFailed codecs row payload
  | "WorkerHeartbeat" => convertWorkerHeartbeat codecs row payload
  | "ProviderRecovered" => convertProviderRecovered codecs row payload
  | "WorkerEphemeralCreated" => convertWorkerEphemeralCreated codecs row payload
  | "WorkerEphemeralReady" => convertWorkerEphemeralReady codecs row payload
  | "WorkerStateUpdated" => convertWorkerStateUpdated codecs row payload
  | "WorkerEphemeralTerminating" => convertWorkerEphemeralTerminating codecs row payload
  | "WorkerEphemeralTerminated" => convertWorkerEphemeralTerminated codecs row payload
  | "WorkerEphemeralCleanedUp" => convertWorkerEphemeralCleanedUp codecs row payload
  | "OrphanWorkerDetected" => convertOrphanWorkerDetected codecs row payload
  | "GarbageCollectionCompleted" => convertGarbageCollectionCompleted codecs row payload
  | "WorkerEphemeralIdle" => convertWorkerEphemeralIdle codecs row payload
  | "ProviderError" => convertProviderError codecs row payload newV4
  | "ProviderRegistered" => convertProviderRegistered codecs row payload
  | "ProviderUpdated" => convertProviderUpdated codecs row payload
  | "AutoScalingTriggered" => convertAutoScalingTriggered codecs row payload
  | "WorkerProvisioned" => convertWorkerProvisioned codecs row payload
  | "WorkerProvisioningRequested" => convertWorkerProvisioningRequested codecs row payload now
  | "ProviderSelected" => convertProviderSelected codecs row payload now
  | eventType => .error ("Unknown event type: " ++ eventType)

end HodeiJobs.Outbox.OutboxRelay
