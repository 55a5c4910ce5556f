import HodeiJobs.Outbox.ReadBack
import HodeiJobs.Recovery.FailureHandlers

/-!
# Runs of failures

The three failure handlers in turn, for failures of one job. Each of them numbers its first
retry with one, and the outbox drops a row whose key it has.
-/

namespace HodeiJobs.Recovery

open HodeiJobs.Commands (zerosText)
open HodeiJobs.Dispatch (ProviderId)
open HodeiJobs.Execution (Job JobId Tables WorkerId)
open HodeiJobs.Library
open HodeiJobs.Outbox
open HodeiJobs.Sagas (DateTime JsonMap UuidSource)

/-! ## Failures of a job -/

/-- A failure that concerns a job. A provisioning failure names it as its correlation. -/
inductive Failure (texts : FailureTexts) (jobId : JobId) where
  | dispatch (reason : DispatchFailureReason) (retryCount : UInt32)
  | provisioning (workerId : WorkerId) (providerId : ProviderId)
      (reason : ProvisioningFailureReason)
      (correlationId : { text // texts.uuids.parse text = some jobId.uuid })
  | scheduling (reason : SchedulingFailureReason) (notCancelled : reason ≠ .jobCancelled)

namespace Failure

variable {texts : FailureTexts} {jobId : JobId}

/-- What its handler calls. -/
def calls (tables : Tables) (now : DateTime) : Failure texts jobId → List RecoveryCall
  | .dispatch reason retryCount =>
      DispatchFailureHandler.handleEvent texts jobId reason retryCount now
  | .provisioning workerId providerId reason correlationId =>
      ProvisioningFailureHandler.handleEvent texts.toRowTexts tables workerId providerId reason
        (some correlationId.val) now
  | .scheduling reason _ =>
      SchedulingFailureHandler.handleFailure texts.toRowTexts jobId now reason

def isProvisioning : Failure texts jobId → Bool
  | .provisioning _ _ _ _ => true
  | .dispatch _ _ | .scheduling _ _ => false

/-- The key under which the failure is retried, if it is. -/
def requeueKey : Failure texts jobId → Option String
  | .dispatch _ retryCount =>
      if retryCount < maxDispatchRetries then
        some (jobKey texts.toRowTexts jobId "job-requeued-" (retryCount + 1).toNat)
      else none
  | .provisioning _ _ reason _ =>
      match reason with
      | .resourceAllocationFailed _ _ | .providerUnavailable =>
          some (jobKey texts.toRowTexts jobId "job-requeued-diff-provider-" 1)
      | .timeout | .networkSetupFailed _ | .internalError _ =>
          some (jobKey texts.toRowTexts jobId "job-requeued-" 1)
      | .imagePullFailed _ _ | .invalidConfiguration _ _ | .authenticationFailed _ => none
  | .scheduling reason _ =>
      match reason with
      | .noProvidersAvailable | .providerUnhealthy _ =>
          some (jobKey texts.toRowTexts jobId "job-scheduling-retry-" 1)
      | .providerOverloaded | .internalError _ =>
          some (jobKey texts.toRowTexts jobId "job-scheduling-backoff-" 1)
      | .noMatchingProviders _ | .resourceConstraintsNotMet _ _ _ | .jobExpired | .jobCancelled =>
          none

end Failure

/-! ## What the handlers decide -/

/-- A row that puts the job back into the queue. -/
structure RequeueRow (jobId : JobId) (key : String) where
  event : OutboxEventInsert
  isRequeue : event.eventType = "JobRequeued" ∧ event.aggregateId = jobId.uuid
  hasKey : event.idempotencyKey = some key

/-- A row of another type, under another key. -/
structure OtherRow (key : Option String) where
  event : OutboxEventInsert
  otherType : event.eventType ≠ "JobRequeued"
  otherKey : key ≠ none → event.idempotencyKey ≠ key

/-- The job is queued again, perhaps after an alert, or given up. -/
inductive Decision (jobId : JobId) : Option String → Type where
  | requeue {key : String} (row : RequeueRow jobId key) : Decision jobId (some key)
  | alert {key : String} (other : OtherRow (some key)) (row : RequeueRow jobId key) :
      Decision jobId (some key)
  | giveUp (row : OtherRow none) : Decision jobId none

def Decision.calls {jobId : JobId} {key : Option String} : Decision jobId key → List RecoveryCall
  | .requeue row => [.insertEvent row.event]
  | .alert other row => [.insertEvent other.event, .insertEvent row.event]
  | .giveUp row => [.updateState jobId .failed, .insertEvent row.event]

/-- An alert's key begins with another letter than the key of a job. -/
theorem alert_key_ne_job_key (alertType rest : String) (texts : RowTexts) (jobId : JobId)
    (number : Int) :
    "alert-" ++ alertType ++ "-" ++ rest ≠
      jobKey texts jobId "job-scheduling-retry-" number ∧
    "alert-" ++ alertType ++ "-" ++ rest ≠
      jobKey texts jobId "job-scheduling-backoff-" number := by
  constructor <;>
  · intro same
    have letters := congrArg String.toList same
    simp [jobKey, String.toList_append] at letters

/-- The calls are those of a decision that queues the job under the key, if there is one. -/
def Decided (jobId : JobId) (key : Option String) (calls : List RecoveryCall) : Prop :=
  ∃ decision : Decision jobId key, calls = decision.calls

section Decides

variable (texts : FailureTexts) (jobId : JobId)

theorem decided_requeue {key : String} (row : RequeueRow jobId key) :
    Decided jobId (some key) [.insertEvent row.event] :=
  ⟨.requeue row, rfl⟩

theorem decided_alert {key : String} (other : OtherRow (some key)) (row : RequeueRow jobId key) :
    Decided jobId (some key) [.insertEvent other.event, .insertEvent row.event] :=
  ⟨.alert other row, rfl⟩

/-- `mark_job_failed` of all three handlers. -/
theorem decided_failed (previousState reason : String) (metadata : JsonMap) (now : DateTime) :
    Decided jobId none
      [.updateState jobId .failed, .insertEvent (jobFailedRow texts.toRowTexts jobId
        previousState reason metadata now)] := by
  have otherType : (jobFailedRow texts.toRowTexts jobId previousState reason metadata
      now).eventType ≠ "JobRequeued" := by
    simp [jobFailedRow, OutboxEventInsert.forJob]
  exact ⟨.giveUp ⟨_, otherType, fun some => absurd rfl some⟩, rfl⟩

theorem dispatch_decided (reason : DispatchFailureReason) (retryCount : UInt32)
    (tables : Tables) (now : DateTime) :
    Decided jobId (Failure.requeueKey (.dispatch reason retryCount : Failure texts jobId))
      (Failure.calls tables now (.dispatch reason retryCount : Failure texts jobId)) := by
  simp only [Failure.requeueKey, Failure.calls, DispatchFailureHandler.handleEvent]
  by_cases more : retryCount < maxDispatchRetries
  · simp only [if_pos more]
    exact decided_requeue jobId ⟨_, ⟨rfl, rfl⟩, rfl⟩
  · simp only [if_neg more]
    exact decided_failed ..

theorem provisioning_decided (reason : ProvisioningFailureReason) (workerId : WorkerId)
    (providerId : ProviderId)
    (correlationId : { text // texts.uuids.parse text = some jobId.uuid }) {tables : Tables}
    (exist : tables.jobs.find jobId ≠ none) (now : DateTime) :
    Decided jobId
      (Failure.requeueKey
        (.provisioning workerId providerId reason correlationId : Failure texts jobId))
      (Failure.calls tables now
        (.provisioning workerId providerId reason correlationId : Failure texts jobId)) := by
  obtain ⟨job, found⟩ := Option.ne_none_iff_exists'.mp exist
  have associated : ProvisioningFailureHandler.findAssociatedJob texts.toRowTexts tables
      (some correlationId.val) = some jobId := by
    simp [ProvisioningFailureHandler.findAssociatedJob, correlationId.property, found,
      Table.find_some_key found]
  simp only [Failure.calls, ProvisioningFailureHandler.handleEvent, associated]
  cases reason with
  | imagePullFailed | invalidConfiguration | authenticationFailed => exact decided_failed ..
  | resourceAllocationFailed | providerUnavailable | timeout | networkSetupFailed
  | internalError => exact decided_requeue jobId ⟨_, ⟨rfl, rfl⟩, rfl⟩

theorem scheduling_decided (reason : SchedulingFailureReason)
    (notCancelled : reason ≠ .jobCancelled) (tables : Tables) (now : DateTime) :
    Decided jobId (Failure.requeueKey (.scheduling reason notCancelled : Failure texts jobId))
      (Failure.calls tables now (.scheduling reason notCancelled : Failure texts jobId)) := by
  have apart := fun alertType =>
    alert_key_ne_job_key alertType (toString (timestamp now)) texts.toRowTexts jobId 1
  have alertType : ∀ type, (SchedulingFailureHandler.emitAlert texts.toRowTexts jobId type
      now).eventType ≠ "JobRequeued" := by
    intro type
    simp [SchedulingFailureHandler.emitAlert, OutboxEventInsert.forJob]
  cases reason with
  | noMatchingProviders | resourceConstraintsNotMet | jobExpired => exact decided_failed ..
  | jobCancelled => exact absurd rfl notCancelled
  | providerUnhealthy => exact decided_requeue jobId ⟨_, ⟨rfl, rfl⟩, rfl⟩
  | noProvidersAvailable =>
      exact decided_alert jobId
        ⟨_, alertType _, fun _ same => (apart _).1 (Option.some.inj same)⟩ ⟨_, ⟨rfl, rfl⟩, rfl⟩
  | providerOverloaded | internalError =>
      exact decided_alert jobId
        ⟨_, alertType _, fun _ same => (apart _).2 (Option.some.inj same)⟩ ⟨_, ⟨rfl, rfl⟩, rfl⟩

/-- Every failure of a job that exists is decided. -/
theorem decided (failure : Failure texts jobId) {tables : Tables}
    (exist : tables.jobs.find jobId ≠ none) (now : DateTime) :
    Decided jobId failure.requeueKey (failure.calls tables now) := by
  cases failure with
  | dispatch => exact dispatch_decided ..
  | provisioning => exact provisioning_decided texts jobId _ _ _ _ exist now
  | scheduling => exact scheduling_decided ..

end Decides

/-! ## The outbox -/

/-- A row that puts the job back into the queue was added. -/
def Requeues (jobId : JobId) (before after : EventTable) : Prop :=
  ∃ row ∈ after.rows, row ∉ before.rows ∧ row.eventType = "JobRequeued" ∧
    row.aggregateId = jobId.uuid

section Outbox

variable {jobId : JobId} (ids : UuidSource) (now : DateTime) (outbox : EventTable)

theorem requeues_insert_drawn_iff {key : String} (row : RequeueRow jobId key) :
    Requeues jobId outbox (insertDrawn ids now outbox row.event) ↔ ¬HasKey outbox key := by
  constructor
  · intro ⟨added, member, isNew, _⟩ taken
    rw [insert_drawn_of_has_key ids now outbox row.hasKey taken] at member
    exact isNew member
  · intro free
    have rows := rows_insert_drawn ids now outbox row.hasKey free
    refine ⟨_, by rw [rows]; exact List.mem_append_right _ List.mem_cons_self, ?_,
      row.isRequeue⟩
    intro old
    exact ids.fresh (outbox.rows.map OutboxEventView.id) (List.mem_map.mpr ⟨_, old, rfl⟩)

theorem not_requeues_insert_drawn {key : Option String} (row : OtherRow key) :
    ¬Requeues jobId outbox (insertDrawn ids now outbox row.event) := by
  intro ⟨added, member, isNew, type, _⟩
  rcases mem_insert_drawn ids now outbox member with old | ⟨same, _⟩
  · exact isNew old
  · exact row.otherType (same.symm.trans type)

/-- A row of another type, under another key, changes nothing about a row to come. -/
theorem requeues_insert_other_iff {key : String} (other : OtherRow (some key))
    (row : RequeueRow jobId key) :
    Requeues jobId outbox
        (insertDrawn ids now (insertDrawn ids now outbox other.event) row.event) ↔
      ¬HasKey outbox key := by
  constructor
  · intro requeues taken
    obtain ⟨first, member, hasKey⟩ := taken
    have still : HasKey (insertDrawn ids now outbox other.event) key :=
      ⟨first, mem_insert_drawn_of_mem ids now outbox member, hasKey⟩
    rw [insert_drawn_of_has_key ids now _ row.hasKey still] at requeues
    exact not_requeues_insert_drawn ids now outbox other requeues
  · intro free
    have stillFree : ¬HasKey (insertDrawn ids now outbox other.event) key := by
      intro ⟨first, member, hasKey⟩
      rcases mem_insert_drawn ids now outbox member with old | ⟨_, same⟩
      · exact free ⟨first, old, hasKey⟩
      · exact other.otherKey (Option.some_ne_none key) (same.symm.trans hasKey)
    obtain ⟨added, member, isNew, isRequeue⟩ :=
      (requeues_insert_drawn_iff ids now _ row).mpr stillFree
    refine ⟨added, member, ?_, isRequeue⟩
    intro old
    exact isNew (mem_insert_drawn_of_mem ids now outbox old)

end Outbox

/-! ## Runs -/

/-- `provisioningFailures` counts those that were handled so far. -/
structure FailureState where
  tables : Tables
  outbox : EventTable
  provisioningFailures : Nat

def perform (ids : UuidSource) (now : DateTime) (state : FailureState) :
    RecoveryCall → FailureState
  | .updateState jobId newState =>
      { state with tables := state.tables.updateJobState jobId newState }
  | .insertEvent event => { state with outbox := insertDrawn ids now state.outbox event }
  | .unregister workerId => { state with tables := state.tables.unregister workerId }

/-- A failure, and what the clock and the database give to its handler. -/
structure Handling (texts : FailureTexts) (jobId : JobId) where
  failure : Failure texts jobId
  now : DateTime
  ids : UuidSource

namespace FailureRun

variable {texts : FailureTexts} {jobId : JobId}

def start (tables : Tables) (outbox : EventTable) : FailureState := ⟨tables, outbox, 0⟩

def performed (state : FailureState) (handling : Handling texts jobId) : FailureState :=
  (handling.failure.calls state.tables handling.now).foldl (perform handling.ids handling.now)
    state

def step (state : FailureState) (handling : Handling texts jobId) : FailureState :=
  { performed state handling with
    provisioningFailures :=
      state.provisioningFailures + if handling.failure.isProvisioning then 1 else 0 }

def job (jobId : JobId) (state : FailureState) : Option Job := state.tables.jobs.find jobId

def Terminal (job : Option Job) : Prop := ∃ found, job = some found ∧ found.state.isTerminal = true

/-- The failure has put the job back into the queue, or set it to failed. -/
def NotSwallowed (state : FailureState) (handling : Handling texts jobId) : Prop :=
  Requeues jobId state.outbox (step state handling).outbox ∨
    .updateState jobId .failed ∈ handling.failure.calls state.tables handling.now

/-- Behind the allowed number of provisioning failures, one more is the end. -/
def GivesUpInTime (state : FailureState) (handling : Handling texts jobId) : Prop :=
  handling.failure.isProvisioning = true →
    maxProvisioningRetries ≤ state.provisioningFailures →
      (job jobId (step state handling)).map Job.state = some .failed ∧
        ¬Requeues jobId state.outbox (step state handling).outbox

/-- The key is free, and the failure is not one provisioning failure too many; or, where the
handler gives the job up, the job has not come to another end. -/
def Recovers (state : FailureState) (handling : Handling texts jobId) : Prop :=
  match handling.failure.requeueKey with
  | some key =>
      ¬HasKey state.outbox key ∧
        (handling.failure.isProvisioning = true →
          state.provisioningFailures < maxProvisioningRetries)
  | none => ∀ found, job jobId state = some found → found.state.isTerminal = true →
      found.state = .failed

/-! ## One failure -/

/-- The job stays as it is, and a row is added if the key is free. -/
structure Queues (jobId : JobId) (key : String) (calls : List RecoveryCall)
    (before after : FailureState) : Prop where
  sameTables : after.tables = before.tables
  requeues_iff : Requeues jobId before.outbox after.outbox ↔ ¬HasKey before.outbox key
  notFailed : .updateState jobId .failed ∉ calls

structure GivesUp (jobId : JobId) (calls : List RecoveryCall) (before after : FailureState) :
    Prop where
  failedTables : after.tables = before.tables.updateJobState jobId .failed
  noRequeue : ¬Requeues jobId before.outbox after.outbox
  failed : .updateState jobId .failed ∈ calls

theorem step_cases {state : FailureState} (exist : job jobId state ≠ none)
    (handling : Handling texts jobId) :
    match handling.failure.requeueKey with
    | some key => Queues jobId key (handling.failure.calls state.tables handling.now) state
        (step state handling)
    | none => GivesUp jobId (handling.failure.calls state.tables handling.now) state
        (step state handling) := by
  obtain ⟨decision, decided⟩ := decided texts jobId handling.failure exist handling.now
  have performs : performed state handling =
      decision.calls.foldl (perform handling.ids handling.now) state := by
    rw [performed, decided]
  rw [decided]
  simp only [step, performs]
  generalize handling.failure.requeueKey = key at decision
  cases decision with
  | requeue row => exact ⟨rfl, requeues_insert_drawn_iff .., by simp [Decision.calls]⟩
  | alert other row => exact ⟨rfl, requeues_insert_other_iff .., by simp [Decision.calls]⟩
  | giveUp row =>
      exact ⟨rfl, not_requeues_insert_drawn handling.ids handling.now state.outbox row,
        by simp [Decision.calls]⟩

theorem job_step_ne_none {state : FailureState} (exist : job jobId state ≠ none)
    (handling : Handling texts jobId) : job jobId (step state handling) ≠ none := by
  have cases := step_cases exist handling
  split at cases
  · rw [job, cases.sameTables]
    exact exist
  · rw [job, cases.failedTables, Tables.find_job_update_state, ne_eq, Option.map_eq_none_iff]
    exact exist

/-- What is asked of the handling of one failure. -/
def Handled (state : FailureState) (handling : Handling texts jobId) : Prop :=
  NotSwallowed state handling ∧
    (Terminal (job jobId state) → job jobId (step state handling) = job jobId state) ∧
    GivesUpInTime state handling

theorem handled_iff_recovers {state : FailureState} (exist : job jobId state ≠ none)
    (handling : Handling texts jobId) : Handled state handling ↔ Recovers state handling := by
  have cases := step_cases exist handling
  unfold Handled NotSwallowed GivesUpInTime Recovers
  split at cases
  · have same : job jobId (step state handling) = job jobId state := by
      rw [job, cases.sameTables, job]
    simp only [cases.requeues_iff, cases.notFailed, or_false, same, implies_true, true_and]
    apply and_congr_right
    intro free
    constructor
    · intro inTime isProvisioning
      by_contra many
      exact (inTime isProvisioning (Nat.le_of_not_lt many)).2 free
    · intro few isProvisioning many
      exact absurd (few isProvisioning) (Nat.not_lt_of_le many)
  · obtain ⟨before, found⟩ := Option.ne_none_iff_exists'.mp exist
    have after : job jobId (step state handling) = some { before with state := .failed } := by
      rw [job, cases.failedTables, Tables.find_job_update_state]
      exact congrArg (Option.map _) found
    simp only [cases.failed, cases.noRequeue, or_true, after, Option.map_some, found, Terminal,
      Option.some.injEq, not_false_eq_true, and_self, implies_true, and_true, true_and,
      exists_eq_left', forall_eq']
    apply imp_congr_right
    intro terminal
    constructor
    · intro same
      rw [← same]
    · intro failed
      rw [← failed]

/-- No failure is swallowed, a job at its end stays as it is, and the allowed number of
provisioning failures is kept, exactly if each failure finds what its handler relies on. -/
theorem failures_handled_iff_recovered (tables : Tables) (outbox : EventTable)
    (exist : tables.jobs.find jobId ≠ none) (failures : List (Handling texts jobId)) :
    (EachMove step NotSwallowed (start tables outbox) failures ∧
      Settled step (job jobId) Terminal (start tables outbox) failures ∧
      EachMove step GivesUpInTime (start tables outbox) failures) ↔
      EachMove step Recovers (start tables outbox) failures := by
  rw [settled_iff_each_move, ← each_move_and_iff, ← each_move_and_iff]
  exact each_move_congr_within step (fun state => job jobId state ≠ none)
    (fun _ handling exist => handled_iff_recovers exist handling)
    (fun _ handling exist _ => job_step_ne_none exist handling) failures (start tables outbox)
    exist

/-! ## The second timeout -/

def zerosFailureTexts : FailureTexts where
  uuids := zerosText
  toRfc3339 := zerosTimes.display
  dispatchReason _ := "WorkerCrashed"

def waitingTables : Tables :=
  ⟨⟨[⟨⟨1⟩, .pending, none, none, none, none, 0⟩], by decide⟩, [⟨1⟩], ⟨[], List.nodup_nil⟩⟩

def provisioningTimeout (now : DateTime) : Handling zerosFailureTexts ⟨1⟩ :=
  ⟨.provisioning ⟨2⟩ ⟨3⟩ .timeout ⟨zerosText.display 1, zerosText.parse_display 1⟩, now,
    .successor⟩

def emptyOutbox : EventTable := ⟨[], List.nodup_nil⟩

theorem second_timeout_is_swallowed :
    ¬(EachMove step NotSwallowed (start waitingTables emptyOutbox)
        [provisioningTimeout 0, provisioningTimeout 60000000] ∧
      Settled step (job ⟨1⟩) Terminal (start waitingTables emptyOutbox)
        [provisioningTimeout 0, provisioningTimeout 60000000] ∧
      EachMove step GivesUpInTime (start waitingTables emptyOutbox)
        [provisioningTimeout 0, provisioningTimeout 60000000]) := by
  intro ⟨⟨_, second, _⟩, _, _⟩
  have exist : job ⟨1⟩ (step (start waitingTables emptyOutbox) (provisioningTimeout 0)) ≠ none :=
    job_step_ne_none (by decide) (provisioningTimeout 0)
  have queues : Queues ⟨1⟩ (jobKey zerosFailureTexts.toRowTexts ⟨1⟩ "job-requeued-" 1) _ _ _ :=
    step_cases exist (provisioningTimeout 60000000)
  rcases second with requeues | failed
  · exact queues.requeues_iff.mp requeues ⟨_, List.mem_cons_self, rfl⟩
  · exact queues.notFailed failed

theorem first_timeout_is_retried :
    EachMove step NotSwallowed (start waitingTables emptyOutbox) [provisioningTimeout 0] ∧
      Settled step (job ⟨1⟩) Terminal (start waitingTables emptyOutbox)
        [provisioningTimeout 0] ∧
      EachMove step GivesUpInTime (start waitingTables emptyOutbox) [provisioningTimeout 0] :=
  (failures_handled_iff_recovered waitingTables emptyOutbox (by decide)
    [provisioningTimeout 0]).mpr
      ⟨⟨fun ⟨_, member, _⟩ => absurd member List.not_mem_nil, fun _ => by decide⟩, trivial⟩

end FailureRun

end HodeiJobs.Recovery
