import HodeiJobs.Library.Fallible
import HodeiJobs.Outbox.Emitters
import HodeiJobs.Persistence.JobTables

/-!
# Submitting a job

`QueueJobUseCase` and `CreateJobUseCase` down to the statements of their transactions. The
id of the job may come from the client, and the statement that saves the job is the one that
also updates it.
-/

namespace HodeiJobs.Persistence

open HodeiJobs.Commands (zerosText)
open HodeiJobs.Execution (JobId UuidText)
open HodeiJobs.Jobs
open HodeiJobs.Library
open HodeiJobs.Outbox (EventTable FloatSerdes HasKey OutboxEventInsert OutboxEventView RowTexts
  insertDrawn insert_drawn_of_has_key jobSpec rows_insert_drawn wholeFloats wholeSerdes)
open HodeiJobs.Sagas (DateTime Json UuidSource)
open HodeiJobs.Shared
open HodeiJobs.Workers (StringMap)

/-! ## Failures -/

def displayDomainError (uuids : UuidText) : DomainError → String
  | .infrastructureError message => "Infrastructure error: " ++ message
  | .invalidStateTransition jobId fromState toState =>
      "Invalid job state transition from " ++ fromState.display ++ " to " ++ toState.display ++
        " for job " ++ uuids.display jobId.uuid
  | .maxAttemptsExceeded jobId maxAttempts =>
      "Job " ++ uuids.display jobId.uuid ++ " has exceeded max attempts (" ++
        toString maxAttempts ++ ")"
  | .jobNotFound jobId => "Job not found: " ++ uuids.display jobId.uuid

inductive SubmissionError where
  | invalidJobSpec (problem : InvalidJobSpec)
  | invalidProviderConfig (message : String)
  | domain (error : DomainError)

/-- What the database may refuse in a transaction. -/
inductive Statement where
  | begin
  | saveJob
  | enqueue
  | insertEvents
  | commit
  deriving DecidableEq

section

variable (fault : Statement → Option String)

def run (statement : Statement) (text : String) : Except DomainError Unit :=
  match fault statement with
  | some problem => .error (.infrastructureError (text ++ ": " ++ problem))
  | none => .ok ()

theorem run_eq_ok {statement : Statement} {text : String} {done : Unit} :
    run fault statement text = .ok done ↔ fault statement = none := by
  unfold run
  cases fault statement <;> simp

theorem run_bind_eq_ok {Result : Type} {statement : Statement} {text : String}
    {next : Unit → Except DomainError Result} {result : Result} :
    run fault statement text >>= next = .ok result ↔
      fault statement = none ∧ next () = .ok result := by
  unfold run
  cases fault statement <;> simp [bind, Except.bind]

/-! ## Saving a job -/

variable {serde : Serde} (job : Job serde) (tables : JobTables)

/-- The statements of `save` and `save_with_tx`, whose errors differ in one place. -/
def statements (within : String) (row : JobRow) : Except DomainError JobTables := do
  run fault .saveJob ("Failed to save job" ++ within)
  if job.state = .pending then
    run fault .enqueue ("Failed to enqueue job atomically" ++ within)
  return tables.saveRow job.state row

def save : Except DomainError JobTables := do
  let row ← JobRow.ofJob job
  run fault .begin "Failed to begin transaction"
  let saved ← statements fault job tables "" row
  run fault .commit "Failed to commit transaction"
  return saved

def saveWithTx : Except DomainError JobTables := do
  let row ← JobRow.ofJob job
  statements fault job tables " in transaction" row

end

/-! ## The use cases -/

structure CreateJobRequest (floats : Floats) where
  name : String
  spec : JobSpecRequest floats
  correlationId : Option String
  actor : Option String
  jobId : Option String

/-- The fields of `CreateJobResponse` and `QueueJobResponse`. -/
structure SubmissionResponse where
  jobId : String
  status : String
  message : String
  deriving DecidableEq

structure JobCreated (floats : Floats) where
  jobId : JobId
  spec : JobSpec floats
  occurredAt : DateTime
  correlationId : Option String
  actor : Option String

structure JobStore where
  tables : JobTables
  outbox : EventTable

/-- What an execution draws, reads off the clocks and meets in the database. -/
structure Circumstances where
  drawn : JobId
  createdAt : DateTime
  occurredAt : DateTime
  databaseNow : DateTime
  ids : UuidSource
  fault : Statement → Option String

/-- The JSON of a row. That of a specification and of the metadata is always written. -/
structure RowJson (floats : Floats) where
  serdes : FloatSerdes floats
  metadata : StringMap → Json
  problem : Json → String
  others : Serde

variable {floats : Floats}

def RowJson.serde (json : RowJson floats) : Serde :=
  { json.others with
    Spec := JobSpec floats
    specToValue := fun spec => .ok ((jobSpec json.serdes).toValue spec)
    specFromValue := fun value =>
      match (jobSpec json.serdes).fromValue value with
      | some spec => .ok spec
      | none => .error (json.problem value)
    metadataToValue := fun metadata => .ok (json.metadata metadata) }

section

variable (texts : RowTexts) (json : RowJson floats) (circumstances : Circumstances)

/-- `Job::new`. -/
def newJob (id : JobId) (name : String) (spec : JobSpec floats) (metadata : StringMap) :
    Job json.serde where
  id := id
  name := name
  spec := spec
  state := .pending
  selectedProvider := none
  executionContext := none
  attempts := 0
  maxAttempts := 3
  createdAt := circumstances.createdAt
  startedAt := none
  completedAt := none
  result := none
  errorMessage := none
  metadata := metadata
  templateId := none
  templateVersion := none
  executionNumber := none
  triggeredBy := none

def identify (jobId : Option String) : Except SubmissionError JobId :=
  match jobId with
  | none => .ok circumstances.drawn
  | some text =>
      match texts.uuids.parse text with
      | some uuid => .ok ⟨uuid⟩
      | none =>
          .error (.invalidProviderConfig ("Invalid UUID format for job_id: " ++ text))

def requestMetadata (correlationId actor : Option String) : StringMap :=
  let withCorrelation : StringMap :=
    match correlationId with
    | some correlationId => AList.insert "correlation_id" correlationId ∅
    | none => ∅
  match actor with
  | some actor => withCorrelation.insert "actor" actor
  | none => withCorrelation

/-- An execution that fails has written nothing or left its transaction uncommitted. -/
def JobStore.settle (store : JobStore) :
    Except SubmissionError (SubmissionResponse × JobStore) →
      Except SubmissionError SubmissionResponse × JobStore
  | .ok (response, after) => (.ok response, after)
  | .error problem => (.error problem, store)

namespace QueueJobUseCase

def transaction (job : Job json.serde) (event : OutboxEventInsert) (store : JobStore) :
    Except DomainError JobStore := do
  run circumstances.fault .begin "Failed to begin transaction"
  let tables ← (saveWithTx circumstances.fault job store.tables).mapError fun error =>
    .infrastructureError ("Failed to save job: " ++ displayDomainError texts.uuids error)
  run circumstances.fault .insertEvents "Failed to insert outbox event"
  let outbox := insertDrawn circumstances.ids circumstances.databaseNow store.outbox event
  run circumstances.fault .commit "Failed to commit transaction"
  return ⟨tables, outbox⟩

def queued (request : QueueJobRequest floats) (store : JobStore) :
    Except SubmissionError (SubmissionResponse × JobStore) := do
  let spec := convertToJobSpec request.spec
  spec.validate.mapError .invalidJobSpec
  let jobId ← identify texts circumstances request.jobId
  let job := newJob json circumstances jobId "queued-job" spec
    (requestMetadata request.correlationId request.actor)
  let event := jobQueuedRow texts jobId spec request.correlationId request.actor
    circumstances.occurredAt
  let after ← (transaction texts json circumstances job event store).mapError .domain
  return (⟨texts.uuids.display jobId.uuid, "PENDING",
    "Job queued successfully with transactional outbox"⟩, after)

def execute (request : QueueJobRequest floats) (store : JobStore) :
    Except SubmissionError SubmissionResponse × JobStore :=
  store.settle (queued texts json circumstances request store)

end QueueJobUseCase

/-- What a bus does to the outbox, to which one of them writes. -/
abbrev EventBus (floats : Floats) : Type :=
  JobCreated floats → EventTable → Except String Unit × EventTable

namespace CreateJobUseCase

variable (bus : EventBus floats)

/-- That the event is not published is only logged. -/
def created (request : CreateJobRequest floats) (store : JobStore) :
    Except SubmissionError (SubmissionResponse × JobStore) := do
  let spec := convertToJobSpec request.spec
  spec.validate.mapError .invalidJobSpec
  let jobId ← identify texts circumstances request.jobId
  let job := newJob json circumstances jobId request.name spec
    ((requestMetadata request.correlationId request.actor).insert "job_name" request.name)
  let tables ← (save circumstances.fault job store.tables).mapError .domain
  let event : JobCreated floats :=
    ⟨jobId, spec, circumstances.occurredAt, request.correlationId, request.actor⟩
  return (⟨texts.uuids.display jobId.uuid, "PENDING", "Job created and queued successfully"⟩,
    ⟨tables, (bus event store.outbox).2⟩)

def execute (request : CreateJobRequest floats) (store : JobStore) :
    Except SubmissionError SubmissionResponse × JobStore :=
  store.settle (created texts json circumstances bus request store)

end CreateJobUseCase

/-! ## What a submission does -/

inductive Submission (floats : Floats) where
  | create (request : CreateJobRequest floats)
  | queue (request : QueueJobRequest floats)

namespace Submission

variable (bus : EventBus floats) (submission : Submission floats) (store : JobStore)

def jobId : Submission floats → Option String
  | create request => request.jobId
  | queue request => request.jobId

def spec : Submission floats → JobSpec floats
  | create request => convertToJobSpec request.spec
  | queue request => convertToJobSpec request.spec

def submitted : Except SubmissionError (SubmissionResponse × JobStore) :=
  match submission with
  | create request => CreateJobUseCase.created texts json circumstances bus request store
  | queue request => QueueJobUseCase.queued texts json circumstances request store

def execute : Except SubmissionError SubmissionResponse × JobStore :=
  match submission with
  | create request => CreateJobUseCase.execute texts json circumstances bus request store
  | queue request => QueueJobUseCase.execute texts json circumstances request store

/-- The statements of its transaction. -/
def statements : Submission floats → List Statement
  | create _ => [.begin, .saveJob, .enqueue, .commit]
  | queue _ => [.begin, .saveJob, .enqueue, .insertEvents, .commit]

/-- The specification is valid, and the database refuses nothing. -/
@[mk_iff]
structure Accepted : Prop where
  valid : submission.spec.validate = .ok ()
  proceeds : ∀ statement ∈ submission.statements, circumstances.fault statement = none

/-- The submission carries the id of a stored job. -/
def Repeats (jobId : JobId) : Prop :=
  ∃ text, submission.jobId = some text ∧ texts.uuids.parse text = some jobId.uuid ∧
    store.tables.jobs.find jobId ≠ none

/-- The job that the submission names is not stored. -/
def Fresh (jobId : JobId) : Prop :=
  identify texts circumstances submission.jobId = .ok jobId ∧
    store.tables.jobs.find jobId = none

end Submission

/-- One pending job, one row of the queue and one event more. -/
structure JobStore.Adds (jobId : JobId) (store after : JobStore) : Prop where
  job : ∃ row : JobRow, row.id = jobId ∧ row.state = "PENDING" ∧
    after.tables.jobs.rows = store.tables.jobs.rows ++ [row]
  queued : ∃ row : QueueRow, row.jobId = jobId ∧
    after.tables.jobQueue.rows = store.tables.jobQueue.rows ++ [row]
  event : ∃ row : OutboxEventView, row.aggregateId = jobId.uuid ∧ row.eventType = "JobQueued" ∧
    after.outbox.rows = store.outbox.rows ++ [row]

/-- What a submission owes to a job that is stored, and to one that is not. -/
structure Submission.Keeps (bus : EventBus floats) (submission : Submission floats)
    (store : JobStore) : Prop where
  repeated : ∀ jobId, submission.Repeats texts store jobId →
    ∃ problem, submission.execute texts json circumstances bus store = (.error problem, store)
  fresh : ∀ request jobId, submission = .queue request →
    submission.Fresh texts circumstances store jobId →
    match submission.execute texts json circumstances bus store with
    | (.ok _, after) => store.Adds jobId after
    | (.error _, after) => after = store

def queuedKey (jobId : JobId) : String := "job-queued-" ++ texts.uuids.display jobId.uuid

/-- No accepted submission repeats an id, or finds what a deleted job has left behind. -/
structure Submission.Sound (submission : Submission floats) (store : JobStore) : Prop where
  repeated : ∀ jobId, submission.Repeats texts store jobId → ¬submission.Accepted circumstances
  fresh : ∀ request jobId, submission = .queue request →
    submission.Fresh texts circumstances store jobId → submission.Accepted circumstances →
    store.tables.jobQueue.find jobId = none ∧ ¬HasKey store.outbox (queuedKey texts jobId)

/-! ## When an execution succeeds -/

variable {texts json circumstances} {bus : EventBus floats} {submission : Submission floats}
  {store : JobStore}

theorem of_job_new (json : RowJson floats) (circumstances : Circumstances) (id : JobId)
    (name : String) (spec : JobSpec floats) (metadata : StringMap) :
    ∃ row, JobRow.ofJob (newJob json circumstances id name spec metadata) = .ok row ∧
      row.id = id ∧ row.state = "PENDING" := by
  have bound : ∃ row,
      JobRow.ofJob (newJob json circumstances id name spec metadata) = .ok row := ⟨_, rfl⟩
  obtain ⟨row, bound⟩ := bound
  have columns := of_job_ok bound
  exact ⟨row, bound, columns.1, columns.2.1⟩

theorem statements_eq_ok {job : Job json.serde} {tables after : JobTables} {within : String}
    {row : JobRow} (pending : job.state = .pending) :
    statements circumstances.fault job tables within row = .ok after ↔
      circumstances.fault .saveJob = none ∧ circumstances.fault .enqueue = none ∧
        tables.saveRow .pending row = after := by
  unfold statements
  simp only [pending, if_true, run_bind_eq_ok, pure, Except.pure, Except.ok.injEq]

section Saved

variable {job : Job json.serde} {row : JobRow} {tables after : JobTables}

theorem save_eq_ok (pending : job.state = .pending) (bound : JobRow.ofJob job = .ok row) :
    save circumstances.fault job tables = .ok after ↔
      circumstances.fault .begin = none ∧ circumstances.fault .saveJob = none ∧
        circumstances.fault .enqueue = none ∧ circumstances.fault .commit = none ∧
        tables.saveRow .pending row = after := by
  simp only [save, bound, bind_eq_ok, run_eq_ok, statements_eq_ok pending, pure, Except.pure,
    Except.ok.injEq]
  grind

theorem save_with_tx_eq_ok (pending : job.state = .pending) (bound : JobRow.ofJob job = .ok row) :
    saveWithTx circumstances.fault job tables = .ok after ↔
      circumstances.fault .saveJob = none ∧ circumstances.fault .enqueue = none ∧
        tables.saveRow .pending row = after := by
  simp only [saveWithTx, bound, bind_eq_ok, statements_eq_ok pending, Except.ok.injEq]
  grind

theorem transaction_eq_ok {event : OutboxEventInsert} {store saved : JobStore}
    (pending : job.state = .pending) (bound : JobRow.ofJob job = .ok row) :
    QueueJobUseCase.transaction texts json circumstances job event store = .ok saved ↔
      circumstances.fault .begin = none ∧ circumstances.fault .saveJob = none ∧
        circumstances.fault .enqueue = none ∧ circumstances.fault .insertEvents = none ∧
        circumstances.fault .commit = none ∧
        (⟨store.tables.saveRow .pending row, insertDrawn circumstances.ids
          circumstances.databaseNow store.outbox event⟩ : JobStore) = saved := by
  simp only [QueueJobUseCase.transaction, bind_eq_ok, run_eq_ok, map_error_eq_ok,
    save_with_tx_eq_ok pending bound, pure, Except.pure, Except.ok.injEq]
  grind

end Saved

namespace Submission

theorem accepted_create_iff {request : CreateJobRequest floats} :
    (Submission.create request).Accepted circumstances ↔
      (convertToJobSpec request.spec).validate = .ok () ∧
        circumstances.fault .begin = none ∧ circumstances.fault .saveJob = none ∧
        circumstances.fault .enqueue = none ∧ circumstances.fault .commit = none := by
  simp [Submission.accepted_iff, Submission.statements, Submission.spec]

theorem accepted_queue_iff {request : QueueJobRequest floats} :
    (Submission.queue request).Accepted circumstances ↔
      (convertToJobSpec request.spec).validate = .ok () ∧
        circumstances.fault .begin = none ∧ circumstances.fault .saveJob = none ∧
        circumstances.fault .enqueue = none ∧ circumstances.fault .insertEvents = none ∧
        circumstances.fault .commit = none := by
  simp [Submission.accepted_iff, Submission.statements, Submission.spec]

theorem created_ok_iff {request : CreateJobRequest floats} :
    (∃ result, CreateJobUseCase.created texts json circumstances bus request store = .ok result) ↔
      (∃ jobId, identify texts circumstances request.jobId = .ok jobId) ∧
        (Submission.create request).Accepted circumstances := by
  rw [accepted_create_iff]
  cases named : identify texts circumstances request.jobId with
  | error problem => simp [CreateJobUseCase.created, bind_eq_ok, map_error_eq_ok, named]
  | ok jobId =>
      obtain ⟨row, bound, -, -⟩ := of_job_new json circumstances jobId request.name
        (convertToJobSpec request.spec)
        ((requestMetadata request.correlationId request.actor).insert "job_name" request.name)
      simp [CreateJobUseCase.created, bind_eq_ok, map_error_eq_ok, named, save_eq_ok rfl bound,
        pure, Except.pure, Unique.exists_iff]

theorem queued_eq_ok (json : RowJson floats) (store : JobStore)
    {request : QueueJobRequest floats} {jobId : JobId}
    (named : identify texts circumstances request.jobId = .ok jobId) :
    ∃ response row, row.id = jobId ∧ row.state = "PENDING" ∧ ∀ result,
      QueueJobUseCase.queued texts json circumstances request store = .ok result ↔
        (Submission.queue request).Accepted circumstances ∧
        (response, (⟨store.tables.saveRow .pending row,
          insertDrawn circumstances.ids circumstances.databaseNow store.outbox
            (jobQueuedRow texts jobId (convertToJobSpec request.spec) request.correlationId
              request.actor circumstances.occurredAt)⟩ : JobStore)) = result := by
  obtain ⟨row, bound, sameId, pending⟩ := of_job_new json circumstances jobId "queued-job"
    (convertToJobSpec request.spec) (requestMetadata request.correlationId request.actor)
  refine ⟨⟨texts.uuids.display jobId.uuid, "PENDING",
    "Job queued successfully with transactional outbox"⟩, row, sameId, pending, ?_⟩
  intro result
  rw [accepted_queue_iff]
  simp [QueueJobUseCase.queued, bind_eq_ok, map_error_eq_ok, named, transaction_eq_ok rfl bound,
    pure, Except.pure, Unique.exists_iff, and_assoc]

theorem queued_ok_iff {request : QueueJobRequest floats} :
    (∃ result, QueueJobUseCase.queued texts json circumstances request store = .ok result) ↔
      (∃ jobId, identify texts circumstances request.jobId = .ok jobId) ∧
        (Submission.queue request).Accepted circumstances := by
  cases named : identify texts circumstances request.jobId with
  | error problem => simp [QueueJobUseCase.queued, bind_eq_ok, map_error_eq_ok, named]
  | ok jobId =>
      obtain ⟨response, row, -, -, succeeds⟩ := queued_eq_ok json store named
      simp [succeeds]

/-- An execution succeeds for an accepted submission that names a job. -/
theorem submitted_ok_iff :
    (∃ result, submission.submitted texts json circumstances bus store = .ok result) ↔
      (∃ jobId, identify texts circumstances submission.jobId = .ok jobId) ∧
        submission.Accepted circumstances := by
  cases submission with
  | create request => exact created_ok_iff
  | queue request => exact queued_ok_iff

theorem execute_settles :
    submission.execute texts json circumstances bus store =
      store.settle (submission.submitted texts json circumstances bus store) := by
  cases submission <;> rfl

theorem execute_refused_iff :
    (∃ problem,
      submission.execute texts json circumstances bus store = (.error problem, store)) ↔
      ¬∃ result, submission.submitted texts json circumstances bus store = .ok result := by
  rw [execute_settles]
  cases submission.submitted texts json circumstances bus store with
  | ok result => simp [JobStore.settle]
  | error problem => simp [JobStore.settle]

theorem identify_of_repeats {jobId : JobId} (repeats : submission.Repeats texts store jobId) :
    identify texts circumstances submission.jobId = .ok jobId := by
  obtain ⟨text, carried, parsed, -⟩ := repeats
  simp [identify, carried, parsed]

/-- A repeated submission is refused for no other reason than a fresh one. -/
theorem repeated_refused_iff {jobId : JobId} (repeats : submission.Repeats texts store jobId) :
    (∃ problem,
      submission.execute texts json circumstances bus store = (.error problem, store)) ↔
      ¬submission.Accepted circumstances := by
  rw [execute_refused_iff, submitted_ok_iff]
  have named : ∃ jobId, identify texts circumstances submission.jobId = .ok jobId :=
    ⟨jobId, identify_of_repeats repeats⟩
  simp [named]

end Submission

/-! ## What a queued job adds -/

section Adding

variable {tables : JobTables} {jobId : JobId} {row : JobRow} {event : OutboxEventInsert}

theorem jobs_save_row_of_absent (absent : tables.jobs.find row.id = none) :
    (tables.saveRow .pending row).jobs.rows = tables.jobs.rows ++ [row] := by
  have inserted : (tables.saveRow .pending row).jobs = tables.jobs.upsert row := by
    simp only [JobTables.saveRow, JobTables.insertIntoQueue]
    split <;> rfl
  rw [inserted]
  exact Table.rows_upsert_of_absent _ _ ((Table.find_none_iff _ _).mp absent)

theorem job_queue_save_row_of_absent (absent : tables.jobQueue.find row.id = none) :
    (tables.saveRow .pending row).jobQueue.rows = tables.jobQueue.rows ++ [⟨row.id, none⟩] := by
  simp only [JobTables.saveRow, JobTables.insertIntoQueue, absent]
  exact Table.rows_upsert_of_absent _ _ ((Table.find_none_iff _ _).mp absent)

theorem job_queue_save_row_of_queued (queued : tables.jobQueue.find row.id ≠ none) :
    (tables.saveRow .pending row).jobQueue = tables.jobQueue := by
  obtain ⟨other, found⟩ := Option.ne_none_iff_exists'.mp queued
  simp only [JobTables.saveRow, JobTables.insertIntoQueue, found]

/-- The row of the queue and the event are left out where there is one of the same key. -/
theorem adds_iff (id : row.id = jobId) (pending : row.state = "PENDING")
    (absent : store.tables.jobs.find jobId = none) (aggregate : event.aggregateId = jobId.uuid)
    (type : event.eventType = "JobQueued") {key : String}
    (hasKey : event.idempotencyKey = some key) :
    store.Adds jobId ⟨store.tables.saveRow .pending row,
        insertDrawn circumstances.ids circumstances.databaseNow store.outbox event⟩ ↔
      store.tables.jobQueue.find jobId = none ∧ ¬HasKey store.outbox key := by
  subst id
  constructor
  · intro adds
    constructor
    · by_contra queued
      obtain ⟨added, -, rows⟩ := adds.queued
      rw [job_queue_save_row_of_queued queued] at rows
      simp at rows
    · intro taken
      obtain ⟨added, -, -, rows⟩ := adds.event
      rw [insert_drawn_of_has_key _ _ _ hasKey taken] at rows
      simp at rows
  · intro ⟨unqueued, free⟩
    constructor
    · exact ⟨row, rfl, pending, jobs_save_row_of_absent absent⟩
    · exact ⟨_, rfl, job_queue_save_row_of_absent unqueued⟩
    · exact ⟨_, aggregate, type, rows_insert_drawn _ _ _ hasKey free⟩

end Adding

theorem fresh_kept_iff {request : QueueJobRequest floats} {jobId : JobId}
    (fresh : (Submission.queue request).Fresh texts circumstances store jobId) :
    (match (Submission.queue request).execute texts json circumstances bus store with
      | (.ok _, after) => store.Adds jobId after
      | (.error _, after) => after = store) ↔
      ((Submission.queue request).Accepted circumstances →
        store.tables.jobQueue.find jobId = none ∧
          ¬HasKey store.outbox (queuedKey texts jobId)) := by
  obtain ⟨response, row, sameId, pending, succeeds⟩ :=
    Submission.queued_eq_ok json store fresh.1
  rw [Submission.execute_settles]
  simp only [Submission.submitted]
  cases outcome : QueueJobUseCase.queued texts json circumstances request store with
  | error problem =>
      have refused : ¬(Submission.queue request).Accepted circumstances := by
        intro accepted
        have done := (succeeds _).mpr ⟨accepted, rfl⟩
        cases outcome.symm.trans done
      simp [JobStore.settle, refused]
  | ok result =>
      obtain ⟨accepted, same⟩ := (succeeds result).mp outcome
      subst same
      simp only [JobStore.settle, accepted, true_implies]
      exact adds_iff sameId pending fresh.2 rfl rfl rfl

/-- The submission keeps its promises exactly if it is not an accepted one that repeats the id
of a stored job, or that finds a row of the queue or an event of a job that is gone. -/
theorem submission_keeps_iff_sound (texts : RowTexts) (json : RowJson floats)
    (circumstances : Circumstances) (bus : EventBus floats) (submission : Submission floats)
    (store : JobStore) :
    submission.Keeps texts json circumstances bus store ↔
      submission.Sound texts circumstances store := by
  constructor
  · intro keeps
    constructor
    · intro jobId repeats
      exact (Submission.repeated_refused_iff repeats).mp (keeps.repeated jobId repeats)
    · intro request jobId isQueue fresh
      have kept := keeps.fresh request jobId isQueue fresh
      subst isQueue
      exact (fresh_kept_iff fresh).mp kept
  · intro sound
    constructor
    · intro jobId repeats
      exact (Submission.repeated_refused_iff repeats).mpr (sound.repeated jobId repeats)
    · intro request jobId isQueue fresh
      have unclaimed := sound.fresh request jobId isQueue fresh
      subst isQueue
      exact (fresh_kept_iff fresh).mpr unclaimed

end

/-! ## A job that is queued again -/

def echoRequest : QueueJobRequest wholeFloats where
  spec :=
    { command := ["echo", "hello"], image := none, env := none, timeoutMs := none,
      workingDir := none, cpuCores := none, memoryBytes := none, diskBytes := none,
      preferredProvider := none, preferredRegion := none, requiredLabels := none,
      requiredAnnotations := none }
  correlationId := none
  actor := none
  jobId := some (zerosText.display 1)

def plainTexts : RowTexts := ⟨zerosText, fun _ => "2026-02-02T00:00:00+00:00"⟩

def plainJson : RowJson wholeFloats := ⟨wholeSerdes, fun _ => .null, fun _ => "", plainSerde ()⟩

def undisturbed : Circumstances where
  drawn := ⟨9⟩
  createdAt := 7
  occurredAt := 7
  databaseNow := 8
  ids := .successor
  fault _ := none

def succeededRow : JobRow where
  id := ⟨1⟩
  name := "queued-job"
  spec := .null
  state := "SUCCEEDED"
  selectedProviderId := none
  executionContext := none
  attempts := 1
  maxAttempts := 3
  createdAt := 1
  startedAt := some 2
  completedAt := some 3
  result := some .null
  errorMessage := none
  metadata := .null

/-- The job has run, and its event is in the outbox. -/
def succeededStore : JobStore where
  tables := { JobTables.empty with jobs := JobTables.empty.jobs.upsert succeededRow }
  outbox := insertDrawn .successor 1 ⟨[], List.nodup_nil⟩
    (jobQueuedRow plainTexts ⟨1⟩ (convertToJobSpec echoRequest.spec) none none 1)

def silentBus : EventBus wholeFloats := fun _ outbox => (.ok (), outbox)

theorem succeeded_job_is_queued_again :
    ¬(Submission.queue echoRequest).Keeps plainTexts plainJson undisturbed silentBus
      succeededStore := by
  intro keeps
  have repeats : (Submission.queue echoRequest).Repeats plainTexts succeededStore ⟨1⟩ := by
    refine ⟨zerosText.display 1, rfl, zerosText.parse_display 1, ?_⟩
    have found : succeededStore.tables.jobs.find ⟨1⟩ = some succeededRow :=
      Table.find_upsert_self JobTables.empty.jobs succeededRow
    simp [found]
  have accepted : (Submission.queue echoRequest).Accepted undisturbed := ⟨rfl, fun _ _ => rfl⟩
  exact (Submission.repeated_refused_iff repeats).mp (keeps.repeated _ repeats) accepted

end HodeiJobs.Persistence
