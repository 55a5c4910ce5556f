import HodeiJobs.Jobs.Aggregate
import HodeiJobs.Library.Casts
import HodeiJobs.Workers.Aggregate

/-!
# The tables `jobs` and `job_queue`

A job is pending in one table and queued in the other. Here stand the rows, and the
statements by which the queue and the repository write them, each call one transaction.
-/

namespace HodeiJobs.Persistence

open HodeiJobs.Library HodeiJobs.Shared
open HodeiJobs.Sagas (DateTime Json Uuid)
open HodeiJobs.Execution (JobId)
open HodeiJobs.Dispatch (ProviderId)
open HodeiJobs.Workers (StringMap)
open HodeiJobs.Jobs (DomainError)

/-! ## Jobs and rows -/

/-- `serde_json::to_value` and `from_value` of what a row holds as JSON. An execution
context is written with the names of its fields as keys. -/
structure Serde where
  Spec : Type
  Context : Type
  Result : Type
  specToValue : Spec → Except String Json
  specFromValue : Json → Except String Spec
  contextToValue : Context → Except String Json
  contextFromValue : Json → Except String Context
  resultToValue : Result → Except String Json
  resultFromValue : Json → Except String Result
  metadataToValue : StringMap → Except String Json
  metadataFromValue : Json → Except String StringMap
  contextKeys : ∀ context value, contextToValue context = .ok value →
    ∃ entries, value = .object entries ∧ (entries.map Prod.fst).Perm
      ["job_id", "provider_id", "provider_execution_id", "submitted_at", "started_at",
        "completed_at", "status", "result", "metadata"]

inductive TriggerType where
  | manual
  | scheduled
  | api
  | webhook
  | retry
  deriving DecidableEq, Repr

structure Job (serde : Serde) where
  id : JobId
  name : String
  spec : serde.Spec
  state : JobState
  selectedProvider : Option ProviderId
  executionContext : Option serde.Context
  attempts : Nat
  maxAttempts : Nat
  createdAt : DateTime
  startedAt : Option DateTime
  completedAt : Option DateTime
  result : Option serde.Result
  errorMessage : Option String
  metadata : StringMap
  templateId : Option Uuid
  templateVersion : Option Nat
  executionNumber : Option Nat
  triggeredBy : Option TriggerType

/-- JSON that is written without a value and read as one that is given. -/
def plainSerde {Spec : Type} (spec : Spec) : Serde where
  Spec := Spec
  Context := Unit
  Result := Unit
  specToValue _ := .ok .null
  specFromValue _ := .ok spec
  contextToValue _ := .ok (.object [("job_id", .null), ("provider_id", .null),
    ("provider_execution_id", .null), ("submitted_at", .null), ("started_at", .null),
    ("completed_at", .null), ("status", .null), ("result", .null), ("metadata", .null)])
  contextFromValue _ := .ok ()
  resultToValue _ := .ok .null
  resultFromValue _ := .ok ()
  metadataToValue _ := .ok (.object [])
  metadataFromValue _ := .ok ∅
  contextKeys _ _ written := ⟨_, (Except.ok.inj written).symm, .refl _⟩

def plainJob {Spec : Type} (spec : Spec) (state : JobState) : Job (plainSerde spec) where
  id := ⟨1⟩
  name := "build"
  spec
  state
  selectedProvider := none
  executionContext := none
  attempts := 0
  maxAttempts := 3
  createdAt := 0
  startedAt := none
  completedAt := none
  result := none
  errorMessage := none
  metadata := ∅
  templateId := none
  templateVersion := none
  executionNumber := none
  triggeredBy := none

structure JobRow where
  id : JobId
  name : String
  spec : Json
  state : String
  selectedProviderId : Option ProviderId
  executionContext : Option Json
  attempts : Int
  maxAttempts : Int
  createdAt : DateTime
  startedAt : Option DateTime
  completedAt : Option DateTime
  result : Option Json
  errorMessage : Option String
  metadata : Json

/-- The columns of `job_queue` that a statement here names. -/
structure QueueRow where
  jobId : JobId
  enqueuedAt : Option DateTime
  deriving DecidableEq

structure JobTables where
  jobs : Table JobRow.id
  jobQueue : Table QueueRow.jobId

def JobTables.empty : JobTables where
  jobs := ⟨[], List.nodup_nil⟩
  jobQueue := ⟨[], List.nodup_nil⟩

/-- `state_to_string`. -/
def stateToString (state : JobState) : String := state.display

/-- `string_to_state` of the repository. -/
def stringToState : String → JobState
  | "PENDING" => .pending
  | "ASSIGNED" => .assigned
  | "SCHEDULED" => .scheduled
  | "RUNNING" => .running
  | "SUCCEEDED" => .succeeded
  | "FAILED" => .failed
  | "CANCELLED" => .cancelled
  | "TIMEOUT" => .timeout
  | "MANUAL_INTERVENTION_REQUIRED" => .manualInterventionRequired
  | _ => .failed

theorem string_to_state_to_string (state : JobState) :
    stringToState (stateToString state) = state := by
  cases state <;> rfl

theorem state_to_string_injective {state other : JobState}
    (same : stateToString state = stateToString other) : state = other := by
  rw [← string_to_state_to_string state, same, string_to_state_to_string]

def serialize {Value : Type} (what : String) : Except String Value → Except DomainError Value
  | .ok value => .ok value
  | .error problem =>
      .error (.infrastructureError ("Failed to serialize " ++ what ++ ": " ++ problem))

def serializeOption {Value : Type} (what : String) (toValue : Value → Except String Json) :
    Option Value → Except DomainError (Option Json)
  | none => .ok none
  | some value => (serialize what (toValue value)).map some

/-- What `save` and `save_with_tx` bind to their statement. -/
def JobRow.ofJob {serde : Serde} (job : Job serde) : Except DomainError JobRow := do
  let spec ← serialize "job spec" (serde.specToValue job.spec)
  let executionContext ←
    serializeOption "execution context" serde.contextToValue job.executionContext
  let result ← serializeOption "result" serde.resultToValue job.result
  let metadata ← serialize "metadata" (serde.metadataToValue job.metadata)
  return {
    id := job.id
    name := job.name
    spec
    state := stateToString job.state
    selectedProviderId := job.selectedProvider
    executionContext
    attempts := asI32 job.attempts
    maxAttempts := asI32 job.maxAttempts
    createdAt := job.createdAt
    startedAt := job.startedAt
    completedAt := job.completedAt
    result
    errorMessage := job.errorMessage
    metadata }

/-- The columns of a bound row that the statements and the readers look at. -/
theorem of_job_ok {serde : Serde} {job : Job serde} {row : JobRow}
    (bound : JobRow.ofJob job = .ok row) :
    row.id = job.id ∧ row.state = stateToString job.state ∧
      serializeOption "execution context" serde.contextToValue job.executionContext =
        .ok row.executionContext ∧
      serialize "job spec" (serde.specToValue job.spec) = .ok row.spec := by
  unfold JobRow.ofJob at bound
  cases spec : serialize "job spec" (serde.specToValue job.spec) with
  | error problem => simp [spec, bind, Except.bind] at bound
  | ok specJson =>
  cases context : serializeOption "execution context" serde.contextToValue job.executionContext with
  | error problem => simp [spec, context, bind, Except.bind] at bound
  | ok contextJson =>
  cases result : serializeOption "result" serde.resultToValue job.result with
  | error problem => simp [spec, context, result, bind, Except.bind] at bound
  | ok resultJson =>
  cases metadata : serialize "metadata" (serde.metadataToValue job.metadata) with
  | error problem => simp [spec, context, result, metadata, bind, Except.bind] at bound
  | ok metadataJson =>
      simp only [spec, context, result, metadata, bind, Except.bind, pure, Except.pure,
        Except.ok.injEq] at bound
      rw [← bound]
      exact ⟨rfl, rfl, rfl, rfl⟩

/-! ## Statements -/

namespace JobTables

variable (tables : JobTables)

/-- `INSERT INTO job_queue (job_id) VALUES ($1) ON CONFLICT (job_id) DO NOTHING`; the time
column has no default. -/
def insertIntoQueue (jobId : JobId) : JobTables :=
  match tables.jobQueue.find jobId with
  | some _ => tables
  | none => { tables with jobQueue := tables.jobQueue.upsert ⟨jobId, none⟩ }

/-- `UPDATE jobs SET state = $1 WHERE id = $2`. -/
def setState (jobId : JobId) (state : String) : JobTables :=
  { tables with
    jobs := tables.jobs.update jobId (fun row => { row with state := state }) fun _ => rfl }

/-- The statements of `save` once the job is serialized. -/
def saveRow (state : JobState) (row : JobRow) : JobTables :=
  let saved := { tables with jobs := tables.jobs.upsert row }
  match state with
  | .pending => saved.insertIntoQueue row.id
  | _ => saved

def save {serde : Serde} (job : Job serde) : Except DomainError Unit × JobTables :=
  match JobRow.ofJob job with
  | .ok row => (.ok (), tables.saveRow job.state row)
  | .error problem => (.error problem, tables)

def updateState (jobId : JobId) (newState : JobState) : JobTables :=
  tables.setState jobId (stateToString newState)

/-- The queue row must refer to a job; the text of the violation is the database's. -/
def enqueue (violation : String) (jobId : JobId) : Except DomainError Unit × JobTables :=
  match tables.jobs.find jobId with
  | none =>
      (.error (.infrastructureError ("Failed to insert into job_queue: " ++ violation)), tables)
  | some _ => (.ok (), (tables.insertIntoQueue jobId).setState jobId "PENDING")

/-- What the foreign key does when the job of a queue row is deleted. -/
inductive OnDelete where
  | cascade
  | noAction (violation : String)

def delete (onDelete : OnDelete) (jobId : JobId) : Except DomainError Unit × JobTables :=
  match onDelete, tables.jobQueue.find jobId with
  | .noAction violation, some _ =>
      (.error (.infrastructureError ("Failed to delete job: " ++ violation)), tables)
  | _, _ => (.ok (), ⟨tables.jobs.delete jobId, tables.jobQueue.delete jobId⟩)

/-! ## The queue -/

/-- `enqueued_at ASC`, where a row without a time comes last. -/
def notAfter : Option DateTime → Option DateTime → Bool
  | _, none => true
  | none, some _ => false
  | some first, some second => first ≤ second

/-- The queue rows whose job is pending. -/
def waiting : List QueueRow :=
  tables.jobQueue.rows.filter fun queued =>
    ((tables.jobs.find queued.jobId).map fun row => row.state == "PENDING").getD false

/-- The rows that may stand first after `ORDER BY`: the statement breaks no ties. -/
def claimable : List QueueRow :=
  tables.waiting.filter fun queued =>
    tables.waiting.all fun other => notAfter queued.enqueuedAt other.enqueuedAt

/-- The row that the statement claims, as it returns it; `choice` breaks the tie. -/
def claim (choice : Nat) : Option JobRow :=
  tables.claimable[choice % tables.claimable.length]?.bind fun queued =>
    (tables.jobs.find queued.jobId).map fun row => { row with state := "ASSIGNED" }

/-- The transaction of `dequeue`. -/
def dequeue (choice : Nat) : Option JobRow × JobTables :=
  match tables.claim choice with
  | none => (none, tables)
  | some row =>
      let assigned := tables.setState row.id "ASSIGNED"
      (some row, { assigned with jobQueue := assigned.jobQueue.delete row.id })

variable {tables : JobTables}

theorem mem_waiting_iff {queued : QueueRow} : queued ∈ tables.waiting ↔
    queued ∈ tables.jobQueue.rows ∧
      ∃ row, tables.jobs.find queued.jobId = some row ∧ row.state = "PENDING" := by
  unfold waiting
  rw [List.mem_filter]
  cases found : tables.jobs.find queued.jobId with
  | none => simp
  | some row => simp

/-- The claimed job was pending and had a row in the queue. -/
theorem claim_some {choice : Nat} {row : JobRow} (claimed : tables.claim choice = some row) :
    ∃ before queued, tables.jobs.find before.id = some before ∧ before.state = "PENDING" ∧
      tables.jobQueue.find before.id = some queued ∧ row = { before with state := "ASSIGNED" } := by
  unfold claim at claimed
  obtain ⟨queued, chosen, stored⟩ := Option.bind_eq_some_iff.mp claimed
  obtain ⟨before, found, same⟩ := Option.map_eq_some_iff.mp stored
  have member : queued ∈ tables.claimable := List.mem_of_getElem? chosen
  obtain ⟨inQueue, row', found', pending⟩ := mem_waiting_iff.mp (List.mem_filter.mp member).1
  have key : before.id = queued.jobId := Table.find_some_key found
  rw [found] at found'
  obtain rfl := Option.some.inj found'
  refine ⟨before, queued, ?_, pending, ?_, same.symm⟩
  · rw [key, found]
  · rw [key]
    exact Table.find_of_mem inQueue

end JobTables

end HodeiJobs.Persistence
