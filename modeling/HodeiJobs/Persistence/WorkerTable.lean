import HodeiJobs.Library.Transaction
import HodeiJobs.Persistence.JobTables

/-!
# The table `workers`

A row holds the handle and the specification of a worker as JSON, and no column for the
jobs it has executed or for the time when it completed one. The table definition is not in
the repository: what it decides is a parameter.
-/

namespace HodeiJobs.Persistence

open HodeiJobs.Library HodeiJobs.Shared
open HodeiJobs.Sagas (DateTime Json)
open HodeiJobs.Execution (JobId WorkerId)
open HodeiJobs.Dispatch (ProviderId)
open HodeiJobs.Jobs (DomainError)

/-! ## Workers with all their fields -/

/-- The fields of `WorkerHandle` that the aggregate leaves alone. -/
structure HandleRest where
  providerResourceId : String
  providerId : ProviderId
  createdAt : DateTime
  metadata : AList fun _ : String => Json

structure WorkerHandle extends Workers.WorkerHandle where
  rest : HandleRest

/-- `rest` is the image, the resources and whatever else only a provider reads. -/
structure WorkerSpec (Rest : Type) extends Workers.WorkerSpec where
  rest : Rest

/-- `serde_json::to_value` and `from_value` of the two JSON columns. -/
structure WorkerSerde where
  SpecRest : Type
  handleToValue : WorkerHandle → Except String Json
  handleFromValue : Json → Except String WorkerHandle
  specToValue : WorkerSpec SpecRest → Except String Json
  specFromValue : Json → Except String (WorkerSpec SpecRest)

/-- JSON that is written without a value and read as the one that is given. -/
def plainWorkerSerde (handle : WorkerHandle) (spec : WorkerSpec Unit) : WorkerSerde where
  SpecRest := Unit
  handleToValue _ := .ok .null
  handleFromValue _ := .ok handle
  specToValue _ := .ok .null
  specFromValue _ := .ok spec

def dockerHandle : WorkerHandle where
  workerId := ⟨1⟩
  providerType := .docker
  rest := ⟨"container-123", ⟨3⟩, 0, ∅⟩

/-- With the defaults of `WorkerSpec::new`. -/
def defaultSpec : WorkerSpec Unit := ⟨.new, ()⟩

structure Worker (serde : WorkerSerde) extends Workers.Worker where
  handleRest : HandleRest
  specRest : serde.SpecRest

namespace Worker

variable {serde : WorkerSerde}

def fullHandle (worker : Worker serde) : WorkerHandle := ⟨worker.handle, worker.handleRest⟩

def fullSpec (worker : Worker serde) : WorkerSpec serde.SpecRest := ⟨worker.spec, worker.specRest⟩

/-- `Worker::new`, at the time `now`. -/
def new (handle : WorkerHandle) (spec : WorkerSpec serde.SpecRest) (now : DateTime) :
    Worker serde where
  toWorker := Workers.Worker.new handle.toWorkerHandle spec.toWorkerSpec now
  handleRest := handle.rest
  specRest := spec.rest

/-- `now` is read only for a worker that has sent no heartbeat. -/
def fromDatabase (handle : WorkerHandle) (spec : WorkerSpec serde.SpecRest) (state : WorkerState)
    (currentJobId : Option JobId) (lastHeartbeat : Option DateTime)
    (createdAt updatedAt now : DateTime) : Worker serde where
  id := handle.workerId
  handle := handle.toWorkerHandle
  state := state
  spec := spec.toWorkerSpec
  currentJobId := currentJobId
  jobsExecuted := 0
  jobCompletedAt := none
  lastHeartbeat := lastHeartbeat.getD now
  createdAt := createdAt
  updatedAt := updatedAt
  handleRest := handle.rest
  specRest := spec.rest

/-- No mutator touches the rest of the handle or of the specification. -/
def step (worker : Worker serde) (mutator : Workers.Mutator) : Worker serde :=
  { worker with toWorker := worker.toWorker.step mutator }

end Worker

/-! ## Rows -/

structure WorkerRow where
  id : WorkerId
  name : Option String
  providerId : ProviderId
  providerType : String
  providerResourceId : String
  state : String
  spec : Json
  handle : Json
  currentJobId : Option JobId
  lastHeartbeat : Option DateTime
  createdAt : DateTime
  updatedAt : DateTime

abbrev WorkerTable := Table WorkerRow.id

structure WorkerDatabase where
  /-- The columns that an `INSERT` does not list, at the time `NOW()`. -/
  defaultName : Option String
  defaultLastHeartbeat : DateTime → Option DateTime
  defaultCreatedAt : DateTime → DateTime
  defaultUpdatedAt : DateTime → DateTime
  /-- What a time column gives back for a time that was bound to it. -/
  columnTime : DateTime → DateTime
  /-- Why a write is refused: the table before it and after it, and the row it would insert. -/
  refusal : WorkerTable → WorkerTable → Option WorkerRow → Option String

/-- Without defaults and constraints. -/
def plainDatabase : WorkerDatabase where
  defaultName := none
  defaultLastHeartbeat _ := none
  defaultCreatedAt now := now
  defaultUpdatedAt now := now
  columnTime time := time
  refusal _ _ _ := none

/-- The states that the table may hold, three of them from before. -/
def workerStateOf : String → Option WorkerState
  | "CREATING" => some .creating
  | "READY" => some .ready
  | "BUSY" => some .busy
  | "TERMINATED" => some .terminated
  | "CONNECTING" | "DRAINING" | "TERMINATING" => some .creating
  | _ => none

theorem worker_state_of_state_text (state : WorkerState) :
    workerStateOf (Workers.stateText state) = some state := by
  cases state <;> rfl

theorem state_text_injective {state other : WorkerState}
    (same : Workers.stateText state = Workers.stateText other) : state = other := by
  have states := congrArg workerStateOf same
  rw [worker_state_of_state_text, worker_state_of_state_text] at states
  exact Option.some.inj states

def decodeJson {Value : Type} (what : String) (read : Except String Value) :
    Except DomainError Value :=
  read.mapError fun problem =>
    .infrastructureError ("Failed to deserialize " ++ what ++ ": " ++ problem)

/-- `now` is the clock when this row is mapped. -/
def mapRowToWorker (serde : WorkerSerde) (now : DateTime) (row : WorkerRow) :
    Except DomainError (Worker serde) := do
  let handle ← decodeJson "worker handle" (serde.handleFromValue row.handle)
  let spec ← decodeJson "worker spec" (serde.specFromValue row.spec)
  match workerStateOf row.state with
  | none => .error (.infrastructureError ("Invalid worker state: " ++ row.state))
  | some state =>
      return .fromDatabase handle spec state row.currentJobId row.lastHeartbeat row.createdAt
        row.updatedAt now

/-! ## Statements -/

/-- A write, unless the database refuses it. -/
def write (database : WorkerDatabase) (proposed : Option WorkerRow)
    (change : WorkerTable → WorkerTable) : SqlStatement WorkerTable Unit := fun table =>
  match database.refusal table (change table) proposed with
  | some problem => .error problem
  | none => .ok ((), change table)

section

variable {database : WorkerDatabase} {proposed : Option WorkerRow}
  {change : WorkerTable → WorkerTable} {table : WorkerTable}

theorem write_refused {problem : String}
    (refused : database.refusal table (change table) proposed = some problem) :
    autocommit (write database proposed change) table = (.error problem, table) := by
  unfold autocommit write
  rw [refused]

theorem write_accepted (accepted : database.refusal table (change table) proposed = none) :
    autocommit (write database proposed change) table = (.ok (), change table) := by
  unfold autocommit write
  rw [accepted]

end

namespace WorkerTable

variable (table : WorkerTable)

/-- `ON CONFLICT (id) DO UPDATE SET` of `register`. -/
def registerAgain (now : DateTime) (existing excluded : WorkerRow) : WorkerRow :=
  { existing with
    name := excluded.name
    providerId := excluded.providerId
    providerType := excluded.providerType
    providerResourceId := excluded.providerResourceId
    state := excluded.state
    spec := excluded.spec
    handle := excluded.handle
    currentJobId := excluded.currentJobId
    updatedAt := now }

/-- `ON CONFLICT (id) DO UPDATE SET` of `save`. -/
def saveAgain (existing excluded : WorkerRow) : WorkerRow :=
  { existing with
    providerId := excluded.providerId
    providerType := excluded.providerType
    providerResourceId := excluded.providerResourceId
    state := excluded.state
    spec := excluded.spec
    handle := excluded.handle
    currentJobId := excluded.currentJobId
    lastHeartbeat := excluded.lastHeartbeat
    updatedAt := excluded.updatedAt }

/-- `SET state = $1, updated_at = NOW() WHERE id = $2`. -/
def setState (now : DateTime) (state : WorkerState) (workerId : WorkerId) : WorkerTable :=
  table.update workerId
    (fun row => { row with state := Workers.stateText state, updatedAt := now }) fun _ => rfl

/-- `SET current_job_id = NULL, state = $1, updated_at = NOW() WHERE id = $2`. -/
def release (now : DateTime) (state : WorkerState) (workerId : WorkerId) : WorkerTable :=
  table.update workerId
    (fun row =>
      { row with currentJobId := none, state := Workers.stateText state, updatedAt := now })
    fun _ => rfl

/-- `WHERE state = $1 AND current_job_id IS NULL`. -/
def available : List WorkerRow :=
  table.rows.filter fun row =>
    row.state == Workers.stateText .ready && row.currentJobId.isNone

end WorkerTable

end HodeiJobs.Persistence
