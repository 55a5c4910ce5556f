import HodeiJobs.Persistence.JobTables

/-!
# Reading jobs

Each reader has a hand-written list of columns, and there are two decoders with tables of
states of their own. `Row::get` panics on a column that the statement did not select.
-/

namespace HodeiJobs.Persistence

open HodeiJobs.Library HodeiJobs.Shared
open HodeiJobs.Sagas (Json)
open HodeiJobs.Execution (JobId)
open HodeiJobs.Dispatch (ProviderId)
open HodeiJobs.Jobs (DomainError)

inductive Column where
  | id
  | name
  | spec
  | state
  | selectedProviderId
  | executionContext
  | attempts
  | maxAttempts
  | createdAt
  | startedAt
  | completedAt
  | result
  | errorMessage
  | metadata
  deriving DecidableEq, Repr

/-- How a read ends without a value: the thread panics, or it is an error. -/
inductive ReadError where
  | panicked (column : Column)
  | failed (error : DomainError)
  deriving DecidableEq

/-- The select list of `dequeue`, `find_by_id` and `find_by_state`. -/
def everyColumn : List Column :=
  [.id, .name, .spec, .state, .selectedProviderId, .executionContext, .attempts, .maxAttempts,
    .createdAt, .startedAt, .completedAt, .result, .errorMessage, .metadata]

/-- The select list of the other readers. -/
def columnsWithoutName : List Column :=
  [.id, .spec, .state, .selectedProviderId, .executionContext, .attempts, .maxAttempts,
    .createdAt, .startedAt, .completedAt, .result, .errorMessage, .metadata]

/-! ## Decoders -/

/-- `Row::get`. -/
def getColumn {Value : Type} (selected : List Column) (column : Column) (value : Value) :
    Except ReadError Value :=
  if column ∈ selected then .ok value else .error (.panicked column)

def deserialize {Value : Type} (what : String) : Except String Value → Except ReadError Value
  | .ok value => .ok value
  | .error problem => .error (.failed
      (.infrastructureError ("Failed to deserialize " ++ what ++ ": " ++ problem)))

def deserializeOption {Value : Type} (what : String) (fromValue : Json → Except String Value) :
    Option Json → Except ReadError (Option Value)
  | none => .ok none
  | some value => (deserialize what (fromValue value)).map some

/-- The two `map_row_to_job`: every column is read before anything is decoded. -/
def mapRow (serde : Serde) (stateOf : String → JobState) (selected : List Column) (row : JobRow) :
    Except ReadError (Job serde) := do
  let id ← getColumn selected .id row.id
  let name ← getColumn selected .name row.name
  let specJson ← getColumn selected .spec row.spec
  let stateText ← getColumn selected .state row.state
  let selectedProviderId ← getColumn selected .selectedProviderId row.selectedProviderId
  let executionContextJson ← getColumn selected .executionContext row.executionContext
  let attempts ← getColumn selected .attempts row.attempts
  let maxAttempts ← getColumn selected .maxAttempts row.maxAttempts
  let createdAt ← getColumn selected .createdAt row.createdAt
  let startedAt ← getColumn selected .startedAt row.startedAt
  let completedAt ← getColumn selected .completedAt row.completedAt
  let resultJson ← getColumn selected .result row.result
  let errorMessage ← getColumn selected .errorMessage row.errorMessage
  let metadataJson ← getColumn selected .metadata row.metadata
  let spec ← deserialize "job spec" (serde.specFromValue specJson)
  let executionContext ←
    deserializeOption "execution context" serde.contextFromValue executionContextJson
  let result ← deserializeOption "result" serde.resultFromValue resultJson
  return {
    id
    name
    spec
    state := stateOf stateText
    selectedProvider := selectedProviderId
    executionContext
    attempts := asU32 attempts
    maxAttempts := asU32 maxAttempts
    createdAt
    startedAt
    completedAt
    result
    errorMessage
    metadata := (serde.metadataFromValue metadataJson).toOption.getD ∅
    templateId := none
    templateVersion := none
    executionNumber := none
    triggeredBy := none }

section

variable {serde : Serde} {stateOf : String → JobState} {row : JobRow}

/-- The job of a row whose JSON has been decoded. -/
def decodedJob (stateOf : String → JobState) (row : JobRow) (spec : serde.Spec)
    (executionContext : Option serde.Context) (result : Option serde.Result) :
    Job serde where
  id := row.id
  name := row.name
  spec
  state := stateOf row.state
  selectedProvider := row.selectedProviderId
  executionContext
  attempts := asU32 row.attempts
  maxAttempts := asU32 row.maxAttempts
  createdAt := row.createdAt
  startedAt := row.startedAt
  completedAt := row.completedAt
  result
  errorMessage := row.errorMessage
  metadata := (serde.metadataFromValue row.metadata).toOption.getD ∅
  templateId := none
  templateVersion := none
  executionNumber := none
  triggeredBy := none

/-- With every column selected, a row is read once its JSON is decoded. -/
theorem map_row_every_column (serde : Serde) (stateOf : String → JobState) (row : JobRow) :
    mapRow serde stateOf everyColumn row = do
      let spec ← deserialize "job spec" (serde.specFromValue row.spec)
      let executionContext ←
        deserializeOption "execution context" serde.contextFromValue row.executionContext
      let result ← deserializeOption "result" serde.resultFromValue row.result
      return decodedJob stateOf row spec executionContext result := rfl

theorem map_row_ok {job : Job serde} (read : mapRow serde stateOf everyColumn row = .ok job) :
    ∃ spec executionContext result,
      deserialize "job spec" (serde.specFromValue row.spec) = .ok spec ∧
        deserializeOption "execution context" serde.contextFromValue row.executionContext =
          .ok executionContext ∧
        deserializeOption "result" serde.resultFromValue row.result = .ok result ∧
        job = decodedJob stateOf row spec executionContext result := by
  rw [map_row_every_column] at read
  cases spec : deserialize "job spec" (serde.specFromValue row.spec) with
  | error problem => simp [spec, bind, Except.bind] at read
  | ok specValue =>
  cases context : deserializeOption "execution context" serde.contextFromValue
      row.executionContext with
  | error problem => simp [spec, context, bind, Except.bind] at read
  | ok contextValue =>
  cases result : deserializeOption "result" serde.resultFromValue row.result with
  | error problem => simp [spec, context, result, bind, Except.bind] at read
  | ok resultValue =>
      simp only [spec, context, result, bind, Except.bind, pure, Except.pure,
        Except.ok.injEq] at read
      exact ⟨specValue, contextValue, resultValue, rfl, rfl, rfl, read.symm⟩

end

namespace JobRepository

def mapRowToJob (serde : Serde) : List Column → JobRow → Except ReadError (Job serde) :=
  mapRow serde stringToState

end JobRepository

namespace JobQueue

/-- The table of states in the decoder of the queue. -/
def stringToState : String → JobState
  | "PENDING" => .pending
  | "SCHEDULED" => .scheduled
  | "RUNNING" => .running
  | "SUCCEEDED" => .succeeded
  | "FAILED" => .failed
  | "CANCELLED" => .cancelled
  | "TIMEOUT" => .timeout
  | _ => .failed

def mapRowToJob (serde : Serde) : List Column → JobRow → Except ReadError (Job serde) :=
  mapRow serde stringToState

def dequeue (serde : Serde) (tables : JobTables) (choice : Nat) :
    Except ReadError (Option (Job serde)) × JobTables :=
  match tables.dequeue choice with
  | (none, rolledBack) => (.ok none, rolledBack)
  | (some row, committed) => ((mapRowToJob serde everyColumn row).map some, committed)

end JobQueue

/-! ## Readers of the repository -/

namespace JobRepository

variable (serde : Serde) (tables : JobTables)

def findById (jobId : JobId) : Except ReadError (Option (Job serde)) :=
  match tables.jobs.find jobId with
  | some row => (mapRowToJob serde everyColumn row).map some
  | none => .ok none

def oldestFirst (rows : List JobRow) : List JobRow :=
  rows.mergeSort fun first second => first.createdAt ≤ second.createdAt

def newestFirst (rows : List JobRow) : List JobRow :=
  rows.mergeSort fun first second => second.createdAt ≤ first.createdAt

def rowsByState (state : JobState) : List JobRow :=
  oldestFirst (tables.jobs.rows.filter fun row => row.state == stateToString state)

def findByState (state : JobState) : Except ReadError (List (Job serde)) :=
  (rowsByState tables state).mapM (mapRowToJob serde everyColumn)

def pendingRows : List JobRow :=
  oldestFirst (tables.jobs.rows.filter fun row => row.state == "PENDING")

def findPending : Except ReadError (List (Job serde)) :=
  (pendingRows tables).mapM (mapRowToJob serde columnsWithoutName)

/-- `LIMIT` and `OFFSET`, bound as `i64`; the database refuses negative ones, and looks at the
offset first. -/
def page (what : String) (limit offset : Int) (rows : List JobRow) :
    Except ReadError (List JobRow) :=
  if offset < 0 then
    .error (.failed (.infrastructureError
      (what ++ ": error returned from database: OFFSET must not be negative")))
  else if limit < 0 then
    .error (.failed (.infrastructureError
      (what ++ ": error returned from database: LIMIT must not be negative")))
  else .ok ((rows.drop offset.toNat).take limit.toNat)

def allRows (limit offset : Nat) : Except ReadError (List JobRow) :=
  page "Failed to find all jobs" (asI64 limit) (asI64 offset) (newestFirst tables.jobs.rows)

/-- The jobs of the page and the number of all jobs. -/
def findAll (limit offset : Nat) : Except ReadError (List (Job serde) × Nat) := do
  let rows ← allRows tables limit offset
  let jobs ← rows.mapM (mapRowToJob serde columnsWithoutName)
  return (jobs, tables.jobs.rows.length)

/-- `->>` on a JSON object; `print` is the text of a value that is no string. -/
def textOfKey (print : Json → String) (key : String) : Json → Option String
  | .object entries =>
      match entries.lookup key with
      | none | some .null => none
      | some (.string text) => some text
      | some other => some (print other)
  | _ => none

def rowsByExecutionId (print : Json → String) (executionId : String) : List JobRow :=
  tables.jobs.rows.filter fun row =>
    row.executionContext.bind (textOfKey print "execution_id") == some executionId

def findByExecutionId (print : Json → String) (executionId : String) :
    Except ReadError (Option (Job serde)) :=
  match (rowsByExecutionId tables print executionId).head? with
  | some row => (mapRowToJob serde columnsWithoutName row).map some
  | none => .ok none

structure JobsFilter where
  state : Option JobState
  providerId : Option ProviderId
  limit : Option Nat
  offset : Option Nat

def JobsFilter.selects (filter : JobsFilter) (row : JobRow) : Bool :=
  filter.state.all (fun state => row.state == stateToString state) &&
    filter.providerId.all fun providerId => row.selectedProviderId == some providerId

/-- The offset is only added after a limit. -/
def filteredRows (filter : JobsFilter) : Except ReadError (List JobRow) :=
  let rows := newestFirst (tables.jobs.rows.filter filter.selects)
  match filter.limit with
  | none => .ok rows
  | some limit => page "Failed to find jobs" (asI64 limit) (asI64 (filter.offset.getD 0)) rows

def find (filter : JobsFilter) : Except ReadError (List (Job serde)) := do
  let rows ← filteredRows tables filter
  rows.mapM (mapRowToJob serde columnsWithoutName)

end JobRepository

end HodeiJobs.Persistence
