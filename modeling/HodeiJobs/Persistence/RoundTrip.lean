import HodeiJobs.Persistence.Agreement

/-!
# Saving a job and finding it again

`save` binds fourteen columns, and the decoder fills the four fields of the aggregate that
have no column with `None`.
-/

namespace HodeiJobs.Persistence

open HodeiJobs.Library HodeiJobs.Shared
open HodeiJobs.Sagas (Json JsonMap)
open HodeiJobs.Workers (StringMap)

variable {serde : Serde}

/-- `serde_json` reads back what it has written. -/
def ReadsBack {Value : Type} (toValue : Value → Except String Json)
    (fromValue : Json → Except String Value) (value : Value) : Prop :=
  ∃ json, toValue value = .ok json ∧ fromValue json = .ok value

/-- The values of the job that are written as JSON are read back as they were. -/
structure Job.RoundTrips (job : Job serde) : Prop where
  spec : ReadsBack serde.specToValue serde.specFromValue job.spec
  context : ∀ context, job.executionContext = some context →
    ReadsBack serde.contextToValue serde.contextFromValue context
  result : ∀ result, job.result = some result →
    ReadsBack serde.resultToValue serde.resultFromValue result
  metadata : ReadsBack serde.metadataToValue serde.metadataFromValue job.metadata

/-- The job was made from no template and has no number and no trigger. -/
def Job.Plain (job : Job serde) : Prop :=
  job.templateId = none ∧ job.templateVersion = none ∧ job.executionNumber = none ∧
    job.triggeredBy = none

/-- What is left of a job in the columns. -/
def Job.stripped (job : Job serde) : Job serde :=
  { job with
    templateId := none, templateVersion := none, executionNumber := none, triggeredBy := none }

theorem stripped_eq_iff (job : Job serde) : job.stripped = job ↔ job.Plain := by
  unfold Job.stripped Job.Plain
  obtain ⟨⟩ := job
  simp only [Job.mk.injEq, true_and]
  exact and_congr eq_comm (and_congr eq_comm (and_congr eq_comm eq_comm))

section Columns

variable {Value : Type} {toValue : Value → Except String Json}
  {fromValue : Json → Except String Value} {value : Value} (what : String)

theorem serialize_reads_back (readsBack : ReadsBack toValue fromValue value) :
    ∃ json, serialize what (toValue value) = .ok json ∧
      deserialize what (fromValue json) = .ok value ∧ fromValue json = .ok value := by
  obtain ⟨json, written, read⟩ := readsBack
  refine ⟨json, ?_, ?_, read⟩
  · rw [written]
    rfl
  · rw [read]
    rfl

theorem serialize_option_reads_back (stored : Option Value)
    (readsBack : ∀ value, stored = some value → ReadsBack toValue fromValue value) :
    ∃ json, serializeOption what toValue stored = .ok json ∧
      deserializeOption what fromValue json = .ok stored := by
  cases stored with
  | none => exact ⟨none, rfl, rfl⟩
  | some value =>
      obtain ⟨json, written, read, _⟩ := serialize_reads_back what (readsBack value rfl)
      refine ⟨some json, ?_, ?_⟩
      · rw [serializeOption, written]
        rfl
      · rw [deserializeOption, read]
        rfl

end Columns

/-- The decoder gives the job back without the four fields, and its counters through the
casts. -/
theorem row_reads_back {job : Job serde} (roundTrips : job.RoundTrips) :
    ∃ row, JobRow.ofJob job = .ok row ∧ row.id = job.id ∧
      JobRepository.mapRowToJob serde everyColumn row = .ok { job.stripped with
        attempts := asU32 (asI32 job.attempts)
        maxAttempts := asU32 (asI32 job.maxAttempts) } := by
  obtain ⟨spec, specWritten, specRead, _⟩ := serialize_reads_back "job spec" roundTrips.spec
  obtain ⟨context, contextWritten, contextRead⟩ :=
    serialize_option_reads_back "execution context" job.executionContext roundTrips.context
  obtain ⟨result, resultWritten, resultRead⟩ :=
    serialize_option_reads_back "result" job.result roundTrips.result
  obtain ⟨metadata, metadataWritten, _, metadataRead⟩ :=
    serialize_reads_back "metadata" roundTrips.metadata
  have bound : JobRow.ofJob job = .ok {
      id := job.id
      name := job.name
      spec
      state := stateToString job.state
      selectedProviderId := job.selectedProvider
      executionContext := context
      attempts := asI32 job.attempts
      maxAttempts := asI32 job.maxAttempts
      createdAt := job.createdAt
      startedAt := job.startedAt
      completedAt := job.completedAt
      result
      errorMessage := job.errorMessage
      metadata } := by
    unfold JobRow.ofJob
    rw [specWritten, contextWritten, resultWritten, metadataWritten]
    rfl
  refine ⟨_, bound, rfl, ?_⟩
  rw [JobRepository.mapRowToJob, map_row_every_column]
  simp only [specRead, contextRead, resultRead]
  simp only [bind, Except.bind, pure, Except.pure, decodedJob, metadataRead, Except.toOption,
    Option.getD_some, string_to_state_to_string]
  rfl

/-- What is found under the id of a job that was just saved. -/
theorem find_after_save {job : Job serde} (roundTrips : job.RoundTrips)
    (attempts : job.attempts < 2 ^ 32) (maxAttempts : job.maxAttempts < 2 ^ 32)
    (tables : JobTables) :
    JobRepository.findById serde (tables.save job).2 job.id = .ok (some job.stripped) := by
  obtain ⟨row, bound, sameId, read⟩ := row_reads_back roundTrips
  rw [as_u32_as_i32 attempts, as_u32_as_i32 maxAttempts] at read
  have saved : (tables.save job).2.jobs.find job.id = some row := by
    rw [JobTables.save, bound, save_row_jobs, ← sameId, Table.find_upsert_self]
  rw [JobRepository.findById, saved]
  simp only [read]
  rfl

def entryOfJson : String × Json → Except String (Σ _ : String, String)
  | (key, .string value) => .ok ⟨key, value⟩
  | _ => .error "invalid type: expected a string"

def metadataOfJson : Json → Except String StringMap
  | .object entries => (entries.mapM entryOfJson).map List.toAList
  | _ => .error "invalid type: expected a map"

def contextFields : List String :=
  ["job_id", "provider_id", "provider_execution_id", "submitted_at", "started_at",
    "completed_at", "status", "result", "metadata"]

def jsonSerde : Serde where
  Spec := Json
  Context := { entries : JsonMap // (entries.map Prod.fst).Perm contextFields }
  Result := Json
  specToValue := .ok
  specFromValue := .ok
  contextToValue context := .ok (.object context.1)
  contextFromValue
    | .object entries =>
        if keys : (entries.map Prod.fst).Perm contextFields then .ok ⟨entries, keys⟩
        else .error "missing field"
    | _ => .error "invalid type: expected struct ExecutionContext"
  resultToValue := .ok
  resultFromValue := .ok
  metadataToValue map := .ok (.object (map.entries.map fun entry => (entry.1, .string entry.2)))
  metadataFromValue := metadataOfJson
  contextKeys context _ written := ⟨context.1, (Except.ok.inj written).symm, context.2⟩

def queuedJob : Job jsonSerde where
  id := ⟨1⟩
  name := "build"
  spec := .object [("timeout_ms", .integer 60000)]
  state := .pending
  selectedProvider := none
  executionContext := none
  attempts := 0
  maxAttempts := 3
  createdAt := 1
  startedAt := none
  completedAt := none
  result := none
  errorMessage := none
  metadata := ∅
  templateId := none
  templateVersion := none
  executionNumber := none
  triggeredBy := none

def executedJob : Job jsonSerde :=
  { queuedJob with
    id := ⟨2⟩
    name := "release"
    state := .failed
    selectedProvider := some ⟨7⟩
    executionContext := some ⟨[("completed_at", .null), ("job_id", .string "2"),
      ("metadata", .object []), ("provider_execution_id", .string "container-1"),
      ("provider_id", .string "7"), ("result", .null), ("started_at", .null),
      ("status", .string "Submitted"), ("submitted_at", .string "2026-02-02T00:00:00Z")],
      by decide⟩
    attempts := 1
    startedAt := some 2
    completedAt := some 3
    result := some (.object [("Failed", .object [("error_message", .string "no space"),
    ("error_output", .string ""), ("exit_code", .integer 1)])])
    errorMessage := some "no space"
    metadata := [⟨"team", "data"⟩, ⟨"cost-center", "42"⟩].toAList }

theorem executed_job_round_trips : executedJob.RoundTrips where
  spec := ⟨_, rfl, rfl⟩
  context context _ := ⟨.object context.1, rfl, dif_pos context.2⟩
  result result _ := ⟨result, rfl, rfl⟩
  metadata := ⟨_, rfl, rfl⟩

/-- A job of a template, in its first run. -/
def templateJob : Job jsonSerde :=
  { executedJob with
    templateId := some 9
    templateVersion := some 1
    executionNumber := some 1
    triggeredBy := some .manual }

end HodeiJobs.Persistence
