import Mathlib.Algebra.Group.Int.Defs
import HodeiJobs.Dispatch.Dispatchers
import HodeiJobs.Execution.Outcome
import HodeiJobs.Sagas.PostgresOrchestrator

/-!
# Rebuilding a saga from its row

`PostgresSagaOrchestrator::execute` makes a saga from a context that was read
back. It reads some keys of the metadata and fills in the rest: fresh ids, a
fixed worker spec, default texts. Reading the row already forgets the saga type
of cancellation and timeout sagas.
-/

namespace HodeiJobs.Dispatch

open HodeiJobs.Execution (JobId WorkerId RustText ExecutionSaga sampleText)
open HodeiJobs.Sagas

/-! ## The rebuild -/

/-- `metadata.get(key).and_then(|v| v.as_str())`. -/
def metadataText (context : SagaContext) (key : String) : Option String :=
  match context.getMetadata key with
  | some (.string value) => some value
  | _ => none

/-- `metadata.get(key).and_then(|v| v.as_i64())`. -/
def metadataInt (context : SagaContext) (key : String) : Option Int :=
  match context.getMetadata key with
  | some (.integer value) => if -2 ^ 63 ≤ value ∧ value < 2 ^ 63 then some value else none
  | _ => none

/-- An id from the metadata: the text is parsed if there is one, and a fresh id
stands in for a missing text as for one that does not parse. -/
def metadataId (text : RustText) (context : SagaContext) (key : String) (newV4 : Uuid) : Uuid :=
  let value := (metadataText context key).getD ""
  if value ≠ "" then (text.parse value).getD newV4 else newV4

/-- `PostgresSagaOrchestrator::execute` up to its call of `execute_saga`. `used`
are the ids in use when it runs. -/
def rebuild {Settings : Type} (text : RustText) (uuids : UuidSource) (used : List Uuid)
    (defaultSettings : Settings) (context : SagaContext) : AnySaga Settings :=
  let first := uuids.newV4 used
  let second := uuids.newV4 (first :: used)
  let third := uuids.newV4 (second :: first :: used)
  match context.sagaType with
  | .provisioning =>
      .provisioning
        ⟨⟨⟨second⟩, "hodei-jobs-worker:latest", "http://localhost:50051", defaultSettings⟩,
          ⟨metadataId text context "provider_id" first⟩, some ⟨third⟩⟩
  | .execution => .execution ⟨⟨metadataId text context "job_id" first⟩, none⟩
  | .recovery => .recovery ⟨⟨first⟩, ⟨second⟩, none⟩
  | .cancellation =>
      .cancellation ⟨⟨metadataId text context "job_id" first⟩,
        (metadataText context "cancellation_reason").getD "cancelled"⟩
  | .timeout =>
      .timeout ⟨⟨metadataId text context "job_id" first⟩,
        .fromSecs (((metadataInt context "timeout_seconds").getD 300 % 2 ^ 64).toNat),
        (metadataText context "timeout_reason").getD "timeout"⟩
  | .cleanup => .cleanup

/-! ## Rows -/

/-- The row still holds what the dispatcher wrote. Steps may have added to its
metadata, and its state may be any. -/
structure HoldsWritten (written : SagaContext) (row : SagaDbRow) : Prop where
  sagaType : row.sagaType = written.sagaType.asStr
  metadata : ∃ stored : JsonMap, row.metadata = stored.toValue ∧
    ∀ key value, written.metadata.get key = some value → stored.get key = some value

/-- The two ways in which a row becomes a context again: `find_by_id` and
`claim_pending_sagas`. -/
def ReadBack (row : SagaDbRow) (context : SagaContext) : Prop :=
  ∃ version, row.readVersion = .ok version ∧
    (context = row.toContext version ∨ context = row.claimedContext version)

/-- The row that the first save inserts. -/
theorem holds_written_of_context (schema : Schema) (now : DateTime) (written : SagaContext) :
    HoldsWritten written (SagaDbRow.ofContext schema now written) :=
  ⟨rfl, written.metadata, rfl, fun _ _ held => held⟩

section ReadBack

variable {written context : SagaContext} {row : SagaDbRow}

theorem read_back_metadata (holds : HoldsWritten written row) (read : ReadBack row context)
    {key : String} {value : Json} (held : written.getMetadata key = some value) :
    context.getMetadata key = some value := by
  obtain ⟨stored, same, kept⟩ := holds.metadata
  obtain ⟨version, -, rfl | rfl⟩ := read
  · show ((JsonMap.fromValue row.metadata).getD []).get key = some value
    rw [same, JsonMap.from_value_to_value]
    exact kept key value held
  · show ((JsonMap.fromValue row.metadata).getD []).get key = some value
    rw [same, JsonMap.from_value_to_value]
    exact kept key value held

theorem read_back_saga_type (holds : HoldsWritten written row) (read : ReadBack row context) :
    context.sagaType = sagaTypeOfColumn written.sagaType.asStr ∨
      context.sagaType = claimedSagaType written.sagaType.asStr := by
  rw [← holds.sagaType]
  obtain ⟨version, -, rfl | rfl⟩ := read
  · exact .inl rfl
  · exact .inr rfl

/-- Three saga types survive the way through the row. -/
theorem read_back_known_type (holds : HoldsWritten written row) (read : ReadBack row context)
    {sagaType : SagaType} (same : written.sagaType = sagaType)
    (known : sagaType ∈ [SagaType.provisioning, .execution, .recovery]) :
    context.sagaType = sagaType := by
  have readable : ∀ sagaType ∈ [SagaType.provisioning, .execution, .recovery],
      sagaTypeOfColumn sagaType.asStr = sagaType ∧ claimedSagaType sagaType.asStr = sagaType := by
    decide
  rcases read_back_saga_type holds read with found | claimed
  · rw [found, same, (readable sagaType known).1]
  · rw [claimed, same, (readable sagaType known).2]

/-- The others come back as a provisioning or as an execution saga. -/
theorem read_back_forgotten_type (holds : HoldsWritten written row) (read : ReadBack row context)
    {sagaType : SagaType} (same : written.sagaType = sagaType)
    (forgotten : sagaType ∈ [SagaType.cancellation, .timeout]) :
    context.sagaType = .provisioning ∨ context.sagaType = .execution := by
  have unreadable : ∀ sagaType ∈ [SagaType.cancellation, .timeout],
      sagaTypeOfColumn sagaType.asStr = .provisioning ∧
        claimedSagaType sagaType.asStr = .execution := by
    decide
  rcases read_back_saga_type holds read with found | claimed
  · left
    rw [found, same, (unreadable sagaType forgotten).1]
  · right
    rw [claimed, same, (unreadable sagaType forgotten).2]

end ReadBack

/-! ## What the dispatchers wrote -/

theorem context_saga_type {Settings : Type} (text : RustText) (sagaId : SagaId) (now : DateTime)
    (dispatch : DispatcherCall Settings) :
    (dispatch.context text sagaId now).sagaType = dispatch.sagaType := by
  have kept : ∀ (entries : List (String × String)) (context : SagaContext),
      (entries.foldl (fun context entry => context.setMetadata entry.1 (.string entry.2))
        context).sagaType = context.sagaType := by
    intro entries
    induction entries with
    | nil => exact fun _ => rfl
    | cons entry rest ih => exact fun context => ih (context.setMetadata entry.1 (.string entry.2))
  exact kept _ _

theorem execution_context_job_id {Settings : Type} (text : RustText) (sagaId : SagaId)
    (now : DateTime) (jobId : JobId) (workerId : WorkerId) :
    ((DispatcherCall.execution jobId workerId : DispatcherCall Settings).context text sagaId
      now).getMetadata "job_id" = some (.string (text.display jobId.uuid)) := rfl

/-- A text that was written from an id gives that id back. -/
theorem metadata_id_of_display (text : RustText) (empty : text.parse "" = none)
    {context : SagaContext} {key : String} {id : Uuid}
    (held : context.getMetadata key = some (.string (text.display id))) (newV4 : Uuid) :
    metadataId text context key newV4 = id := by
  have written : text.display id ≠ "" := by
    intro same
    have parsed := text.parse_display id
    rw [same, empty] at parsed
    cases parsed
  have value : metadataText context key = some (text.display id) := by
    unfold metadataText
    rw [held]
  unfold metadataId
  simp only [value, Option.getD_some]
  rw [if_pos written, text.parse_display, Option.getD_some]

section Rebuild

variable {Settings : Type} (text : RustText) (uuids : UuidSource) {used : List Uuid}
  (defaultSettings : Settings) {context : SagaContext}

/-- A rebuilt provisioning saga is for a job that did not exist before. -/
theorem rebuild_provisioning_ne (known : context.sagaType = .provisioning)
    (saga : ProvisioningSaga Settings) (inUse : ∀ jobId ∈ saga.jobId, jobId.uuid ∈ used) :
    rebuild text uuids used defaultSettings context ≠ .provisioning saga := by
  unfold rebuild
  rw [known]
  intro same
  have fresh := uuids.fresh (uuids.newV4 (uuids.newV4 used :: used) :: uuids.newV4 used :: used)
  have rebuilt := AnySaga.provisioning.inj same
  have present := inUse _ (congrArg ProvisioningSaga.jobId rebuilt).symm
  exact fresh (List.mem_cons_of_mem _ (List.mem_cons_of_mem _ present))

theorem rebuild_recovery_ne (known : context.sagaType = .recovery) (saga : RecoverySaga)
    (inUse : saga.jobId.uuid ∈ used) :
    rebuild text uuids used defaultSettings context ≠ .recovery saga := by
  unfold rebuild
  rw [known]
  intro same
  have rebuilt := congrArg RecoverySaga.jobId (AnySaga.recovery.inj same)
  have sameId : uuids.newV4 used = saga.jobId.uuid := congrArg JobId.uuid rebuilt
  rw [← sameId] at inUse
  exact uuids.fresh used inUse

theorem rebuild_execution_ne (known : context.sagaType = .execution) (jobId : JobId)
    (workerId : WorkerId) :
    rebuild text uuids used defaultSettings context ≠
      .execution (ExecutionSaga.withWorker jobId workerId) := by
  unfold rebuild
  rw [known]
  intro same
  cases congrArg ExecutionSaga.workerId (AnySaga.execution.inj same)

/-- A row whose type was forgotten is rebuilt as another kind of saga. -/
theorem rebuild_forgotten_ne
    (forgotten : context.sagaType = .provisioning ∨ context.sagaType = .execution) :
    (∀ saga, rebuild text uuids used defaultSettings context ≠ .cancellation saga) ∧
      ∀ saga, rebuild text uuids used defaultSettings context ≠ .timeout saga := by
  unfold rebuild
  rcases forgotten with known | known
  · rw [known]
    constructor
    · intro saga same
      cases same
    · intro saga same
      cases same
  · rw [known]
    constructor
    · intro saga same
      cases same
    · intro saga same
      cases same

theorem rebuild_execution_eq (empty : text.parse "" = none)
    (known : context.sagaType = .execution) {jobId : JobId}
    (held : context.getMetadata "job_id" = some (.string (text.display jobId.uuid))) :
    rebuild text uuids used defaultSettings context = .execution ⟨jobId, none⟩ := by
  unfold rebuild
  rw [known]
  simp only [metadata_id_of_display text empty held]

/-- The saga that is rebuilt from a row is the one its dispatcher started exactly
if the dispatcher started an execution saga without a worker. -/
theorem rebuild_read_back_iff (empty : text.parse "" = none) (dispatch : DispatcherCall Settings)
    (sagaId : SagaId) (now : DateTime) {row : SagaDbRow}
    (holds : HoldsWritten (dispatch.context text sagaId now) row) (read : ReadBack row context)
    (inUse : ∀ id ∈ dispatch.ids, id ∈ used) :
    rebuild text uuids used defaultSettings context = dispatch.saga text ↔
      ∃ jobId workerId, dispatch = .execution jobId workerId := by
  have written := context_saga_type text sagaId now dispatch
  have never : rebuild text uuids used defaultSettings context ≠ dispatch.saga text →
      (∀ jobId workerId, dispatch ≠ .execution jobId workerId) →
      (rebuild text uuids used defaultSettings context = dispatch.saga text ↔
        ∃ jobId workerId, dispatch = .execution jobId workerId) := by
    intro differs other
    apply iff_of_false differs
    rintro ⟨jobId, workerId, same⟩
    exact other jobId workerId same
  have recovered : ∀ saga : RecoverySaga, dispatch.sagaType = .recovery →
      dispatch.saga text = .recovery saga → saga.jobId.uuid ∈ dispatch.ids →
      rebuild text uuids used defaultSettings context ≠ dispatch.saga text := by
    intro saga sagaType started known
    rw [started]
    exact rebuild_recovery_ne text uuids defaultSettings
      (read_back_known_type holds read (written.trans sagaType) (by decide)) saga (inUse _ known)
  cases dispatch with
  | execution jobId workerId =>
      apply iff_of_true
      · exact rebuild_execution_eq text uuids defaultSettings empty
          (read_back_known_type holds read written (by decide))
          (read_back_metadata holds read
            (execution_context_job_id text sagaId now jobId workerId))
      · exact ⟨jobId, workerId, rfl⟩
  | dynExecution jobId workerId =>
      refine never ?_ (fun _ _ same => by cases same)
      exact rebuild_execution_ne text uuids defaultSettings
        (read_back_known_type holds read written (by decide)) jobId workerId
  | executionConsumer jobId workerId =>
      refine never ?_ (fun _ _ same => by cases same)
      exact rebuild_execution_ne text uuids defaultSettings
        (read_back_known_type holds read written (by decide)) jobId workerId
  | provisioning providerId spec jobId generated =>
      refine never ?_ (fun _ _ same => by cases same)
      apply rebuild_provisioning_ne text uuids defaultSettings
        (read_back_known_type holds read written (by decide))
      rintro known member
      cases Option.mem_some_iff.mp member
      exact inUse _ (List.mem_cons_of_mem _ List.mem_cons_self)
  | recovery jobId failedWorkerId targetProviderId =>
      exact never (recovered _ rfl rfl List.mem_cons_self) (fun _ _ same => by cases same)
  | ephemeralTerminating workerId providerId jobId generatedJobId dummyWorkerId =>
      exact never (recovered _ rfl rfl List.mem_cons_self) (fun _ _ same => by cases same)
  | orphanRecovery workerId providerId generatedJobId =>
      exact never (recovered _ rfl rfl List.mem_cons_self) (fun _ _ same => by cases same)
  | orphanCleanup workerId providerId generatedJobId =>
      exact never (recovered _ rfl rfl List.mem_cons_self) (fun _ _ same => by cases same)
  | workerDisconnection jobId workerId =>
      exact never (recovered _ rfl rfl List.mem_cons_self) (fun _ _ same => by cases same)
  | cancellation jobId reason =>
      refine never ?_ (fun _ _ same => by cases same)
      exact (rebuild_forgotten_ne text uuids defaultSettings
        (read_back_forgotten_type holds read written List.mem_cons_self)).1 _
  | timeoutChecker jobId timeoutDuration =>
      refine never ?_ (fun _ _ same => by cases same)
      exact (rebuild_forgotten_ne text uuids defaultSettings
        (read_back_forgotten_type holds read written
          (List.mem_cons_of_mem _ List.mem_cons_self))).2 _
  | dynTimeoutChecker jobId timeoutDuration =>
      refine never ?_ (fun _ _ same => by cases same)
      exact (rebuild_forgotten_ne text uuids defaultSettings
        (read_back_forgotten_type holds read written
          (List.mem_cons_of_mem _ List.mem_cons_self))).2 _

end Rebuild

/-! ## One row -/

/-- The row that the dispatcher's saga is first saved as. -/
def sampleRow (dispatch : DispatcherCall Unit) : SagaDbRow :=
  SagaDbRow.ofContext .plain 0 (dispatch.context sampleText ⟨3⟩ 0)

theorem sample_row_read_back (dispatch : DispatcherCall Unit) :
    ReadBack (sampleRow dispatch) ((sampleRow dispatch).toContext 0) :=
  ⟨0, rfl, .inl rfl⟩

theorem unassigned_execution_is_rebuilt :
    rebuild sampleText .successor [1, 2, 3] ()
        ((sampleRow (.execution ⟨1⟩ ⟨2⟩)).toContext 0) =
      (DispatcherCall.execution ⟨1⟩ ⟨2⟩ : DispatcherCall Unit).saga sampleText :=
  (rebuild_read_back_iff sampleText .successor () rfl (.execution ⟨1⟩ ⟨2⟩) ⟨3⟩ 0
    (holds_written_of_context .plain 0 _) (sample_row_read_back (.execution ⟨1⟩ ⟨2⟩))
    (by decide)).mpr ⟨⟨1⟩, ⟨2⟩, rfl⟩

/-- An execution saga with a worker comes back without it. -/
theorem assigned_execution_is_not_rebuilt :
    HoldsWritten
        ((DispatcherCall.dynExecution ⟨1⟩ ⟨2⟩ : DispatcherCall Unit).context sampleText ⟨3⟩ 0)
        (sampleRow (.dynExecution ⟨1⟩ ⟨2⟩)) ∧
      ReadBack (sampleRow (.dynExecution ⟨1⟩ ⟨2⟩))
        ((sampleRow (.dynExecution ⟨1⟩ ⟨2⟩)).toContext 0) ∧
      rebuild sampleText .successor [1, 2, 3] ()
          ((sampleRow (.dynExecution ⟨1⟩ ⟨2⟩)).toContext 0) = .execution ⟨⟨1⟩, none⟩ ∧
      rebuild sampleText .successor [1, 2, 3] ()
          ((sampleRow (.dynExecution ⟨1⟩ ⟨2⟩)).toContext 0) ≠
        (DispatcherCall.dynExecution ⟨1⟩ ⟨2⟩ : DispatcherCall Unit).saga sampleText := by
  refine ⟨holds_written_of_context .plain 0 _, sample_row_read_back _, rfl, ?_⟩
  intro same
  cases congrArg ExecutionSaga.workerId (AnySaga.execution.inj same)

/-- A recovery saga comes back for a job and a worker that do not exist. -/
example : rebuild sampleText .successor [1, 2, 3] ()
    ((sampleRow (.recovery ⟨1⟩ ⟨2⟩ none)).toContext 0) = .recovery ⟨⟨4⟩, ⟨5⟩, none⟩ := rfl

end HodeiJobs.Dispatch
