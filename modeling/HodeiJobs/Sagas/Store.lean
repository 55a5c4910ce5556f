import Mathlib.Data.List.Sort
import HodeiJobs.Sagas.Types

/-!
# The saga tables

Rows of `sagas` and `saga_steps`, and the SQL statements of
`PostgresSagaRepository` as functions on them. A state column holds text, as
in the database. The `CREATE TABLE` of these tables is not in the repository,
so the column defaults it decides are the `Schema`, a parameter of every store.
-/

namespace HodeiJobs.Sagas

/-- What the table definitions decide. A column that an `INSERT` leaves out
takes its default, `none` being `NULL`. -/
structure Schema where
  version : Option Int64
  errorMessage : Option String
  traceParent : Option String

structure SagaDbRow where
  id : Uuid
  sagaType : String
  state : String
  correlationId : Option String
  actor : Option String
  startedAt : DateTime
  completedAt : Option DateTime
  errorMessage : Option String
  metadata : Json
  version : Option Int64
  traceParent : Option String
  createdAt : DateTime
  updatedAt : DateTime

structure SagaStepDbRow where
  id : Uuid
  sagaId : Uuid
  stepName : String
  stepOrder : Int
  state : String
  inputData : Option Json
  outputData : Option Json
  compensationData : Option Json
  startedAt : Option DateTime
  completedAt : Option DateTime
  errorMessage : Option String
  retryCount : Int
  createdAt : DateTime
  updatedAt : DateTime

/-- Both tables. `id` is the primary key of each, so no two rows share one. -/
structure SagaStore where
  schema : Schema
  sagas : List SagaDbRow
  steps : List SagaStepDbRow
  sagasKey : (sagas.map SagaDbRow.id).Nodup
  stepsKey : (steps.map SagaStepDbRow.id).Nodup

/-! ## Reading rows -/

/-- The `saga_type` match of `From<SagaDbRow> for SagaContext`. -/
def sagaTypeOfColumn (text : String) : SagaType :=
  match text with
  | "PROVISIONING" => .provisioning
  | "EXECUTION" => .execution
  | "RECOVERY" => .recovery
  | _ => .provisioning

/-- `FromRow` reads `version` as an `i64`, so a `NULL` there is an error. -/
def SagaDbRow.readVersion (row : SagaDbRow) : Except String Int64 :=
  match row.version with
  | some version => .ok version
  | none => .error
      "error occurred while decoding column \"version\": unexpected null; try decoding as an `Option`"

/-- `From<SagaDbRow> for SagaContext`. -/
def SagaDbRow.toContext (row : SagaDbRow) (version : Int64) : SagaContext :=
  let sagaState := SagaState.ofColumn row.state
  SagaContext.fromPersistence ⟨row.id⟩ (sagaTypeOfColumn row.sagaType) row.correlationId
    row.actor row.startedAt 0 (sagaState == .compensating)
    ((JsonMap.fromValue row.metadata).getD []) row.errorMessage sagaState
    version.toUInt64 row.traceParent

/-- `From<SagaStepDbRow> for SagaStepData`. -/
def SagaStepDbRow.toData (row : SagaStepDbRow) : SagaStepData where
  stepId := ⟨row.id⟩
  sagaId := ⟨row.sagaId⟩
  stepName := row.stepName
  stepOrder := row.stepOrder
  state := SagaStepState.ofColumn row.state
  inputData := row.inputData
  outputData := row.outputData
  compensationData := row.compensationData
  startedAt := row.startedAt
  completedAt := row.completedAt
  errorMessage := row.errorMessage
  retryCount := row.retryCount
  createdAt := row.createdAt
  updatedAt := row.updatedAt

namespace SagaStore

def findRow (store : SagaStore) (sagaId : SagaId) : Option SagaDbRow :=
  store.sagas.find? fun row => row.id == sagaId.uuid

def findById (store : SagaStore) (sagaId : SagaId) : Except DomainError (Option SagaContext) :=
  match store.findRow sagaId with
  | none => .ok none
  | some row =>
      match row.readVersion with
      | .ok version => .ok (some (row.toContext version))
      | .error error => .error (.ofSqlx error)

/-- `SELECT … WHERE saga_id = $1 ORDER BY step_order ASC`. -/
def findStepsBySagaId (store : SagaStore) (sagaId : SagaId) : List SagaStepData :=
  ((store.steps.filter fun row => row.sagaId == sagaId.uuid).insertionSort
    fun left right => left.stepOrder ≤ right.stepOrder).map SagaStepDbRow.toData

theorem mem_find_steps_by_saga_id (store : SagaStore) (sagaId : SagaId) (data : SagaStepData) :
    data ∈ store.findStepsBySagaId sagaId ↔
      ∃ row ∈ store.steps, row.sagaId = sagaId.uuid ∧ row.toData = data := by
  simp [findStepsBySagaId, List.mem_insertionSort, and_assoc]

end SagaStore

/-! ## Writing rows -/

/-- A statement that runs inside a transaction. -/
inductive Statement where
  | saveWithTx (context : SagaContext)
  | updateStateWithTx (sagaId : SagaId) (state : SagaState) (errorMessage : Option String)
  | saveStepWithTx (step : SagaStepData)
  | updateStepStateWithTx (stepId : SagaStepId) (state : SagaStepState) (output : Option Json)

/-- The row that `save_with_tx` inserts when no row has its id. -/
def SagaDbRow.ofContext (schema : Schema) (now : DateTime) (context : SagaContext) :
    SagaDbRow where
  id := context.sagaId.uuid
  sagaType := context.sagaType.asStr
  state := context.state.display
  correlationId := context.correlationId
  actor := context.actor
  startedAt := context.startedAt
  completedAt := none
  errorMessage := schema.errorMessage
  metadata := context.metadata.toValue
  version := schema.version
  traceParent := schema.traceParent
  createdAt := now
  updatedAt := now

def SagaStepDbRow.ofData (now : DateTime) (step : SagaStepData) : SagaStepDbRow where
  id := step.stepId.uuid
  sagaId := step.sagaId.uuid
  stepName := step.stepName
  stepOrder := step.stepOrder
  state := step.state.display
  inputData := step.inputData
  outputData := step.outputData
  compensationData := step.compensationData
  startedAt := step.startedAt
  completedAt := step.completedAt
  errorMessage := step.errorMessage
  retryCount := step.retryCount
  createdAt := now
  updatedAt := now

namespace SagaStore

/-- `UPDATE sagas SET … WHERE …`. No statement assigns the id. -/
def updateSagas (store : SagaStore) (selected : SagaDbRow → Bool)
    (change : SagaDbRow → SagaDbRow) (keepsId : ∀ row, (change row).id = row.id) : SagaStore :=
  { store with
    sagas := store.sagas.map fun row => if selected row then change row else row
    sagasKey := by
      have sameIds : (SagaDbRow.id ∘ fun row => if selected row then change row else row) =
          SagaDbRow.id := by
        funext row
        simp only [Function.comp_apply]
        split_ifs
        · exact keepsId row
        · rfl
      rw [List.map_map, sameIds]
      exact store.sagasKey }

/-- `UPDATE saga_steps SET … WHERE id = $1`. -/
def updateSteps (store : SagaStore) (id : Uuid) (change : SagaStepDbRow → SagaStepDbRow)
    (keepsId : ∀ row, (change row).id = row.id) : SagaStore :=
  { store with
    steps := store.steps.map fun row => if row.id = id then change row else row
    stepsKey := by
      have sameIds : (SagaStepDbRow.id ∘ fun row => if row.id = id then change row else row) =
          SagaStepDbRow.id := by
        funext row
        simp only [Function.comp_apply]
        split_ifs
        · exact keepsId row
        · rfl
      rw [List.map_map, sameIds]
      exact store.stepsKey }

def insertSaga (store : SagaStore) (row : SagaDbRow)
    (absent : row.id ∉ store.sagas.map SagaDbRow.id) : SagaStore :=
  { store with
    sagas := store.sagas ++ [row]
    sagasKey := by
      rw [List.map_append]
      exact List.nodup_append.mpr ⟨store.sagasKey, List.nodup_singleton _, by
        intro id member other single
        simp only [List.map_cons, List.map_nil, List.mem_singleton] at single
        rintro rfl
        exact absent (single ▸ member)⟩ }

def insertStep (store : SagaStore) (row : SagaStepDbRow)
    (absent : row.id ∉ store.steps.map SagaStepDbRow.id) : SagaStore :=
  { store with
    steps := store.steps ++ [row]
    stepsKey := by
      rw [List.map_append]
      exact List.nodup_append.mpr ⟨store.stepsKey, List.nodup_singleton _, by
        intro id member other single
        simp only [List.map_cons, List.map_nil, List.mem_singleton] at single
        rintro rfl
        exact absent (single ▸ member)⟩ }

/-- `INSERT INTO sagas … ON CONFLICT (id) DO UPDATE`: the conflict branch
rewrites the state and the metadata only. -/
def save (store : SagaStore) (now : DateTime) (context : SagaContext) : SagaStore :=
  if absent : context.sagaId.uuid ∉ store.sagas.map SagaDbRow.id then
    store.insertSaga (SagaDbRow.ofContext store.schema now context) absent
  else
    store.updateSagas (fun row => row.id == context.sagaId.uuid)
      (fun row =>
        { row with
          state := context.state.display
          metadata := context.metadata.toValue
          updatedAt := now })
      (fun _ => rfl)

def updateState (store : SagaStore) (now : DateTime) (sagaId : SagaId) (state : SagaState)
    (errorMessage : Option String) : SagaStore :=
  store.updateSagas (fun row => row.id == sagaId.uuid)
    (fun row =>
      { row with
        state := state.display
        completedAt := (if state.isTerminal then some now else none).or row.completedAt
        errorMessage := errorMessage.or row.errorMessage
        updatedAt := now })
    (fun _ => rfl)

def markCompensating (store : SagaStore) (now : DateTime) (sagaId : SagaId) : SagaStore :=
  store.updateSagas (fun row => row.id == sagaId.uuid)
    (fun row => { row with state := "COMPENSATING", updatedAt := now }) (fun _ => rfl)

def saveStep (store : SagaStore) (now : DateTime) (step : SagaStepData) : SagaStore :=
  if absent : step.stepId.uuid ∉ store.steps.map SagaStepDbRow.id then
    store.insertStep (SagaStepDbRow.ofData now step) absent
  else
    store.updateSteps step.stepId.uuid
      (fun row =>
        { row with
          state := step.state.display
          outputData := step.outputData
          compensationData := step.compensationData
          completedAt := step.completedAt
          errorMessage := step.errorMessage
          updatedAt := now })
      (fun _ => rfl)

/-- The columns that `update_step_state_with_tx` assigns. -/
def stepStateChange (now : DateTime) (state : SagaStepState) (output : Option Json)
    (row : SagaStepDbRow) : SagaStepDbRow :=
  { row with
    state := state.display
    outputData := output.or row.outputData
    startedAt := (if state = .inProgress then some now else none).or row.startedAt
    completedAt := (if state = .completed then some now else none).or row.completedAt
    updatedAt := now }

def updateStepState (store : SagaStore) (now : DateTime) (stepId : SagaStepId)
    (state : SagaStepState) (output : Option Json) : SagaStore :=
  store.updateSteps stepId.uuid (stepStateChange now state output) (fun _ => rfl)

/-- One statement of a transaction, as it takes effect at the commit. -/
def apply (now : DateTime) (store : SagaStore) : Statement → SagaStore
  | .saveWithTx context => store.save now context
  | .updateStateWithTx sagaId state errorMessage =>
      store.updateState now sagaId state errorMessage
  | .saveStepWithTx step => store.saveStep now step
  | .updateStepStateWithTx stepId state output => store.updateStepState now stepId state output

/-- Commit: every statement of the transaction, in order. -/
def commit (now : DateTime) (store : SagaStore) (statements : List Statement) : SagaStore :=
  statements.foldl (apply now) store

/-! ## What the statements leave behind -/

/-- The state a reader of the saga row sees. -/
def persistedState (store : SagaStore) (sagaId : SagaId) : Option SagaState :=
  (store.findRow sagaId).map fun row => SagaState.ofColumn row.state

theorem find_row_update_sagas (store : SagaStore) (selected : SagaDbRow → Bool)
    (change : SagaDbRow → SagaDbRow) (keepsId : ∀ row, (change row).id = row.id)
    (sagaId : SagaId) :
    (store.updateSagas selected change keepsId).findRow sagaId =
      (store.findRow sagaId).map fun row => if selected row then change row else row := by
  unfold findRow updateSagas
  rw [List.find?_map]
  congr 2
  funext row
  simp only [Function.comp_apply]
  split_ifs
  · rw [keepsId]
  · rfl

theorem find_row_some_id {store : SagaStore} {sagaId : SagaId} {row : SagaDbRow}
    (found : store.findRow sagaId = some row) : row.id = sagaId.uuid := by
  simpa using List.find?_some found

theorem find_row_none_iff (store : SagaStore) (sagaId : SagaId) :
    store.findRow sagaId = none ↔ sagaId.uuid ∉ store.sagas.map SagaDbRow.id := by
  simp [findRow, List.find?_eq_none]

/-- `UPDATE sagas SET state = … WHERE id = …` changes the state of that row
only. -/
theorem persisted_state_update_sagas (store : SagaStore) (updated : SagaId)
    (change : SagaDbRow → SagaDbRow) (keepsId : ∀ row, (change row).id = row.id)
    (sagaId : SagaId) (state : SagaState)
    (writes : ∀ row, SagaState.ofColumn (change row).state = state) :
    (store.updateSagas (fun row => row.id == updated.uuid) change keepsId).persistedState sagaId =
      if sagaId = updated then (store.persistedState sagaId).map fun _ => state
      else store.persistedState sagaId := by
  unfold persistedState
  rw [find_row_update_sagas]
  cases found : store.findRow sagaId with
  | none => simp
  | some row =>
      have key := find_row_some_id found
      by_cases same : sagaId = updated
      · subst same
        simp [key, writes]
      · have different : ¬row.id = updated.uuid := by
          rw [key]
          exact SagaId.uuid_ne same
        simp [same, different]

@[simp] theorem save_steps (store : SagaStore) (now : DateTime) (context : SagaContext) :
    (store.save now context).steps = store.steps := by
  unfold save
  split_ifs <;> rfl

@[simp] theorem save_step_sagas (store : SagaStore) (now : DateTime) (step : SagaStepData) :
    (store.saveStep now step).sagas = store.sagas := by
  unfold saveStep
  split_ifs <;> rfl

@[simp] theorem update_step_state_sagas (store : SagaStore) (now : DateTime)
    (stepId : SagaStepId) (state : SagaStepState) (output : Option Json) :
    (store.updateStepState now stepId state output).sagas = store.sagas := rfl

/-- Saving writes the context's state into its own row and no other. -/
theorem persisted_state_save (store : SagaStore) (now : DateTime) (context : SagaContext)
    (sagaId : SagaId) :
    (store.save now context).persistedState sagaId =
      if sagaId = context.sagaId then some context.state else store.persistedState sagaId := by
  unfold save
  by_cases absent : context.sagaId.uuid ∉ store.sagas.map SagaDbRow.id
  · rw [dif_pos absent]
    have missing := (find_row_none_iff store context.sagaId).mpr absent
    unfold findRow at missing
    by_cases same : sagaId = context.sagaId
    · subst same
      simp [persistedState, findRow, insertSaga, List.find?_append, missing, SagaDbRow.ofContext]
    · have different := SagaId.uuid_ne (Ne.symm same)
      simp [persistedState, findRow, insertSaga, List.find?_append, SagaDbRow.ofContext, same,
        different]
  · rw [dif_neg absent, persisted_state_update_sagas _ _ _ _ _ context.state (by simp)]
    by_cases same : sagaId = context.sagaId
    · subst same
      have present : store.findRow context.sagaId ≠ none := by
        intro missing
        exact absent ((find_row_none_iff store context.sagaId).mp missing)
      obtain ⟨row, found⟩ := Option.ne_none_iff_exists'.mp present
      simp [persistedState, found]
    · simp [same]

/-- An update writes its state if the row is there. -/
theorem persisted_state_update_state (store : SagaStore) (now : DateTime) (updated : SagaId)
    (state : SagaState) (errorMessage : Option String) (sagaId : SagaId) :
    (store.updateState now updated state errorMessage).persistedState sagaId =
      if sagaId = updated then (store.persistedState sagaId).map fun _ => state
      else store.persistedState sagaId := by
  apply persisted_state_update_sagas
  intro row
  exact SagaState.of_column_display state

/-- A saga row that is there has the state the update wrote. -/
theorem persisted_state_updated {store : SagaStore} {sagaId : SagaId}
    (present : store.findRow sagaId ≠ none) (now : DateTime) (state : SagaState)
    (message : Option String) :
    (store.updateState now sagaId state message).persistedState sagaId = some state := by
  obtain ⟨row, found⟩ := Option.ne_none_iff_exists'.mp present
  rw [persisted_state_update_state, if_pos rfl, persistedState, found]
  rfl

theorem persisted_state_mark_compensating (store : SagaStore) (now : DateTime)
    (updated sagaId : SagaId) :
    (store.markCompensating now updated).persistedState sagaId =
      if sagaId = updated then (store.persistedState sagaId).map fun _ => .compensating
      else store.persistedState sagaId := by
  apply persisted_state_update_sagas
  intro row
  rfl

theorem persisted_state_save_step (store : SagaStore) (now : DateTime) (step : SagaStepData)
    (sagaId : SagaId) :
    (store.saveStep now step).persistedState sagaId = store.persistedState sagaId := by
  simp [persistedState, findRow]

theorem persisted_state_update_step_state (store : SagaStore) (now : DateTime)
    (stepId : SagaStepId) (state : SagaStepState) (output : Option Json) (sagaId : SagaId) :
    (store.updateStepState now stepId state output).persistedState sagaId =
      store.persistedState sagaId := by
  simp [persistedState, findRow]

/-- `UPDATE saga_steps … WHERE id = …` on an id that no row has. -/
theorem update_step_state_absent (store : SagaStore) (now : DateTime) (stepId : SagaStepId)
    (state : SagaStepState) (output : Option Json)
    (absent : stepId.uuid ∉ store.steps.map SagaStepDbRow.id) :
    (store.updateStepState now stepId state output).steps = store.steps := by
  have untouched : ∀ row ∈ store.steps,
      (if row.id = stepId.uuid then stepStateChange now state output row else row) = row := by
    intro row member
    have different : row.id ≠ stepId.uuid := by
      intro same
      exact absent (List.mem_map.mpr ⟨row, member, same⟩)
    rw [if_neg different]
  exact (List.map_congr_left untouched).trans (List.map_id' _)

/-- A step row that is inserted and then updated under its own fresh id. -/
theorem update_step_state_last (store : SagaStore) (now : DateTime) (stepId : SagaStepId)
    (state : SagaStepState) (output : Option Json) (rows : List SagaStepDbRow)
    (row : SagaStepDbRow) (key : row.id = stepId.uuid)
    (absent : stepId.uuid ∉ rows.map SagaStepDbRow.id) (last : store.steps = rows ++ [row]) :
    (store.updateStepState now stepId state output).steps =
      rows ++ [stepStateChange now state output row] := by
  have untouched : ∀ earlier ∈ rows,
      (if earlier.id = stepId.uuid then stepStateChange now state output earlier else earlier) =
        earlier := by
    intro earlier member
    have different : earlier.id ≠ stepId.uuid := by
      intro same
      exact absent (List.mem_map.mpr ⟨earlier, member, same⟩)
    rw [if_neg different]
  show store.steps.map _ = _
  rw [last, List.map_append, List.map_congr_left untouched, List.map_id', List.map_singleton,
    if_pos key]

theorem save_step_absent (store : SagaStore) (now : DateTime) (step : SagaStepData)
    (absent : step.stepId.uuid ∉ store.steps.map SagaStepDbRow.id) :
    (store.saveStep now step).steps = store.steps ++ [SagaStepDbRow.ofData now step] := by
  unfold saveStep
  rw [dif_pos absent]
  rfl

/-- No statement deletes a saga row. -/
theorem find_row_apply (store : SagaStore) (now : DateTime) (statement : Statement)
    (sagaId : SagaId) (present : store.findRow sagaId ≠ none) :
    (store.apply now statement).findRow sagaId ≠ none := by
  have kept : ∀ other : SagaStore,
      (store.persistedState sagaId ≠ none → other.persistedState sagaId ≠ none) →
        other.findRow sagaId ≠ none := by
    intro other step missing
    apply step
    · simpa [persistedState] using present
    · simp [persistedState, missing]
  apply kept
  intro stored
  cases statement with
  | saveWithTx context =>
      simp only [apply, persisted_state_save]
      split_ifs
      · simp
      · exact stored
  | updateStateWithTx updated state message =>
      simp only [apply, persisted_state_update_state]
      split_ifs
      · simpa using stored
      · exact stored
  | saveStepWithTx step =>
      simpa only [apply, persisted_state_save_step] using stored
  | updateStepStateWithTx stepId state output =>
      simpa only [apply, persisted_state_update_step_state] using stored

theorem find_row_commit (store : SagaStore) (now : DateTime) (statements : List Statement)
    (sagaId : SagaId) (present : store.findRow sagaId ≠ none) :
    (store.commit now statements).findRow sagaId ≠ none := by
  induction statements generalizing store with
  | nil => exact present
  | cons statement rest ih => exact ih _ (find_row_apply store now statement sagaId present)

end SagaStore

end HodeiJobs.Sagas
