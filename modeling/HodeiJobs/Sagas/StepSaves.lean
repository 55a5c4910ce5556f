import HodeiJobs.Sagas.Store

/-!
# Saving a step alone and in a transaction

`save_step` is a copy of the statement of `save_step_with_tx` that binds a literal for the
state.
-/

namespace HodeiJobs.Sagas

namespace SagaStore

/-- `INSERT INTO saga_steps … ON CONFLICT (id) DO UPDATE`, with the text bound for the state. -/
def upsertStep (store : SagaStore) (now : DateTime) (step : SagaStepData) (state : String) :
    SagaStore :=
  if absent : step.stepId.uuid ∉ store.steps.map SagaStepDbRow.id then
    store.insertStep { SagaStepDbRow.ofData now step with state := state } absent
  else
    store.updateSteps step.stepId.uuid
      (fun row =>
        { row with
          state := state
          outputData := step.outputData
          compensationData := step.compensationData
          completedAt := step.completedAt
          errorMessage := step.errorMessage
          updatedAt := now })
      (fun _ => rfl)

/-- `save_step`. -/
def saveStepAlone (store : SagaStore) (now : DateTime) (step : SagaStepData) : SagaStore :=
  store.upsertStep now step "PENDING"

def findStepById (store : SagaStore) (stepId : SagaStepId) : Option SagaStepData :=
  (store.steps.find? fun row => row.id == stepId.uuid).map SagaStepDbRow.toData

/-- `save_step_with_tx` binds the state of the step. -/
theorem save_step_eq (store : SagaStore) (now : DateTime) (step : SagaStepData) :
    store.saveStep now step = store.upsertStep now step step.state.display := rfl

theorem find_step_update (store : SagaStore) (stepId : SagaStepId)
    (change : SagaStepDbRow → SagaStepDbRow) (keepsId : ∀ row, (change row).id = row.id) :
    (store.updateSteps stepId.uuid change keepsId).steps.find? (fun row => row.id == stepId.uuid) =
      (store.steps.find? fun row => row.id == stepId.uuid).map change := by
  unfold updateSteps
  rw [List.find?_map]
  have sameRow : (fun row : SagaStepDbRow => row.id == stepId.uuid) ∘
      (fun row => if row.id = stepId.uuid then change row else row) =
        fun row => row.id == stepId.uuid := by
    funext row
    simp only [Function.comp_apply]
    split_ifs
    · rw [keepsId]
    · rfl
  rw [sameRow]
  cases found : store.steps.find? fun row => row.id == stepId.uuid with
  | none => rfl
  | some row =>
      have key : row.id = stepId.uuid := by simpa using List.find?_some found
      simp [key]

/-- The row of the step holds the text that was bound. -/
theorem find_upsert_step (store : SagaStore) (now : DateTime) (step : SagaStepData)
    (state : String) :
    ∃ row, (store.upsertStep now step state).steps.find? (fun row => row.id == step.stepId.uuid) =
      some row ∧ row.state = state := by
  unfold upsertStep
  by_cases absent : step.stepId.uuid ∉ store.steps.map SagaStepDbRow.id
  · rw [dif_pos absent]
    have missing : store.steps.find? (fun row => row.id == step.stepId.uuid) = none := by
      rw [List.find?_eq_none]
      intro row member same
      exact absent (List.mem_map.mpr ⟨row, member, beq_iff_eq.mp same⟩)
    refine ⟨{ SagaStepDbRow.ofData now step with state := state }, ?_, rfl⟩
    simp [insertStep, List.find?_append, missing, SagaStepDbRow.ofData]
  · rw [dif_neg absent, find_step_update]
    obtain ⟨row, member, same⟩ := List.mem_map.mp (not_not.mp absent)
    have present : store.steps.find? (fun row => row.id == step.stepId.uuid) ≠ none := by
      intro missing
      exact List.find?_eq_none.mp missing row member (beq_iff_eq.mpr same)
    obtain ⟨stored, found⟩ := Option.ne_none_iff_exists'.mp present
    rw [found]
    exact ⟨_, rfl, rfl⟩

/-- `save_step` leaves what `save_step_with_tx` and a commit leave, and the saved state is
found again, exactly for a pending step. -/
theorem save_step_agrees_iff (store : SagaStore) (now : DateTime) (step : SagaStepData) :
    (store.saveStepAlone now step = store.commit now [.saveStepWithTx step] ∧
        ∃ found, (store.saveStepAlone now step).findStepById step.stepId = some found ∧
          found.state = step.state) ↔
      step.state = .pending := by
  obtain ⟨row, stored, text⟩ := find_upsert_step store now step "PENDING"
  have found : (store.saveStepAlone now step).findStepById step.stepId = some row.toData := by
    rw [findStepById, saveStepAlone, stored]
    rfl
  have state : row.toData.state = .pending := by
    change SagaStepState.ofColumn row.state = .pending
    rw [text]
    rfl
  constructor
  · intro ⟨_, data, isFound, same⟩
    obtain rfl := Option.some.inj (found.symm.trans isFound)
    exact same.symm.trans state
  · intro pending
    constructor
    · change store.upsertStep now step "PENDING" = store.saveStep now step
      rw [save_step_eq, pending]
      rfl
    · exact ⟨row.toData, found, state.trans pending.symm⟩

def completedStep : SagaStepData :=
  { SagaStepData.newWithOrder ⟨7⟩ "ValidateJob" 0 none ⟨1⟩ 0 with state := .completed }

/-- A completed step is saved as a pending one. -/
theorem completed_step_saved_pending :
    ¬∀ (store : SagaStore) (now : DateTime) (step : SagaStepData),
      store.saveStepAlone now step = store.commit now [.saveStepWithTx step] ∧
        ∃ found, (store.saveStepAlone now step).findStepById step.stepId = some found ∧
          found.state = step.state := by
  intro agrees
  obtain ⟨_, found, isFound, same⟩ :=
    agrees ⟨⟨none, none, none⟩, [], [], List.nodup_nil, List.nodup_nil⟩ 0 completedStep
  obtain rfl := Option.some.inj isFound
  cases same

end SagaStore

end HodeiJobs.Sagas
