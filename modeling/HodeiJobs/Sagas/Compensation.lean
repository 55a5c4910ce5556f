import HodeiJobs.Sagas.Completion

/-!
# The compensation loop

The loop visits the steps from the last index down and acts on those that are
recorded `Completed` and declare a compensation. It passes over a block of
compensations that are undone and committed, and stops at the first that is
not; what is below stays as it was.
-/

namespace HodeiJobs.Sagas

open HodeiJobs.Library HodeiJobs.Library.Program

/-- The loop acts on this step. -/
def isTarget (completedSteps : List SagaStepData) (entry : SagaStep × Nat) : Bool :=
  completedSteps.any (SagaStepData.isAt entry.2) && entry.1.hasCompensation

theorem compensate_steps_filter (sagaId : SagaId) (completedSteps : List SagaStepData)
    (entries : List (SagaStep × Nat)) (context : SagaContext) (executed : Nat) :
    compensateSteps sagaId completedSteps entries context executed =
      compensateSteps sagaId completedSteps (entries.filter (isTarget completedSteps)) context
        executed := by
  induction entries generalizing context executed with
  | nil => rfl
  | cons entry rest ih =>
      by_cases target : isTarget completedSteps entry = true
      · have parts := target
        unfold isTarget at parts
        rw [Bool.and_eq_true] at parts
        rw [List.filter_cons_of_pos target, compensateSteps, compensateSteps, if_pos parts.1,
          if_pos parts.2, if_pos parts.1, if_pos parts.2]
        congr 1
        funext next
        exact ih next (executed + 1)
      · rw [List.filter_cons_of_neg target, compensateSteps, ← ih]
        unfold isTarget at target
        rw [Bool.and_eq_true, not_and_or] at target
        split_ifs with recorded compensable
        · rcases target with unrecorded | refused
          · exact absurd recorded unrecorded
          · exact absurd compensable refused
        · rfl
        · rfl

/-! ## Marking records -/

/-- A record after its compensation has been committed. -/
def compensatedRow (now : DateTime) (row : SagaStepDbRow) : SagaStepDbRow :=
  SagaStore.stepStateChange now .compensated none
    (SagaStore.stepStateChange now .compensating none row)

def markRows (now : DateTime) (ids : List Uuid) (rows : List SagaStepDbRow) :
    List SagaStepDbRow :=
  rows.map fun row => if row.id ∈ ids then compensatedRow now row else row

theorem commit_compensation_steps (store : SagaStore) (now : DateTime) (stepId : SagaStepId) :
    (store.commit now
        [.updateStepStateWithTx stepId .compensating none,
          .updateStepStateWithTx stepId .compensated none]).steps =
      markRows now [stepId.uuid] store.steps := by
  show (store.steps.map _).map _ = _
  rw [List.map_map]
  apply List.map_congr_left
  intro row _
  by_cases own : row.id = stepId.uuid
  · have kept : (SagaStore.stepStateChange now .compensating none row).id = stepId.uuid := own
    simp only [Function.comp_apply, List.mem_singleton, if_pos own, if_pos kept]
    rfl
  · simp only [Function.comp_apply, List.mem_singleton, if_neg own]

theorem mark_rows_nil (now : DateTime) (rows : List SagaStepDbRow) :
    markRows now [] rows = rows := by
  simp [markRows]

theorem mark_rows_append (now : DateTime) (first second : List Uuid) (rows : List SagaStepDbRow) :
    markRows now second (markRows now first rows) = markRows now (first ++ second) rows := by
  unfold markRows
  rw [List.map_map]
  apply List.map_congr_left
  intro row _
  simp only [Function.comp_apply, List.mem_append]
  by_cases earlier : row.id ∈ first
  · have twice : compensatedRow now (compensatedRow now row) = compensatedRow now row := rfl
    rw [if_pos earlier, if_pos (Or.inl earlier)]
    split_ifs
    · exact twice
    · rfl
  · rw [if_neg earlier]
    simp only [earlier, false_or]

theorem mem_mark_rows (now : DateTime) (ids : List Uuid) (rows : List SagaStepDbRow)
    (marked : SagaStepDbRow) :
    marked ∈ markRows now ids rows ↔
      ∃ row ∈ rows, (if row.id ∈ ids then compensatedRow now row else row) = marked :=
  List.mem_map

/-- Compensation records nothing as `Completed`. -/
theorem recorded_of_mark_rows {before after : SagaStore} {now : DateTime} {ids : List Uuid}
    {sagaId : SagaId} {index : Nat} (steps : after.steps = markRows now ids before.steps)
    (recorded : RecordedCompleted after sagaId index) :
    RecordedCompleted before sagaId index := by
  obtain ⟨marked, member, owner, order, state⟩ := recorded
  rw [steps, mem_mark_rows] at member
  obtain ⟨row, stored, shape⟩ := member
  by_cases chosen : row.id ∈ ids
  · rw [if_pos chosen] at shape
    subst shape
    cases state
  · rw [if_neg chosen] at shape
    subst shape
    exact ⟨row, stored, owner, order, state⟩

/-- The ids of the records that compensating these indices marks. -/
def recordIds (completedSteps : List SagaStepData) (indices : List Nat) : List Uuid :=
  indices.filterMap fun index =>
    (completedSteps.find? (SagaStepData.isAt index)).map fun record => record.stepId.uuid

/-! ## One compensation -/

section Outcomes

variable (env : Env) (sagaId : SagaId) (index : Nat)

/-- `compensate()` of this index is invoked once the loop gets to it. -/
def CompensationStarts : Prop := Clean env sagaId (.compensation index) startCompensationCalls

/-- `compensate()` of this index is invoked, returns `Ok` and is committed. -/
def Undone : Prop :=
  CompensationStarts env sagaId index ∧ (env.saga sagaId).compensation index = .ok () ∧
    Clean env sagaId (.compensation index) finishCompensationCalls

end Outcomes

/-- What a block of undone compensations leaves behind. -/
structure RolledBack (env : Env) (sagaId : SagaId) (completedSteps : List SagaStepData)
    (indices : List Nat) (before after : World) : Prop where
  trace : after.trace = before.trace ++ indices.map (SagaEvent.compensate sagaId)
  steps : after.store.steps = markRows env.now (recordIds completedSteps indices)
    before.store.steps
  sagas : after.store.sagas = before.store.sagas

variable {env : Env} {sagaId : SagaId} {completedSteps : List SagaStepData}

theorem RolledBack.refl (world : World) : RolledBack env sagaId completedSteps [] world world :=
  ⟨by simp, by simp [recordIds, mark_rows_nil], rfl⟩

theorem RolledBack.trans {first second : List Nat} {before middle after : World}
    (head : RolledBack env sagaId completedSteps first before middle)
    (tail : RolledBack env sagaId completedSteps second middle after) :
    RolledBack env sagaId completedSteps (first ++ second) before after := by
  refine ⟨?_, ?_, tail.sagas.trans head.sagas⟩
  · rw [tail.trace, head.trace, List.map_append, List.append_assoc]
  · rw [tail.steps, head.steps, mark_rows_append, recordIds, recordIds, recordIds,
      List.filterMap_append]

theorem find_of_recorded {index : Nat}
    (recorded : completedSteps.any (SagaStepData.isAt index) = true) :
    ∃ record, completedSteps.find? (SagaStepData.isAt index) = some record := by
  obtain ⟨data, member, matched⟩ := List.any_eq_true.mp recorded
  exact Option.isSome_iff_exists.mp (List.find?_isSome.mpr ⟨data, member, matched⟩)

theorem run_compensate_step_undone {index : Nat} (step : SagaStep) (context : SagaContext)
    (world : World) (recorded : completedSteps.any (SagaStepData.isAt index) = true)
    (undone : Undone env sagaId index) :
    ∃ context' after,
      runSaga env (compensateStep sagaId completedSteps index step context) world =
        (.ok context', after) ∧
      RolledBack env sagaId completedSteps [index] world after := by
  obtain ⟨record, found⟩ := find_of_recorded recorded
  obtain ⟨starts, outcome, clean⟩ := undone
  have opened := (start_compensation_guarded env world sagaId
    completedSteps index found).passes starts
  have finished := (finish_compensation_guarded env
    { world with trace := world.trace ++ [.compensate sagaId index] } sagaId completedSteps index
    found).passes clean
  unfold runSaga compensateStep
  rw [exec_bind_ok _ _ _ opened,
    exec_bind_ok _ _ _ (run_compensate env sagaId index context world), outcome]
  refine ⟨_, _, exec_bind_ok _ _ _ finished, rfl, ?_, rfl⟩
  have ids : recordIds completedSteps [index] = [record.stepId.uuid] := by
    simp [recordIds, found]
  rw [ids]
  exact commit_compensation_steps _ _ _

/-- A compensation that is not undone ends the call with an error. The rows
of `saga_steps` are those from before it; the saga row is marked failed when
`compensate()` itself failed and nothing else did. -/
theorem run_compensate_step_stops {index : Nat} (step : SagaStep) (context : SagaContext)
    (world : World) (recorded : completedSteps.any (SagaStepData.isAt index) = true)
    (stops : ¬Undone env sagaId index) :
    ∃ failure after,
      runSaga env (compensateStep sagaId completedSteps index step context) world =
        (.error failure, after) ∧
      after.store.steps = world.store.steps ∧
      (CompensationStarts env sagaId index →
        after.trace = world.trace ++ [.compensate sagaId index]) ∧
      (¬CompensationStarts env sagaId index → after.trace = world.trace) ∧
      ∀ error, CompensationStarts env sagaId index →
        (env.saga sagaId).compensation index = .error error →
        after.store = abandonedStore env world.store sagaId index step error := by
  obtain ⟨record, found⟩ := find_of_recorded recorded
  have guarded := start_compensation_guarded env world sagaId
    completedSteps index found
  unfold runSaga compensateStep
  by_cases starts : CompensationStarts env sagaId index
  · rw [exec_bind_ok _ _ _ (guarded.passes starts),
      exec_bind_ok _ _ _ (run_compensate env sagaId index context world)]
    cases outcome : (env.saga sagaId).compensation index with
    | ok passed =>
        have faulted : ¬Clean env sagaId (.compensation index) finishCompensationCalls := by
          intro clean
          exact stops ⟨starts, outcome, clean⟩
        obtain ⟨failure, stopped⟩ := (finish_compensation_guarded env
          { world with trace := world.trace ++ [.compensate sagaId index] } sagaId completedSteps
          index found).stops faulted
        refine ⟨failure, _, exec_bind_error _ _ _ stopped, rfl, fun _ => rfl,
          fun absent => absurd starts absent, ?_⟩
        intro error _ failed
        cases failed
    | error reason =>
        obtain ⟨failure, stopped⟩ := run_abandon_compensation env
          { world with trace := world.trace ++ [.compensate sagaId index] } sagaId SagaContext
          record index step reason
        refine ⟨failure, _, stopped, ?_, fun _ => rfl, fun absent => absurd starts absent, ?_⟩
        · exact abandoned_store_steps _ _ _ _ _ _
        · intro error _ failed
          cases failed
          rfl
  · obtain ⟨failure, stopped⟩ := guarded.stops starts
    refine ⟨failure, world, exec_bind_error _ _ _ stopped, rfl,
      fun present => absurd present starts, fun _ => rfl, ?_⟩
    intro error present
    exact absurd present starts

/-! ## A block of compensations -/

theorem run_compensate_steps_advance (completedSteps : List SagaStepData)
    (block rest : List (SagaStep × Nat)) (context : SagaContext) (executed : Nat) (world : World)
    (targets : ∀ entry ∈ block, isTarget completedSteps entry = true)
    (undone : ∀ entry ∈ block, Undone env sagaId entry.2) :
    ∃ context' after,
      runSaga env (compensateSteps sagaId completedSteps (block ++ rest) context executed) world =
        runSaga env
          (compensateSteps sagaId completedSteps rest context' (executed + block.length)) after ∧
      RolledBack env sagaId completedSteps (block.map Prod.snd) world after := by
  induction block generalizing context executed world with
  | nil => exact ⟨context, world, rfl, RolledBack.refl world⟩
  | cons entry block ih =>
      obtain ⟨step, index⟩ := entry
      have target := targets _ List.mem_cons_self
      unfold isTarget at target
      rw [Bool.and_eq_true] at target
      obtain ⟨context₁, middle, ran, first⟩ := run_compensate_step_undone step context world
        target.1 (undone _ List.mem_cons_self)
      obtain ⟨context', after, continued, others⟩ := ih context₁ (executed + 1) middle
        (fun entry member => targets entry (List.mem_cons_of_mem _ member))
        (fun entry member => undone entry (List.mem_cons_of_mem _ member))
      refine ⟨context', after, ?_, first.trans others⟩
      rw [List.cons_append, compensateSteps, if_pos target.1, if_pos target.2]
      unfold runSaga at ran continued ⊢
      rw [exec_bind_ok _ _ _ ran, continued, List.length_cons]
      congr 2
      omega

/-! ## The whole rollback -/

variable {saga : Saga} {context : SagaContext} {executed : Nat} {world : World}

/-- The records the loop works with: those in state `Completed`. -/
def completedRecords (store : SagaStore) (sagaId : SagaId) : List SagaStepData :=
  (store.findStepsBySagaId sagaId).filter SagaStepData.isCompleted

/-- The steps the loop acts on, last index first. -/
def targetEntries (saga : Saga) (store : SagaStore) (sagaId : SagaId) : List (SagaStep × Nat) :=
  saga.steps.zipIdx.reverse.filter (isTarget (completedRecords store sagaId))

theorem target_entries_are_targets (saga : Saga) (store : SagaStore) (sagaId : SagaId) :
    ∀ entry ∈ targetEntries saga store sagaId,
      isTarget (completedRecords store sagaId) entry = true :=
  fun _ member => (List.mem_filter.mp member).2

theorem run_compensate_loads (loads : (env.saga sagaId).loadFault .compensation = none) :
    runSaga env (compensate saga sagaId context executed) world =
      runSaga env
        (do
          let compensations ← compensateSteps sagaId (completedRecords world.store sagaId)
            (targetEntries saga world.store sagaId) context 0
          markRolledBack sagaId
          let elapsed ← request (.elapsed sagaId .result)
          return .compensated sagaId saga.sagaType elapsed executed compensations) world := by
  have loaded := run_load_steps_ok "Failed to load saga steps for compensation" world loads
  unfold targetEntries
  rw [← compensate_steps_filter]
  exact exec_bind_ok _ _ _ loaded

theorem run_compensate_unloaded (env : Env) (saga : Saga) (context : SagaContext) (executed : Nat)
    (world : World) (faulted : (env.saga sagaId).loadFault .compensation ≠ none) :
    ∃ failure, runSaga env (compensate saga sagaId context executed) world =
      (.error failure, world) := by
  obtain ⟨failure, stopped⟩ := run_load_steps_error env sagaId
    "Failed to load saga steps for compensation" world faulted
  exact ⟨failure, exec_bind_error _ _ _ stopped⟩

/-- Every target is undone: the call marks the saga completed and returns the
number of compensations, or fails to mark it. -/
theorem run_compensate_all (context : SagaContext) (executed : Nat)
    (loads : (env.saga sagaId).loadFault .compensation = none)
    (undone : ∀ entry ∈ targetEntries saga world.store sagaId, Undone env sagaId entry.2) :
    ∃ after,
      RolledBack env sagaId (completedRecords world.store sagaId)
        ((targetEntries saga world.store sagaId).map Prod.snd) world after ∧
      (Clean env sagaId .compensated stateCalls →
        runSaga env (compensate saga sagaId context executed) world =
          (.ok (.compensated sagaId saga.sagaType ((env.saga sagaId).elapsed .result) executed
            (targetEntries saga world.store sagaId).length),
            { after with store := after.store.updateState env.now sagaId .completed none })) ∧
      (¬Clean env sagaId .compensated stateCalls →
        ∃ failure, runSaga env (compensate saga sagaId context executed) world =
          (.error failure, after)) := by
  obtain ⟨context', after, ran, rolledBack⟩ := run_compensate_steps_advance
    (completedRecords world.store sagaId) (targetEntries saga world.store sagaId) [] context 0 world
    (target_entries_are_targets saga world.store sagaId) undone
  have looped : runSaga env (compensateSteps sagaId (completedRecords world.store sagaId)
      (targetEntries saga world.store sagaId) context 0) world =
      (.ok (targetEntries saga world.store sagaId).length, after) := by
    rw [List.append_nil] at ran
    rw [ran, Nat.zero_add]
    rfl
  have marked := mark_rolled_back_guarded env after sagaId
  rw [run_compensate_loads loads]
  unfold runSaga at looped ⊢
  rw [exec_bind_ok _ _ _ looped]
  refine ⟨after, rolledBack, ?_, ?_⟩
  · intro clean
    rw [exec_bind_ok _ _ _ (marked.passes clean)]
    rfl
  · intro faulted
    obtain ⟨failure, stopped⟩ := marked.stops faulted
    exact ⟨failure, exec_bind_error _ _ _ stopped⟩

/-- The first target that is not undone ends the call. -/
theorem run_compensate_stops (context : SagaContext) (executed : Nat)
    {block rest : List (SagaStep × Nat)} {entry : SagaStep × Nat}
    (loads : (env.saga sagaId).loadFault .compensation = none)
    (split : targetEntries saga world.store sagaId = block ++ entry :: rest)
    (undone : ∀ earlier ∈ block, Undone env sagaId earlier.2) (stops : ¬Undone env sagaId entry.2) :
    ∃ middle failure after,
      RolledBack env sagaId (completedRecords world.store sagaId) (block.map Prod.snd) world
        middle ∧
      runSaga env (compensate saga sagaId context executed) world = (.error failure, after) ∧
      after.store.steps = middle.store.steps ∧
      (CompensationStarts env sagaId entry.2 →
        after.trace = middle.trace ++ [.compensate sagaId entry.2]) ∧
      (¬CompensationStarts env sagaId entry.2 → after.trace = middle.trace) ∧
      ∀ error, CompensationStarts env sagaId entry.2 →
        (env.saga sagaId).compensation entry.2 = .error error →
        after.store = abandonedStore env middle.store sagaId entry.2 entry.1 error := by
  have targets := target_entries_are_targets saga world.store sagaId
  rw [split] at targets
  obtain ⟨context', middle, ran, rolledBack⟩ := run_compensate_steps_advance
    (completedRecords world.store sagaId) block (entry :: rest) context 0 world
    (fun earlier member => targets earlier (List.mem_append_left _ member)) undone
  have target := targets entry (List.mem_append_right _ List.mem_cons_self)
  unfold isTarget at target
  rw [Bool.and_eq_true] at target
  obtain ⟨failure, after, stopped, steps, started, silent, abandoned⟩ :=
    run_compensate_step_stops entry.1 context' middle target.1 stops
  refine ⟨middle, failure, after, rolledBack, ?_, steps, started, silent, abandoned⟩
  rw [run_compensate_loads loads]
  apply exec_bind_error
  rw [split]
  refine ran.trans ?_
  rw [compensateSteps, if_pos target.1, if_pos target.2]
  exact exec_bind_error _ _ _ stopped

/-- Whatever happens, a rollback only invokes compensations and marks records. -/
theorem run_compensate_effect (env : Env) (saga : Saga) (sagaId : SagaId)
    (context : SagaContext) (executed : Nat) (world : World) :
    ∃ undone marked : List Nat,
      (runSaga env (compensate saga sagaId context executed) world).2.trace =
        world.trace ++ undone.map (SagaEvent.compensate sagaId) ∧
      (runSaga env (compensate saga sagaId context executed) world).2.store.steps =
        markRows env.now (recordIds (completedRecords world.store sagaId) marked)
          world.store.steps := by
  by_cases loads : (env.saga sagaId).loadFault .compensation = none
  · rcases all_members_or_first (fun entry => Undone env sagaId entry.2)
      (targetEntries saga world.store sagaId) with
      all | ⟨block, entry, rest, split, undone, stops⟩
    · obtain ⟨after, rolledBack, marks, faults⟩ := run_compensate_all context executed loads all
      by_cases clean : Clean env sagaId .compensated stateCalls
      · rw [marks clean]
        exact ⟨_, _, rolledBack.trace, rolledBack.steps⟩
      · obtain ⟨failure, unmarked⟩ := faults clean
        rw [unmarked]
        exact ⟨_, _, rolledBack.trace, rolledBack.steps⟩
    · obtain ⟨middle, failure, after, rolledBack, ran, steps, started, silent, -⟩ :=
        run_compensate_stops context executed loads split undone stops
      rw [ran]
      by_cases starts : CompensationStarts env sagaId entry.2
      · refine ⟨block.map Prod.snd ++ [entry.2], _, ?_, steps.trans rolledBack.steps⟩
        rw [started starts, rolledBack.trace, List.map_append, List.append_assoc]
        rfl
      · exact ⟨_, _, (silent starts).trans rolledBack.trace, steps.trans rolledBack.steps⟩
  · obtain ⟨failure, unloaded⟩ := run_compensate_unloaded _ saga context executed world loads
    rw [unloaded]
    exact ⟨[], [], by simp, (mark_rows_nil _ _).symm⟩

/-! ## The indices to roll back -/

/-- The saga has a step at this index and it declares a compensation. -/
def Compensable (saga : Saga) (index : Nat) : Prop :=
  ∃ step, saga.steps[index]? = some step ∧ step.hasCompensation = true

/-- The indices that the loop would compensate in this store, in its order. -/
def rollbackIndices (saga : Saga) (store : SagaStore) (sagaId : SagaId) : List Nat :=
  (targetEntries saga store sagaId).map Prod.snd

theorem any_completed_records_iff (store : SagaStore) (sagaId : SagaId) (index : Nat) :
    (completedRecords store sagaId).any (SagaStepData.isAt index) = true ↔
      RecordedCompleted store sagaId index := by
  rw [← completed_at_iff]
  simp [completedRecords, completedAt, List.any_filter]

theorem mem_target_entries (saga : Saga) (store : SagaStore) (sagaId : SagaId)
    (entry : SagaStep × Nat) :
    entry ∈ targetEntries saga store sagaId ↔
      saga.steps[entry.2]? = some entry.1 ∧ entry.1.hasCompensation = true ∧
        RecordedCompleted store sagaId entry.2 := by
  unfold targetEntries isTarget
  rw [List.mem_filter, List.mem_reverse, List.mem_zipIdx_iff_getElem?, Bool.and_eq_true,
    any_completed_records_iff]
  constructor
  · intro ⟨position, recorded, compensable⟩
    exact ⟨position, compensable, recorded⟩
  · intro ⟨position, compensable, recorded⟩
    exact ⟨position, recorded, compensable⟩

theorem mem_rollback_indices (saga : Saga) (store : SagaStore) (sagaId : SagaId) (index : Nat) :
    index ∈ rollbackIndices saga store sagaId ↔
      Compensable saga index ∧ RecordedCompleted store sagaId index := by
  unfold rollbackIndices Compensable
  rw [List.mem_map]
  constructor
  · intro ⟨entry, member, position⟩
    subst position
    have parts := (mem_target_entries saga store sagaId entry).mp member
    exact ⟨⟨entry.1, parts.1, parts.2.1⟩, parts.2.2⟩
  · intro ⟨⟨step, position, compensable⟩, recorded⟩
    exact ⟨(step, index), (mem_target_entries saga store sagaId _).mpr
      ⟨position, compensable, recorded⟩, rfl⟩

theorem rollback_indices_pairwise (saga : Saga) (store : SagaStore) (sagaId : SagaId) :
    (rollbackIndices saga store sagaId).Pairwise (· > ·) := by
  have increasing : (saga.steps.zipIdx.map Prod.snd).Pairwise (· < ·) := by
    rw [List.zipIdx_map_snd]
    exact List.pairwise_lt_range'
  have decreasing : (saga.steps.zipIdx.reverse.map Prod.snd).Pairwise (· > ·) := by
    rw [List.map_reverse, List.pairwise_reverse]
    exact increasing
  exact decreasing.sublist (List.filter_sublist.map Prod.snd)

/-! ## Records after a rollback -/

theorem step_row_unique (store : SagaStore) {left right : SagaStepDbRow}
    (leftStored : left ∈ store.steps) (rightStored : right ∈ store.steps)
    (same : left.id = right.id) : left = right :=
  List.inj_on_of_nodup_map store.stepsKey leftStored rightStored same

/-- The record that the loop finds for an index, as a row. -/
theorem found_record {store : SagaStore} {sagaId : SagaId} {index : Nat} {record : SagaStepData}
    (found : (completedRecords store sagaId).find? (SagaStepData.isAt index) = some record) :
    ∃ row ∈ store.steps, row.toData = record ∧ row.sagaId = sagaId.uuid ∧
      row.stepOrder = index ∧ SagaStepState.ofColumn row.state = .completed := by
  have member := List.mem_of_find?_eq_some found
  have position := List.find?_some found
  unfold completedRecords at member
  rw [List.mem_filter, SagaStore.mem_find_steps_by_saga_id] at member
  obtain ⟨⟨row, stored, owner, rfl⟩, completed⟩ := member
  refine ⟨row, stored, rfl, owner, ?_, ?_⟩
  · simpa [SagaStepData.isAt, SagaStepDbRow.toData] using position
  · simpa [SagaStepData.isCompleted, SagaStepDbRow.toData] using completed

/-- A marked record is a `Completed` one of the saga, at one of the compensated
indices. -/
theorem mem_record_ids {store : SagaStore} {sagaId : SagaId} {indices : List Nat}
    {row : SagaStepDbRow} (stored : row ∈ store.steps)
    (chosen : row.id ∈ recordIds (completedRecords store sagaId) indices) :
    row.sagaId = sagaId.uuid ∧ SagaStepState.ofColumn row.state = .completed ∧
      ∃ index ∈ indices, row.stepOrder = (index : Int) := by
  obtain ⟨index, listed, mapped⟩ := List.mem_filterMap.mp chosen
  obtain ⟨record, found, same⟩ := Option.map_eq_some_iff.mp mapped
  obtain ⟨source, sourceStored, rfl, owner, order, completed⟩ := found_record found
  have identical : source = row := step_row_unique store sourceStored stored same
  subst identical
  exact ⟨owner, completed, index, listed, order⟩

/-- An index keeps its `Completed` record unless it was compensated. -/
theorem RolledBack.recorded_or_listed {indices : List Nat} {before after : World} {index : Nat}
    (rolledBack : RolledBack env sagaId (completedRecords before.store sagaId) indices before
      after) (recorded : RecordedCompleted before.store sagaId index) :
    RecordedCompleted after.store sagaId index ∨ index ∈ indices := by
  obtain ⟨row, stored, owner, order, state⟩ := recorded
  by_cases chosen : row.id ∈ recordIds (completedRecords before.store sagaId) indices
  · obtain ⟨-, -, other, listed, position⟩ := mem_record_ids stored chosen
    have same : other = index := by omega
    exact .inr (same ▸ listed)
  · left
    refine ⟨row, ?_, owner, order, state⟩
    rw [rolledBack.steps, mem_mark_rows]
    exact ⟨row, stored, if_neg chosen⟩

end HodeiJobs.Sagas
