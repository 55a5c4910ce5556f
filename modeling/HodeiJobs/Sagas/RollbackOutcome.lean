import HodeiJobs.Sagas.Rollback

/-!
# What a rollback leaves

A call whose step returns `Err` compensates the committed steps from the last
index down and stops at the first that fails. It gets through, and leaves the
records and the saga row as that order says, exactly when the repository calls
of its rollback are answered. The saga's records come from earlier calls, which
never record one index as `Completed` twice.
-/

namespace HodeiJobs.Sagas

open HodeiJobs.Library HodeiJobs.Library.Program

/-- Some record of the saga carries this index and is in state `Compensated`. -/
def RecordedCompensated (store : SagaStore) (sagaId : SagaId) (index : Nat) : Prop :=
  ∃ row ∈ store.steps, row.sagaId = sagaId.uuid ∧ row.stepOrder = index ∧
    SagaStepState.ofColumn row.state = .compensated

/-! ## One `Completed` record for each index -/

def UniqueCompleted (rows : List SagaStepDbRow) (sagaId : SagaId) : Prop :=
  ∀ left ∈ rows, ∀ right ∈ rows, left.sagaId = sagaId.uuid → right.sagaId = sagaId.uuid →
    SagaStepState.ofColumn left.state = .completed →
    SagaStepState.ofColumn right.state = .completed →
    left.stepOrder = right.stepOrder → left = right

theorem unique_completed_mark_rows {rows : List SagaStepDbRow} {sagaId : SagaId}
    (unique : UniqueCompleted rows sagaId) (now : DateTime) (ids : List Uuid) :
    UniqueCompleted (markRows now ids rows) sagaId := by
  have unmarked : ∀ marked ∈ markRows now ids rows,
      SagaStepState.ofColumn marked.state = .completed → marked ∈ rows := by
    intro marked member completed
    obtain ⟨row, stored, shape⟩ := (mem_mark_rows now ids rows marked).mp member
    by_cases chosen : row.id ∈ ids
    · rw [if_pos chosen] at shape
      subst shape
      cases completed
    · rw [if_neg chosen] at shape
      subst shape
      exact stored
  intro left leftMember right rightMember leftOwner rightOwner leftState rightState
  exact unique left (unmarked left leftMember leftState) right
    (unmarked right rightMember rightState) leftOwner rightOwner leftState rightState

theorem AppendedRows.mem {sagaId : SagaId} {indices : List Nat} {rows : List SagaStepDbRow}
    (appended : AppendedRows sagaId indices rows) {row : SagaStepDbRow} (member : row ∈ rows) :
    row.sagaId = sagaId.uuid ∧ SagaStepState.ofColumn row.state = .completed ∧
      ∃ index ∈ indices, row.stepOrder = (index : Int) := by
  have shaped : (row.sagaId, row.stepOrder, row.state) ∈
      rows.map fun row => (row.sagaId, row.stepOrder, row.state) :=
    List.mem_map.mpr ⟨row, member, rfl⟩
  rw [appended] at shaped
  obtain ⟨index, listed, same⟩ := List.mem_map.mp shaped
  have parts := Prod.mk.inj same
  have columns := Prod.mk.inj parts.2
  refine ⟨parts.1.symm, ?_, index, listed, columns.1.symm⟩
  rw [← columns.2]
  rfl

theorem AppendedRows.order_injective {sagaId : SagaId} {indices : List Nat}
    {rows : List SagaStepDbRow} (appended : AppendedRows sagaId indices rows)
    (distinct : indices.Nodup) {left right : SagaStepDbRow} (leftMember : left ∈ rows)
    (rightMember : right ∈ rows) (same : left.stepOrder = right.stepOrder) : left = right := by
  have orders : rows.map SagaStepDbRow.stepOrder =
      indices.map fun index : Nat => (index : Int) := by
    have projected := congrArg (List.map fun shape : Uuid × Int × String => shape.2.1) appended
    simpa [List.map_map, Function.comp_def] using projected
  have ordersDistinct : (rows.map SagaStepDbRow.stepOrder).Nodup := by
    rw [orders]
    apply distinct.map
    intro left right same
    exact Int.ofNat.inj same
  exact List.inj_on_of_nodup_map ordersDistinct leftMember rightMember same

/-- A call appends records only for indices that have none, so no index is
recorded twice. -/
theorem unique_completed_append {store : SagaStore} {caller sagaId : SagaId} {stop : Nat}
    {rows : List SagaStepDbRow} (unique : UniqueCompleted store.steps sagaId)
    (appended : AppendedRows caller
      (pendingIndices (store.findStepsBySagaId caller) 0 stop) rows) :
    UniqueCompleted (store.steps ++ rows) sagaId := by
  have distinct : (pendingIndices (store.findStepsBySagaId caller) 0 stop).Nodup :=
    (pending_indices_pairwise _ 0 stop).imp Nat.ne_of_lt
  -- A new record of this saga and an old one never share their index.
  have apart : ∀ old ∈ store.steps, ∀ new ∈ rows, old.sagaId = sagaId.uuid →
      new.sagaId = sagaId.uuid → SagaStepState.ofColumn old.state = .completed →
      old.stepOrder ≠ new.stepOrder := by
    intro old oldMember new newMember oldOwner newOwner completed same
    obtain ⟨owner, -, index, listed, order⟩ := appended.mem newMember
    have pending := ((mem_pending_indices _ stop index).mp listed).2
    have recorded : RecordedCompleted store caller index :=
      ⟨old, oldMember, oldOwner.trans (newOwner.symm.trans owner), same.trans order, completed⟩
    rw [← completed_at_iff, pending] at recorded
    cases recorded
  intro left leftMember right rightMember leftOwner rightOwner leftState rightState same
  rcases List.mem_append.mp leftMember with leftOld | leftNew
  · rcases List.mem_append.mp rightMember with rightOld | rightNew
    · exact unique left leftOld right rightOld leftOwner rightOwner leftState rightState same
    · exact absurd same (apart left leftOld right rightNew leftOwner rightOwner leftState)
  · rcases List.mem_append.mp rightMember with rightOld | rightNew
    · exact absurd same.symm (apart right rightOld left leftNew rightOwner leftOwner rightState)
    · exact appended.order_injective distinct leftNew rightNew same

/-! ## Histories -/

/-- Everything one call does to `saga_steps`: it appends a record for each
index it executed and commits, and marks some of its `Completed` records
compensated. -/
theorem run_execute_saga_step_rows (config : PostgresSagaOrchestratorConfig) (env : Env)
    (saga : Saga) (context : SagaContext) (world : World) :
    ∃ stop rows ids,
      AppendedRows context.sagaId
        (pendingIndices (world.store.findStepsBySagaId context.sagaId) 0 stop) rows ∧
      (∀ row ∈ world.store.steps ++ rows, row.id ∈ ids →
        row.sagaId = context.sagaId.uuid ∧ SagaStepState.ofColumn row.state = .completed) ∧
      (runSaga env (executeSaga config saga context) world).2.store.steps =
        markRows env.now ids (world.store.steps ++ rows) := by
  rcases refused_or_runs_or_stops config env saga context world with
    refused | ⟨entered, all⟩ | ⟨stop, stopped⟩
  · obtain ⟨failure, after, ran, steps, -⟩ :=
      run_execute_saga_refused config saga context world refused
    refine ⟨0, [], [], rfl, fun _ _ marked => absurd marked List.not_mem_nil, ?_⟩
    rw [ran, mark_rows_nil, List.append_nil]
    exact steps
  · obtain ⟨-, rows, steps, appended⟩ := run_execute_saga_runs_out entered all
    refine ⟨saga.steps.length, rows, [], appended,
      fun _ _ marked => absurd marked List.not_mem_nil, ?_⟩
    rw [mark_rows_nil]
    exact steps
  · by_cases rollsBack : RollsBack config env context.sagaId stop
    · obtain ⟨context', executed, start, handed, begun⟩ :=
        run_execute_saga_rolls_back stopped rollsBack
      obtain ⟨rows, steps, appended⟩ := begun.steps
      obtain ⟨-, marked, -, after⟩ :=
        run_compensate_effect env saga context.sagaId context' executed start
      refine ⟨stop, rows, recordIds (completedRecords start.store context.sagaId) marked, appended,
        ?_, ?_⟩
      · intro row stored chosen
        rw [← steps] at stored
        obtain ⟨owner, completed, -⟩ := mem_record_ids stored chosen
        exact ⟨owner, completed⟩
      · rw [handed, after, steps]
    · obtain ⟨failure, after, ran, -, ⟨rows, steps, appended⟩, -⟩ :=
        run_execute_saga_halts stopped rollsBack
      refine ⟨stop, rows, [], appended, fun _ _ marked => absurd marked List.not_mem_nil, ?_⟩
      rw [ran, mark_rows_nil, ← steps]

/-- Worlds that a saga's earlier calls can have left. At first it has no step
record; then any calls follow, of this or another saga, in any environment,
and anything that leaves the step records alone. A crash leaves the rows that
a fault of every later repository call would leave. -/
inductive ResumeHistory (sagaId : SagaId) : World → Prop
  | fresh (world : World) (unrecorded : ∀ row ∈ world.store.steps, row.sagaId ≠ sagaId.uuid) :
      ResumeHistory sagaId world
  | call (config : PostgresSagaOrchestratorConfig) (env : Env) (saga : Saga)
      (context : SagaContext) (world : World) (history : ResumeHistory sagaId world) :
      ResumeHistory sagaId (runSaga env (executeSaga config saga context) world).2
  | outside (before after : World) (history : ResumeHistory sagaId before)
      (steps : after.store.steps = before.store.steps) : ResumeHistory sagaId after

theorem ResumeHistory.unique_completed {sagaId : SagaId} {world : World}
    (history : ResumeHistory sagaId world) : UniqueCompleted world.store.steps sagaId := by
  induction history with
  | fresh world unrecorded =>
      intro left leftMember right rightMember leftOwner
      exact absurd leftOwner (unrecorded left leftMember)
  | call config env saga context world history ih =>
      obtain ⟨stop, rows, ids, appended, -, steps⟩ :=
        run_execute_saga_step_rows config env saga context world
      rw [steps]
      exact unique_completed_mark_rows (unique_completed_append ih appended) env.now ids
  | outside before after history steps ih =>
      rw [steps]
      exact ih

/-! ## Records after a rollback -/

section Records

variable {env : Env} {sagaId : SagaId} {indices : List Nat} {before after : World} {index : Nat}

theorem RolledBack.recorded_compensated
    (rolledBack : RolledBack env sagaId (completedRecords before.store sagaId) indices before
      after) (listed : index ∈ indices) (recorded : RecordedCompleted before.store sagaId index) :
    RecordedCompensated after.store sagaId index := by
  obtain ⟨record, found⟩ := find_of_recorded
    ((any_completed_records_iff before.store sagaId index).mpr recorded)
  obtain ⟨row, stored, rfl, owner, order, -⟩ := found_record found
  have chosen : row.id ∈ recordIds (completedRecords before.store sagaId) indices :=
    List.mem_filterMap.mpr ⟨index, listed, by rw [found]; rfl⟩
  refine ⟨compensatedRow env.now row, ?_, owner, order, rfl⟩
  rw [rolledBack.steps, mem_mark_rows]
  exact ⟨row, stored, if_pos chosen⟩

theorem RolledBack.not_recorded_completed
    (unique : UniqueCompleted before.store.steps sagaId)
    (rolledBack : RolledBack env sagaId (completedRecords before.store sagaId) indices before
      after) (listed : index ∈ indices) : ¬RecordedCompleted after.store sagaId index := by
  intro kept
  obtain ⟨record, found⟩ := find_of_recorded ((any_completed_records_iff _ _ _).mpr
    (recorded_of_mark_rows rolledBack.steps kept))
  obtain ⟨marked, member, owner, order, state⟩ := kept
  rw [rolledBack.steps, mem_mark_rows] at member
  obtain ⟨row, stored, shape⟩ := member
  by_cases chosen : row.id ∈ recordIds (completedRecords before.store sagaId) indices
  · rw [if_pos chosen] at shape
    subst shape
    cases state
  · rw [if_neg chosen] at shape
    subst shape
    -- The record that was marked for this index can only be this row.
    obtain ⟨source, sourceStored, rfl, sourceOwner, sourceOrder, sourceState⟩ :=
      found_record found
    have same : source = row := unique source sourceStored row stored sourceOwner owner
      sourceState state (sourceOrder.trans order.symm)
    subst same
    exact chosen (List.mem_filterMap.mpr ⟨index, listed, by rw [found]; rfl⟩)

end Records

/-! ## The step that failed -/

variable {config : PostgresSagaOrchestratorConfig} {env : Env} {saga : Saga}
  {context : SagaContext} {world : World} {index : Nat}

theorem executed_before_passes {stop : Nat}
    (earlier : ∀ i < stop, Runs config env context.sagaId
      (world.store.findStepsBySagaId context.sagaId) i)
    (member : index ∈ executedBefore context world stop) :
    (env.saga context.sagaId).outcome index = .ok := by
  have pending := (mem_pending_indices _ stop index).mp member
  rcases earlier index pending.1 with recorded | passes
  · rw [pending.2] at recorded
    cases recorded
  · exact passes.2.1

/-- A step that was invoked in a call and returned `Err` is where it stopped. -/
theorem failed_step_is_stop {error : SagaError}
    (invoked : index ∈ executedIndices context.sagaId
      (world.eventsSince (runSaga env (executeSaga config saga context) world).2))
    (failed : (env.saga context.sagaId).outcome index = .err error) :
    StopsAt config env saga context world index ∧ Started config env context.sagaId index := by
  rcases refused_or_runs_or_stops config env saga context world with
    refused | ⟨entered, all⟩ | ⟨stop, stopped⟩
  · obtain ⟨failure, after, ran, -, trace⟩ :=
      run_execute_saga_refused config saga context world refused
    rw [ran, World.events_since_append (trace.trans (List.append_nil _).symm)] at invoked
    cases invoked
  · obtain ⟨trace, -⟩ := run_execute_saga_runs_out entered all
    rw [World.events_since_append trace, executed_indices_executes] at invoked
    rw [executed_before_passes all invoked] at failed
    cases failed
  · have listed : index ∈ executedBefore context world stop ∨
        (index = stop ∧ Started config env context.sagaId stop) := by
      by_cases rollsBack : RollsBack config env context.sagaId stop
      · obtain ⟨context', executed, start, handed, begun⟩ :=
          run_execute_saga_rolls_back stopped rollsBack
        obtain ⟨undone, -, trace, -⟩ :=
          run_compensate_effect env saga context.sagaId context' executed start
        rw [begun.trace, List.append_assoc] at trace
        rw [handed, World.events_since_append trace, executed_indices_append,
          executed_indices_executes, executed_indices_compensates, List.append_nil,
          List.mem_append, List.mem_singleton] at invoked
        exact invoked.imp_right fun same => ⟨same, rollsBack.1⟩
      · obtain ⟨failure, after, ran, ⟨last, trace, known⟩, -, -⟩ :=
          run_execute_saga_halts stopped rollsBack
        rw [ran, World.events_since_append trace, executed_indices_executes,
          List.mem_append] at invoked
        rcases known with ⟨started, rfl⟩ | ⟨-, rfl⟩
        · exact invoked.imp_right fun member => ⟨List.mem_singleton.mp member, started⟩
        · exact .inl (invoked.resolve_right List.not_mem_nil)
    rcases listed with before | ⟨same, started⟩
    · rw [executed_before_passes stopped.earlier before] at failed
      cases failed
    · subst same
      exact ⟨stopped, started⟩

/-! ## Order of the compensations -/

/-- The compensations invoked are of committed steps, from the last index down
and without a gap; all but the last of them returned `Ok`. -/
structure CompensatesInOrder (env : Env) (saga : Saga) (context : SagaContext) (world : World)
    (stop : Nat) (undone : List Nat) : Prop where
  decreasing : undone.Pairwise (· > ·)
  committed : ∀ i ∈ undone, Committed saga context world stop i
  higher : ∀ i ∈ undone, ∀ other, i < other → Committed saga context world stop other →
    other ∈ undone ∧ (env.saga context.sagaId).compensation other = .ok ()

theorem CompensatesInOrder.nil (stop : Nat) :
    CompensatesInOrder env saga context world stop [] :=
  ⟨List.Pairwise.nil, fun _ member => absurd member List.not_mem_nil,
    fun _ member => absurd member List.not_mem_nil⟩

/-- The compensations of a block of targets and, if it was invoked, of the one
after it. -/
theorem compensates_in_order_of_split {stop : Nat} {start : World}
    (begun : RollbackStart context world stop start) {block rest : List (SagaStep × Nat)}
    {entry : SagaStep × Nat}
    (split : targetEntries saga start.store context.sagaId = block ++ entry :: rest)
    (undone : ∀ earlier ∈ block, Undone env context.sagaId earlier.2) (tail : List Nat)
    (known : tail = [] ∨ tail = [entry.2]) :
    CompensatesInOrder env saga context world stop (block.map Prod.snd ++ tail) := by
  have ordered := split_targets begun split
  have decreasing := rollback_indices_pairwise saga start.store context.sagaId
  have members := fun i => begun.mem_rollback_indices_iff saga i
  unfold rollbackIndices at decreasing members
  rw [split, List.map_append, List.map_cons] at decreasing members
  have shorter : (block.map Prod.snd ++ tail).Sublist
      (block.map Prod.snd ++ entry.2 :: rest.map Prod.snd) := by
    apply List.Sublist.append_left
    rcases known with rfl | rfl
    · exact List.nil_sublist _
    · exact List.singleton_sublist.mpr List.mem_cons_self
  refine ⟨decreasing.sublist shorter, ?_, ?_⟩
  · intro i member
    exact (members i).mp (shorter.subset member)
  · intro i member other above committed
    have floor : entry.2 ≤ i := by
      rcases List.mem_append.mp member with inBlock | inTail
      · exact Nat.le_of_lt ((ordered i).1.mp inBlock).2
      · rcases known with rfl | rfl
        · cases inTail
        · exact Nat.le_of_eq (List.mem_singleton.mp inTail).symm
    have listed := (ordered other).1.mpr ⟨committed, Nat.lt_of_le_of_lt floor above⟩
    obtain ⟨earlier, earlierMember, same⟩ := List.mem_map.mp listed
    subst same
    exact ⟨List.mem_append_left _ listed, (undone earlier earlierMember).2.1⟩

theorem stopped_call_compensates_in_order {stop : Nat}
    (stopped : StopsAt config env saga context world stop) :
    CompensatesInOrder env saga context world stop
      (compensatedIndices context.sagaId
        (world.eventsSince (runSaga env (executeSaga config saga context) world).2)) := by
  by_cases rollsBack : RollsBack config env context.sagaId stop
  · obtain ⟨context', executed, start, handed, begun⟩ :=
      run_execute_saga_rolls_back stopped rollsBack
    rw [handed]
    by_cases loads : (env.saga context.sagaId).loadFault .compensation = none
    · rcases all_members_or_first (fun entry => Undone env context.sagaId entry.2)
        (targetEntries saga start.store context.sagaId) with
        all | ⟨block, entry, rest, split, undone, stops⟩
      · obtain ⟨middle, rolledBack, marks, faults⟩ := run_compensate_all context' executed loads all
        have unchanged : (runSaga env (compensate saga context.sagaId context' executed)
            start).2.trace = middle.trace := by
          by_cases clean : Clean env context.sagaId .compensated stateCalls
          · rw [marks clean]
          · obtain ⟨failure, unmarked⟩ := faults clean
            rw [unmarked]
        rw [begun.compensated_indices [] rolledBack (by simpa using unchanged),
          List.append_nil]
        refine ⟨rollback_indices_pairwise saga start.store context.sagaId, ?_, ?_⟩
        · intro i member
          exact (begun.mem_rollback_indices_iff saga i).mp member
        · intro i _ other _ committed
          have listed := (begun.mem_rollback_indices_iff saga other).mpr committed
          obtain ⟨entry, member, same⟩ := List.mem_map.mp listed
          subst same
          exact ⟨listed, (all entry member).2.1⟩
      · obtain ⟨middle, failure, after, rolledBack, ran, -, started, silent, -⟩ :=
          run_compensate_stops context' executed loads split undone
            stops
        rw [ran]
        by_cases starts : CompensationStarts env context.sagaId entry.2
        · rw [begun.compensated_indices [entry.2] rolledBack (started starts)]
          exact compensates_in_order_of_split begun split undone _ (.inr rfl)
        · rw [begun.compensated_indices [] rolledBack (by simpa using silent starts)]
          exact compensates_in_order_of_split begun split undone _ (.inl rfl)
    · obtain ⟨failure, unloaded⟩ := run_compensate_unloaded _ saga context' executed start loads
      have unchanged : RolledBack env context.sagaId [] [] start start := RolledBack.refl start
      rw [unloaded, begun.compensated_indices [] unchanged (by simp)]
      exact CompensatesInOrder.nil stop
  · obtain ⟨failure, after, ran, ⟨last, trace, -⟩, -, -⟩ :=
      run_execute_saga_halts stopped rollsBack
    rw [ran, World.events_since_append trace, compensated_indices_executes]
    exact CompensatesInOrder.nil stop

/-! ## Final states -/

/-- Of the steps recorded `Completed` when the rollback started, the chosen
ones end `Compensated` and the others stay `Completed`. -/
def CompensatedExactly (context : SagaContext) (world : World) (stop : Nat) (after : World)
    (chosen : Nat → Prop) : Prop :=
  ∀ i, RecordedCompleted world.store context.sagaId i ∨ i < stop →
    (chosen i → RecordedCompensated after.store context.sagaId i ∧
      ¬RecordedCompleted after.store context.sagaId i) ∧
    (¬chosen i → RecordedCompleted after.store context.sagaId i)

theorem RollbackStart.unique_completed {stop : Nat} {start : World}
    (begun : RollbackStart context world stop start)
    (history : ResumeHistory context.sagaId world) :
    UniqueCompleted start.store.steps context.sagaId := by
  obtain ⟨rows, steps, appended⟩ := begun.steps
  rw [steps]
  exact unique_completed_append history.unique_completed appended

theorem compensated_exactly_of_rolled_back {stop : Nat} {start middle after : World}
    {indices : List Nat} (begun : RollbackStart context world stop start)
    (history : ResumeHistory context.sagaId world)
    (rolledBack : RolledBack env context.sagaId (completedRecords start.store context.sagaId)
      indices start middle)
    (steps : after.store.steps = middle.store.steps) :
    CompensatedExactly context world stop after (· ∈ indices) := by
  intro i known
  have recorded := (begun.recorded i).mpr known
  unfold RecordedCompleted RecordedCompensated
  rw [steps]
  constructor
  · intro listed
    exact ⟨rolledBack.recorded_compensated listed recorded,
      rolledBack.not_recorded_completed (begun.unique_completed history) listed⟩
  · intro unlisted
    exact (rolledBack.recorded_or_listed recorded).resolve_right unlisted

theorem CompensatedExactly.congr {stop : Nat} {after : World} {chosen other : Nat → Prop}
    (exactly : CompensatedExactly context world stop after chosen)
    (same : ∀ i, chosen i ↔ other i) : CompensatedExactly context world stop after other := by
  intro i known
  rw [← same i]
  exact exactly i known

theorem RolledBack.present {sagaId : SagaId} {completedSteps : List SagaStepData}
    {indices : List Nat} {before after : World}
    (rolledBack : RolledBack env sagaId completedSteps indices before after)
    (present : before.store.findRow sagaId ≠ none) : after.store.findRow sagaId ≠ none := by
  unfold SagaStore.findRow at present ⊢
  rw [rolledBack.sagas]
  exact present

/-! ## The repository calls of a rollback -/

/-- The committed step from which the rollback goes no further: its compensation
fails, and no higher one does. -/
structure HighestFailing (env : Env) (saga : Saga) (context : SagaContext) (world : World)
    (stop failing : Nat) (reason : SagaError) : Prop where
  committed : Committed saga context world stop failing
  fails : (env.saga context.sagaId).compensation failing = .error reason
  higher : ∀ i, failing < i → Committed saga context world stop i →
    (env.saga context.sagaId).compensation i = .ok ()

def CompensationsSucceed (env : Env) (saga : Saga) (context : SagaContext) (world : World)
    (stop : Nat) : Prop :=
  ∀ i, Committed saga context world stop i → (env.saga context.sagaId).compensation i = .ok ()

theorem compensations_succeed_or_highest_failing (env : Env) (saga : Saga)
    (context : SagaContext) (world : World) (stop : Nat) :
    CompensationsSucceed env saga context world stop ∨
      ∃ failing reason, HighestFailing env saga context world stop failing reason := by
  have bounded : ∀ i, Committed saga context world stop i → i < saga.steps.length := by
    intro i committed
    obtain ⟨step, position, -⟩ := committed.1
    exact (List.getElem?_eq_some_iff.mp position).1
  rcases all_below_or_last (fun i => Committed saga context world stop i →
      (env.saga context.sagaId).compensation i = .ok ()) saga.steps.length with
    all | ⟨failing, below, fails, higher⟩
  · exact .inl fun i committed => all i (bounded i committed) committed
  · obtain ⟨committed, notOk⟩ := Classical.not_imp.mp fails
    cases outcome : (env.saga context.sagaId).compensation failing with
    | ok passed => exact absurd outcome notOk
    | error reason =>
        exact .inr ⟨failing, reason, committed, outcome,
          fun i above known => higher i above (bounded i known) known⟩

/-- The calls that this rollback makes are answered: the failure is recorded and
the records load; every compensation that the loop gets to can start, and is
committed if it returns `Ok`; a failed one is rolled back and the saga marked
failed; and the saga is marked completed if none fails. -/
structure RollbackAnswered (env : Env) (saga : Saga) (context : SagaContext) (world : World)
    (stop : Nat) : Prop where
  recorded : Clean env context.sagaId (.step stop) [.rollback] ∧
    Clean env context.sagaId (.stepFailed stop) failCalls
  loaded : (env.saga context.sagaId).loadFault .compensation = none
  undone : ∀ i, Committed saga context world stop i →
    (∀ other, i ≤ other → Committed saga context world stop other →
      (env.saga context.sagaId).compensation other = .ok ()) →
    CompensationStarts env context.sagaId i ∧
      Clean env context.sagaId (.compensation i) finishCompensationCalls
  abandoned : ∀ failing reason, HighestFailing env saga context world stop failing reason →
    CompensationStarts env context.sagaId failing ∧
      Clean env context.sagaId (.compensation failing) [.rollback] ∧
      Clean env context.sagaId (.compensationFailed failing) stateCalls
  completed : CompensationsSucceed env saga context world stop →
    Clean env context.sagaId .compensated stateCalls

theorem RollbackAnswered.undone_above {stop failing : Nat}
    (answered : RollbackAnswered env saga context world stop)
    (higher : ∀ i, failing < i → Committed saga context world stop i →
      (env.saga context.sagaId).compensation i = .ok ()) :
    ∀ i, failing < i → Committed saga context world stop i → Undone env context.sagaId i := by
  intro i above committed
  have calls := answered.undone i committed fun other floor known =>
    higher other (Nat.lt_of_lt_of_le above floor) known
  exact ⟨calls.1, higher i above committed, calls.2⟩

section Answered

variable {stop : Nat} (stopped : StopsAt config env saga context world stop)
  (rollsBack : RollsBack config env context.sagaId stop)
  (history : ResumeHistory context.sagaId world)
  (answered : RollbackAnswered env saga context world stop)

include stopped rollsBack history answered

theorem answered_rollback_undoes_all (succeed : CompensationsSucceed env saga context world stop) :
    let outcome := runSaga env (executeSaga config saga context) world
    let undone := compensatedIndices context.sagaId (world.eventsSince outcome.2)
    (∀ i, i ∈ undone ↔ Committed saga context world stop i) ∧
    (∃ result, outcome.1 = .ok result ∧ result.compensationsExecuted = undone.length) ∧
    CompensatedExactly context world stop outcome.2 (Committed saga context world stop) ∧
    outcome.2.store.persistedState context.sagaId = some .completed := by
  obtain ⟨context', executed, start, handed, begun⟩ :=
    run_execute_saga_rolls_back stopped rollsBack
  have allUndone : ∀ entry ∈ targetEntries saga start.store context.sagaId,
      Undone env context.sagaId entry.2 := by
    intro entry member
    have committed := (begun.mem_rollback_indices_iff saga entry.2).mp
      (List.mem_map_of_mem member)
    have calls := answered.undone entry.2 committed fun other _ known => succeed other known
    exact ⟨calls.1, succeed entry.2 committed, calls.2⟩
  obtain ⟨middle, rolledBack, marks, -⟩ := run_compensate_all context' executed
    answered.loaded allUndone
  have ran := handed.trans (marks (answered.completed succeed))
  have undone : compensatedIndices context.sagaId (world.eventsSince { middle with
      store := middle.store.updateState env.now context.sagaId .completed none }) = _ :=
    begun.compensated_indices [] rolledBack (by simp)
  rw [List.append_nil] at undone
  simp only [ran, undone]
  refine ⟨?_, ⟨_, rfl, by simp [SagaExecutionResult.compensated]⟩, ?_, ?_⟩
  · exact begun.mem_rollback_indices_iff saga
  · exact (compensated_exactly_of_rolled_back begun history rolledBack rfl).congr
      fun i => begun.mem_rollback_indices_iff saga i
  · exact SagaStore.persisted_state_updated (rolledBack.present begun.present) _ _ _

theorem answered_rollback_stops_at {failing : Nat} {reason : SagaError}
    (highest : HighestFailing env saga context world stop failing reason) :
    let outcome := runSaga env (executeSaga config saga context) world
    let undone := compensatedIndices context.sagaId (world.eventsSince outcome.2)
    (∀ i, i ∈ undone ↔ Committed saga context world stop i ∧ failing ≤ i) ∧
    CompensatedExactly context world stop outcome.2
      (fun i => Committed saga context world stop i ∧ failing < i) ∧
    outcome.2.store.persistedState context.sagaId = some .failed := by
  obtain ⟨context', executed, start, handed, begun⟩ :=
    run_execute_saga_rolls_back stopped rollsBack
  obtain ⟨starts, rolls, marks⟩ := answered.abandoned failing reason highest
  have first : FirstStop env saga context world stop failing := by
    refine ⟨highest.committed, answered.undone_above highest.higher, ?_⟩
    intro undone
    have fails := highest.fails
    rw [undone.2.1] at fails
    cases fails
  obtain ⟨block, step, rest, split, undone⟩ := first_stop_split begun first
  obtain ⟨middle, failure, after, rolledBack, ran, steps, started, -, abandoned⟩ :=
    run_compensate_stops context' executed answered.loaded split undone first.stops
  have ordered := split_targets begun split
  have invoked := begun.compensated_indices [failing] rolledBack (started starts)
  simp only [handed.trans ran, invoked]
  refine ⟨?_, ?_, ?_⟩
  · intro i
    rw [List.mem_append, List.mem_singleton, (ordered i).1]
    constructor
    · intro either
      rcases either with ⟨known, above⟩ | same
      · exact ⟨known, Nat.le_of_lt above⟩
      · rw [same]
        exact ⟨highest.committed, Nat.le_refl failing⟩
    · intro ⟨known, floor⟩
      rcases Nat.lt_or_eq_of_le floor with above | same
      · exact .inl ⟨known, above⟩
      · exact .inr same.symm
  · exact (compensated_exactly_of_rolled_back begun history rolledBack steps).congr
      fun i => (ordered i).1
  · rw [abandoned reason starts highest.fails]
    unfold abandonedStore failedStore
    rw [if_pos rolls, if_pos marks]
    exact SagaStore.persisted_state_updated (rolledBack.present begun.present) _ _ _

end Answered

/-! ## The rollback that a failed step calls for -/

/-- The committed steps are compensated from the last index down, once each, up
to the first that fails, and the records and the saga row end as that order
says. -/
def CompensatesCommitted (config : PostgresSagaOrchestratorConfig) (env : Env) (saga : Saga)
    (context : SagaContext) (world : World) (stop : Nat) : Prop :=
  let outcome := runSaga env (executeSaga config saga context) world
  let undone := compensatedIndices context.sagaId (world.eventsSince outcome.2)
  let committed := Committed saga context world stop
  CompensatesInOrder env saga context world stop undone ∧
  (CompensationsSucceed env saga context world stop →
    (∀ i, i ∈ undone ↔ committed i) ∧
    (∃ result, outcome.1 = .ok result ∧ result.compensationsExecuted = undone.length) ∧
    CompensatedExactly context world stop outcome.2 committed ∧
    outcome.2.store.persistedState context.sagaId = some .completed) ∧
  ∀ failing reason, HighestFailing env saga context world stop failing reason →
    (∀ i, i ∈ undone ↔ committed i ∧ failing ≤ i) ∧
    CompensatedExactly context world stop outcome.2 (fun i => committed i ∧ failing < i) ∧
    outcome.2.store.persistedState context.sagaId = some .failed

section Owed

variable {stop : Nat} (owed : CompensatesCommitted config env saga context world stop)

include owed

/-- A call that returns an error without a compensation owes one, or `Ok`. -/
theorem not_silent_of_compensates_committed {failure : DomainError} {after : World}
    (ran : runSaga env (executeSaga config saga context) world = (.error failure, after)) :
    compensatedIndices context.sagaId (world.eventsSince after) ≠ [] := by
  intro silent
  obtain ⟨-, whenAll, whenFailing⟩ := owed
  rw [ran] at whenAll whenFailing
  rcases compensations_succeed_or_highest_failing env saga context world stop with
    succeed | ⟨failing, reason, highest⟩
  · obtain ⟨-, ⟨result, returned, -⟩, -⟩ := whenAll succeed
    cases returned
  · have member := ((whenFailing failing reason highest).1 failing).mpr
      ⟨highest.committed, Nat.le_refl failing⟩
    dsimp only at member
    rw [silent] at member
    cases member

theorem rolls_back_of_compensates_committed
    (stopped : StopsAt config env saga context world stop) :
    RollsBack config env context.sagaId stop := by
  by_contra halts
  obtain ⟨failure, after, ran, ⟨last, trace, -⟩, -, -⟩ := run_execute_saga_halts stopped halts
  apply not_silent_of_compensates_committed owed ran
  rw [World.events_since_append trace, compensated_indices_executes]

section Begun

variable {context' : SagaContext} {executed : Nat} {start : World}
  (handed : runSaga env (executeSaga config saga context) world =
    runSaga env (compensate saga context.sagaId context' executed) start)
  (begun : RollbackStart context world stop start)

include handed begun

theorem loads_of_compensates_committed :
    (env.saga context.sagaId).loadFault .compensation = none := by
  by_contra faulted
  obtain ⟨failure, unloaded⟩ := run_compensate_unloaded env saga context' executed start faulted
  have unchanged : RolledBack env context.sagaId [] [] start start := RolledBack.refl start
  apply not_silent_of_compensates_committed owed (handed.trans unloaded)
  exact begun.compensated_indices [] unchanged (by simp)

theorem all_undone_of_compensates_committed
    (succeed : CompensationsSucceed env saga context world stop) :
    (∀ i, Committed saga context world stop i → Undone env context.sagaId i) ∧
      Clean env context.sagaId .compensated stateCalls := by
  have loads := loads_of_compensates_committed owed handed begun
  obtain ⟨-, ⟨result, returned, -⟩, -⟩ := owed.2.1 succeed
  rcases all_undone_or_first_stop env saga begun with all | ⟨index, first⟩
  · refine ⟨all, ?_⟩
    by_contra faulted
    obtain ⟨middle, -, -, faults⟩ := run_compensate_all context' executed loads
      fun entry member => all entry.2
        ((begun.mem_rollback_indices_iff saga entry.2).mp (List.mem_map_of_mem member))
    obtain ⟨failure, unmarked⟩ := faults faulted
    rw [handed.trans unmarked] at returned
    cases returned
  · obtain ⟨block, step, rest, split, undone⟩ := first_stop_split begun first
    obtain ⟨middle, failure, after, -, ran, -⟩ :=
      run_compensate_stops context' executed loads split undone first.stops
    rw [handed.trans ran] at returned
    cases returned

theorem abandoned_of_compensates_committed {failing : Nat} {reason : SagaError}
    (highest : HighestFailing env saga context world stop failing reason) :
    (∀ i, failing < i → Committed saga context world stop i → Undone env context.sagaId i) ∧
      CompensationStarts env context.sagaId failing ∧
      Clean env context.sagaId (.compensation failing) [.rollback] ∧
      Clean env context.sagaId (.compensationFailed failing) stateCalls := by
  have loads := loads_of_compensates_committed owed handed begun
  obtain ⟨invoked, -, state⟩ := owed.2.2 failing reason highest
  have failed : ¬Undone env context.sagaId failing := by
    intro undone
    have fails := highest.fails
    rw [undone.2.1] at fails
    cases fails
  rcases all_undone_or_first_stop env saga begun with all | ⟨index, first⟩
  · exact absurd (all failing highest.committed) failed
  · obtain ⟨block, step, rest, split, undone⟩ := first_stop_split begun first
    obtain ⟨middle, failure, after, rolledBack, ran, -, started, silent, abandoned⟩ :=
      run_compensate_stops context' executed loads split undone first.stops
    have ordered := split_targets begun split
    have member := (invoked failing).mpr ⟨highest.committed, Nat.le_refl failing⟩
    rw [handed.trans ran] at member state
    -- The loop got to `failing`, so it stopped there and not above.
    have same : index = failing ∧ CompensationStarts env context.sagaId index := by
      by_cases starts : CompensationStarts env context.sagaId index
      · rw [begun.compensated_indices [index] rolledBack (started starts), List.mem_append,
          List.mem_singleton] at member
        rcases member with above | here
        · have higher := ((ordered failing).1.mp above).2
          exact absurd (first.higher failing higher highest.committed) failed
        · exact ⟨here.symm, starts⟩
      · rw [begun.compensated_indices [] rolledBack (by simpa using silent starts),
          List.append_nil] at member
        have higher := ((ordered failing).1.mp member).2
        exact absurd (first.higher failing higher highest.committed) failed
    obtain ⟨rfl, starts⟩ := same
    refine ⟨first.higher, starts, ?_⟩
    have unmarked : middle.store.persistedState context.sagaId = some .compensating := by
      rw [← begun.compensating]
      unfold SagaStore.persistedState SagaStore.findRow
      rw [rolledBack.sagas]
    rw [abandoned reason starts highest.fails] at state
    unfold abandonedStore failedStore at state
    split_ifs at state with rolls marks
    · exact ⟨rolls, marks⟩
    · rw [unmarked] at state
      cases state
    · rw [unmarked] at state
      cases state

end Begun

theorem rollback_answered_of_compensates_committed
    (stopped : StopsAt config env saga context world stop) :
    RollbackAnswered env saga context world stop := by
  have rollsBack := rolls_back_of_compensates_committed owed stopped
  obtain ⟨context', executed, start, handed, begun⟩ :=
    run_execute_saga_rolls_back stopped rollsBack
  have whenAll := all_undone_of_compensates_committed owed handed begun
  constructor
  · exact rollsBack.2.2
  · exact loads_of_compensates_committed owed handed begun
  · intro i committed higher
    have undone : Undone env context.sagaId i := by
      rcases compensations_succeed_or_highest_failing env saga context world stop with
        succeed | ⟨failing, reason, highest⟩
      · exact (whenAll succeed).1 i committed
      · apply (abandoned_of_compensates_committed owed handed begun highest).1 i _ committed
        by_contra under
        have passed := higher failing (Nat.not_lt.mp under) highest.committed
        rw [highest.fails] at passed
        cases passed
    exact ⟨undone.1, undone.2.2⟩
  · intro failing reason highest
    exact (abandoned_of_compensates_committed owed handed begun highest).2
  · intro succeed
    exact (whenAll succeed).2

end Owed

/-- A call whose step returned `Err` compensates committed steps in order, and all
that it owes exactly when the repository calls of its rollback are answered. -/
theorem failed_step_compensates_committed_steps (config : PostgresSagaOrchestratorConfig)
    (env : Env) (saga : Saga) (context : SagaContext) (world : World) (stop : Nat)
    (error : SagaError) (history : ResumeHistory context.sagaId world)
    (invoked : stop ∈ executedIndices context.sagaId
      (world.eventsSince (runSaga env (executeSaga config saga context) world).2))
    (failed : (env.saga context.sagaId).outcome stop = .err error) :
    CompensatesInOrder env saga context world stop (compensatedIndices context.sagaId
        (world.eventsSince (runSaga env (executeSaga config saga context) world).2)) ∧
      (CompensatesCommitted config env saga context world stop ↔
        RollbackAnswered env saga context world stop) := by
  obtain ⟨stopped, started⟩ := failed_step_is_stop invoked failed
  refine ⟨stopped_call_compensates_in_order stopped, ?_, ?_⟩
  · intro owed
    exact rollback_answered_of_compensates_committed owed stopped
  · intro answered
    have rollsBack : RollsBack config env context.sagaId stop :=
      ⟨started, ⟨error, failed⟩, answered.recorded⟩
    refine ⟨stopped_call_compensates_in_order stopped, ?_, ?_⟩
    · exact answered_rollback_undoes_all stopped rollsBack history answered
    · intro failing reason highest
      exact answered_rollback_stops_at stopped rollsBack history answered highest

/-- The third of three steps fails; the second declares no compensation. -/
def thirdStepFails : Env :=
  .quiet { CallEnv.quiet with
    outcome := fun index => if index = 2 then .err .cancelled else .ok }

def threeSteps : Saga :=
  ⟨.recovery, [⟨"ProvisionNewWorker", true⟩, ⟨"TransferJob", false⟩, ⟨"CancelOldWorker", true⟩]⟩

theorem third_step_failure_compensates_first :
    let outcome := runSaga thirdStepFails
      (executeSaga {} threeSteps (.new ⟨7⟩ .recovery none none 0)) .empty
    compensatedIndices ⟨7⟩ (World.empty.eventsSince outcome.2) = [0] ∧
      RecordedCompensated outcome.2.store ⟨7⟩ 0 ∧ RecordedCompleted outcome.2.store ⟨7⟩ 1 ∧
      outcome.2.store.persistedState ⟨7⟩ = some .completed := by
  have answered : RollbackAnswered thirdStepFails threeSteps (.new ⟨7⟩ .recovery none none 0)
      .empty 2 :=
    ⟨⟨fun _ _ => rfl, fun _ _ => rfl⟩, rfl, fun _ _ _ => ⟨fun _ _ => rfl, fun _ _ => rfl⟩,
      fun _ _ _ => ⟨fun _ _ => rfl, fun _ _ => rfl, fun _ _ => rfl⟩, fun _ _ _ => rfl⟩
  have general := failed_step_compensates_committed_steps {} thirdStepFails threeSteps
    (.new ⟨7⟩ .recovery none none 0) .empty 2 .cancelled
    (.fresh _ fun row member => absurd member List.not_mem_nil) (by decide) rfl
  have owed := general.2.mpr answered
  obtain ⟨-, -, states, row⟩ := owed.2.1 fun _ _ => rfl
  refine ⟨by decide, ?_, ?_, row⟩
  · exact ((states 0 (.inr (by decide))).1 ⟨⟨_, rfl, rfl⟩, .inr (by decide)⟩).1
  · apply (states 1 (.inr (by decide))).2
    intro committed
    obtain ⟨step, position, compensable⟩ := committed.1
    cases position
    cases compensable

/-- The third step fails and its transaction cannot be rolled back. -/
def unrecordedFailure : Env :=
  .quiet { CallEnv.quiet with
    outcome := fun index => if index = 2 then .err .cancelled else .ok
    fault := fun label call =>
      if label = .step 2 ∧ call = .rollback then some "connection closed" else none }

theorem unrecorded_failure_compensates_nothing :
    ¬CompensatesCommitted {} unrecordedFailure threeSteps (.new ⟨7⟩ .recovery none none 0)
      .empty 2 := by
  intro owed
  have undone := ((owed.2.1 fun _ _ => rfl).1 0).mpr ⟨⟨_, rfl, rfl⟩, .inr (by decide)⟩
  exact absurd undone (by decide)

end HodeiJobs.Sagas
