import HodeiJobs.Sagas.Compensation

/-!
# Calls that do not complete

A call that does not complete either is refused, or runs out of indices and
cannot mark the saga completed, or stops at its first index that does not run.
Only a step that returns `Err` and whose failure is recorded starts the
rollback; every other stop returns with the committed steps as they are.
-/

namespace HodeiJobs.Sagas

open HodeiJobs.Library HodeiJobs.Library.Program

/-- `stop` is the first index that does not run. -/
structure StopsAt (config : PostgresSagaOrchestratorConfig) (env : Env) (saga : Saga)
    (context : SagaContext) (world : World) (stop : Nat) : Prop where
  entered : Entered env context.sagaId
  below : stop < saga.steps.length
  earlier : ∀ i < stop, Runs config env context.sagaId
    (world.store.findStepsBySagaId context.sagaId) i
  stops : ¬Runs config env context.sagaId (world.store.findStepsBySagaId context.sagaId) stop

variable {config : PostgresSagaOrchestratorConfig} {env : Env} {saga : Saga}
  {context : SagaContext} {world : World} {stop : Nat}

theorem StopsAt.pending (stopped : StopsAt config env saga context world stop) :
    completedAt (world.store.findStepsBySagaId context.sagaId) stop = false := by
  rw [← Bool.not_eq_true]
  intro recorded
  exact stopped.stops (.inl recorded)

theorem refused_or_runs_or_stops (config : PostgresSagaOrchestratorConfig) (env : Env)
    (saga : Saga) (context : SagaContext) (world : World) :
    ¬Entered env context.sagaId ∨
      (Entered env context.sagaId ∧ ∀ i < saga.steps.length, Runs config env context.sagaId
        (world.store.findStepsBySagaId context.sagaId) i) ∨
      ∃ stop, StopsAt config env saga context world stop := by
  by_cases entered : Entered env context.sagaId
  · rcases all_below_or_first (Runs config env context.sagaId
      (world.store.findStepsBySagaId context.sagaId)) saga.steps.length with
      all | ⟨stop, below, earlier, stops⟩
    · exact .inr (.inl ⟨entered, all⟩)
    · exact .inr (.inr ⟨stop, entered, below, earlier, stops⟩)
  · exact .inl entered

theorem StopsAt.unique {other : Nat} (stopped : StopsAt config env saga context world stop)
    (again : StopsAt config env saga context world other) : other = stop := by
  rcases Nat.lt_trichotomy other stop with before | same | after
  · exact absurd (stopped.earlier other before) again.stops
  · exact same
  · exact absurd (again.earlier stop after) stopped.stops

/-- The indices whose step the call executes when it stops at `stop` there. -/
def executedBefore (context : SagaContext) (world : World) (stop : Nat) : List Nat :=
  pendingIndices (world.store.findStepsBySagaId context.sagaId) 0 stop

theorem run_execute_saga_halts (stopped : StopsAt config env saga context world stop)
    (abandons : ¬RollsBack config env context.sagaId stop) :
    ∃ failure after, runSaga env (executeSaga config saga context) world =
        (.error failure, after) ∧
      (∃ last : List Nat,
        after.trace = world.trace ++ (executedBefore context world stop ++ last).map
          (SagaEvent.execute context.sagaId) ∧
        ((Started config env context.sagaId stop ∧ last = [stop]) ∨
          (¬Started config env context.sagaId stop ∧ last = []))) ∧
      (∃ rows, after.store.steps = world.store.steps ++ rows ∧
        AppendedRows context.sagaId (executedBefore context world stop) rows) ∧
      ∀ index, RecordedCompleted after.store context.sagaId index ↔
        RecordedCompleted world.store context.sagaId index ∨ index < stop := by
  have below := stopped.below
  obtain ⟨context', executed, reachedWorld, reached, progress⟩ := run_execute_saga_reaches context
    world stop stopped.entered (Nat.le_of_lt stopped.below) stopped.earlier
  obtain ⟨failure, after, ended, halted⟩ := run_steps_halt saga
    saga.steps[stop] (saga.steps.drop (stop + 1)) context' executed reachedWorld
    stopped.stops abandons
  refine ⟨failure, after, ?_, ?_, ?_, ?_⟩
  · rw [reached, List.drop_eq_getElem_cons stopped.below, ended]
  · by_cases started : Started config env context.sagaId stop
    · refine ⟨[stop], ?_, .inl ⟨started, rfl⟩⟩
      rw [halted.invocation started, progress.trace, List.map_append, ← List.append_assoc]
      rfl
    · refine ⟨[], ?_, .inr ⟨started, rfl⟩⟩
      rw [halted.silence started, progress.trace, List.append_nil]
      rfl
  · rw [halted.steps, ← entered_world_steps env context world]
    exact progress.steps
  · intro index
    rw [← recorded_at_stop progress]
    unfold RecordedCompleted
    rw [halted.steps]

/-- Every index runs: whether or not the saga can be marked completed, each
pending index was executed and has its record. -/
theorem run_execute_saga_runs_out (entered : Entered env context.sagaId)
    (all : ∀ i < saga.steps.length, Runs config env context.sagaId
      (world.store.findStepsBySagaId context.sagaId) i) :
    (runSaga env (executeSaga config saga context) world).2.trace = world.trace ++
        (executedBefore context world saga.steps.length).map (SagaEvent.execute context.sagaId) ∧
      ∃ rows, (runSaga env (executeSaga config saga context) world).2.store.steps =
          world.store.steps ++ rows ∧
        AppendedRows context.sagaId (executedBefore context world saga.steps.length) rows := by
  obtain ⟨context', executed, after, reached, progress⟩ :=
    run_execute_saga_reaches context world saga.steps.length entered (Nat.le_refl _) all
  have ended := run_steps_end config env saga context.sagaId (world.store.findStepsBySagaId
    context.sagaId) context' executed saga.steps.length after
  rw [reached, List.drop_length, ← entered_world_steps env context world]
  unfold runSaga
  by_cases clean : Clean env context.sagaId .completed stateCalls
  · rw [ended.passes clean]
    exact ⟨progress.trace, progress.steps⟩
  · obtain ⟨failure, stopped⟩ := ended.stops clean
    rw [stopped]
    exact ⟨progress.trace, progress.steps⟩

/-- The world in which the rollback of a call starts. -/
structure RollbackStart (context : SagaContext) (world : World) (stop : Nat) (start : World) :
    Prop where
  trace : start.trace = world.trace ++
    (executedBefore context world stop ++ [stop]).map (SagaEvent.execute context.sagaId)
  steps : ∃ rows, start.store.steps = world.store.steps ++ rows ∧
    AppendedRows context.sagaId (executedBefore context world stop) rows
  recorded : ∀ index, RecordedCompleted start.store context.sagaId index ↔
    RecordedCompleted world.store context.sagaId index ∨ index < stop
  compensating : start.store.persistedState context.sagaId = some .compensating

theorem RollbackStart.present {start : World} (begun : RollbackStart context world stop start) :
    start.store.findRow context.sagaId ≠ none := by
  intro missing
  have state := begun.compensating
  unfold SagaStore.persistedState at state
  rw [missing] at state
  cases state

theorem entered_world_present (env : Env) (context : SagaContext) (world : World) :
    (enteredWorld env context world).store.findRow context.sagaId ≠ none := by
  intro missing
  have written : (enteredWorld env context world).store.persistedState context.sagaId =
      some context.state := by
    unfold enteredWorld
    rw [SagaStore.persisted_state_save, if_pos rfl]
  unfold SagaStore.persistedState at written
  rw [missing] at written
  cases written

theorem run_execute_saga_rolls_back (stopped : StopsAt config env saga context world stop)
    (rollsBack : RollsBack config env context.sagaId stop) :
    ∃ context' executed start,
      runSaga env (executeSaga config saga context) world =
        runSaga env (compensate saga context.sagaId context' executed) start ∧
      RollbackStart context world stop start := by
  have below := stopped.below
  obtain ⟨context', executed, reachedWorld, reached, progress⟩ := run_execute_saga_reaches context
    world stop stopped.entered (Nat.le_of_lt stopped.below) stopped.earlier
  obtain ⟨context'', start, handed, steps, trace, present⟩ := run_steps_roll_back saga _
    saga.steps[stop] (saga.steps.drop (stop + 1)) context' executed reachedWorld
    stopped.pending rollsBack
  refine ⟨context'', executed, start, ?_, ?_, ?_, ?_, ?_⟩
  · rw [reached, List.drop_eq_getElem_cons stopped.below, handed]
  · rw [trace, progress.trace, List.map_append, ← List.append_assoc]
    rfl
  · rw [steps, ← entered_world_steps env context world]
    exact progress.steps
  · intro index
    rw [← recorded_at_stop progress]
    unfold RecordedCompleted
    rw [steps]
  · exact present (progress.present (entered_world_present env context world))

/-! ## The obligation to roll back -/

/-- A compensable step that is recorded `Completed` when the call has got to
`stop`. -/
def Committed (saga : Saga) (context : SagaContext) (world : World) (stop index : Nat) : Prop :=
  Compensable saga index ∧
    (RecordedCompleted world.store context.sagaId index ∨ index < stop)

/-- Unless the call completes, `compensate()` was invoked on every compensable
step that was recorded `Completed` before or at the end of it. A record that
is `Completed` only in between has been compensated. -/
def RollbackAttempted (config : PostgresSagaOrchestratorConfig) (env : Env) (saga : Saga)
    (context : SagaContext) (world : World) : Prop :=
  let outcome := runSaga env (executeSaga config saga context) world
  (∀ result, outcome.1 = .ok result → result.state ≠ .completed) →
    ∀ index, Compensable saga index →
      RecordedCompleted world.store context.sagaId index ∨
        RecordedCompleted outcome.2.store context.sagaId index →
      index ∈ compensatedIndices context.sagaId (world.eventsSince outcome.2)

/-- An exit that invokes no compensation meets the obligation exactly when
nothing was committed. -/
theorem rollback_attempted_of_silent_exit (indices : List Nat) {failure : DomainError}
    {after : World}
    (ran : runSaga env (executeSaga config saga context) world = (.error failure, after))
    (trace : after.trace = world.trace ++ indices.map (SagaEvent.execute context.sagaId))
    (recorded : ∀ index, RecordedCompleted after.store context.sagaId index ↔
      RecordedCompleted world.store context.sagaId index ∨ index < stop) :
    RollbackAttempted config env saga context world ↔
      ∀ index, ¬Committed saga context world stop index := by
  have silent : compensatedIndices context.sagaId (world.eventsSince after) = [] := by
    rw [World.events_since_append trace, compensated_indices_executes]
  simp only [RollbackAttempted, ran, silent, List.not_mem_nil]
  constructor
  · intro attempted index committed
    apply attempted _ index committed.1 (.inr ((recorded index).mpr committed.2))
    intro result returned
    cases returned
  · intro nothing _ index compensable found
    apply nothing index ⟨compensable, ?_⟩
    rcases found with before | after
    · exact .inl before
    · exact (recorded index).mp after

/-- The rollback of a call that stops at `stop` gets to every committed step:
the records load, each compensation starts, and each but the lowest is undone. -/
def RollbackReachesAll (env : Env) (saga : Saga) (context : SagaContext) (world : World)
    (stop : Nat) : Prop :=
  (env.saga context.sagaId).loadFault .compensation = none ∧
    ∀ index, Committed saga context world stop index →
      CompensationStarts env context.sagaId index ∧
        ∀ lower < index, Committed saga context world stop lower →
          Undone env context.sagaId index

theorem RollbackStart.mem_rollback_indices_iff (saga : Saga) {start : World}
    (begun : RollbackStart context world stop start) (index : Nat) :
    index ∈ rollbackIndices saga start.store context.sagaId ↔
      Committed saga context world stop index := by
  rw [mem_rollback_indices, begun.recorded]
  rfl

theorem RollbackStart.compensated_indices (tail : List Nat) {start middle after : World}
    {indices : List Nat} {completedSteps : List SagaStepData}
    (begun : RollbackStart context world stop start)
    (rolledBack : RolledBack env context.sagaId completedSteps indices start middle)
    (trace : after.trace = middle.trace ++ tail.map (SagaEvent.compensate context.sagaId)) :
    compensatedIndices context.sagaId (world.eventsSince after) = indices ++ tail := by
  have extended : after.trace = world.trace ++
      ((executedBefore context world stop ++ [stop]).map (SagaEvent.execute context.sagaId) ++
        (indices ++ tail).map (SagaEvent.compensate context.sagaId)) := by
    rw [trace, rolledBack.trace, begun.trace]
    simp only [List.map_append, List.append_assoc]
  rw [World.events_since_append extended, compensated_indices_append,
    compensated_indices_executes, compensated_indices_compensates, List.nil_append]

/-- A call that rolls back meets the obligation exactly when it compensates
every committed step. -/
theorem rollback_attempted_of_rollback (env : Env) (config : PostgresSagaOrchestratorConfig)
    (saga : Saga) (tail : List Nat) {start middle after : World}
    {outcome : Except DomainError SagaExecutionResult} {indices : List Nat}
    (begun : RollbackStart context world stop start)
    (ran : runSaga env (executeSaga config saga context) world = (outcome, after))
    (never : ∀ result, outcome = .ok result → result.state ≠ .completed)
    (rolledBack : RolledBack env context.sagaId (completedRecords start.store context.sagaId)
      indices start middle)
    (steps : after.store.steps = middle.store.steps)
    (trace : after.trace = middle.trace ++ tail.map (SagaEvent.compensate context.sagaId)) :
    RollbackAttempted config env saga context world ↔
      ∀ index, Committed saga context world stop index → index ∈ indices ++ tail := by
  have compensated := begun.compensated_indices _ rolledBack trace
  have sameRecords : ∀ index, RecordedCompleted after.store context.sagaId index ↔
      RecordedCompleted middle.store context.sagaId index := by
    intro index
    unfold RecordedCompleted
    rw [steps]
  simp only [RollbackAttempted, ran, compensated]
  constructor
  · intro attempted index committed
    rcases rolledBack.recorded_or_listed ((begun.recorded index).mpr committed.2) with
      kept | listed
    · exact attempted never index committed.1 (.inr ((sameRecords index).mpr kept))
    · exact List.mem_append_left _ listed
  · intro covers _ index compensable found
    apply covers index ⟨compensable, ?_⟩
    rcases found with before | kept
    · exact .inl before
    · exact (begun.recorded index).mp
        (recorded_of_mark_rows rolledBack.steps ((sameRecords index).mp kept))

/-- `index` is the highest committed step whose compensation is not undone. -/
structure FirstStop (env : Env) (saga : Saga) (context : SagaContext) (world : World)
    (stop index : Nat) : Prop where
  committed : Committed saga context world stop index
  higher : ∀ other, index < other → Committed saga context world stop other →
    Undone env context.sagaId other
  stops : ¬Undone env context.sagaId index

/-- Where the loop stops, the committed indices before are higher and those
after lower. -/
theorem split_targets {start : World} (begun : RollbackStart context world stop start)
    {block rest : List (SagaStep × Nat)} {entry : SagaStep × Nat}
    (split : targetEntries saga start.store context.sagaId = block ++ entry :: rest)
    (index : Nat) :
    (index ∈ block.map Prod.snd ↔ Committed saga context world stop index ∧ entry.2 < index) ∧
      (index ∈ rest.map Prod.snd ↔
        Committed saga context world stop index ∧ index < entry.2) := by
  have ordered := rollback_indices_pairwise saga start.store context.sagaId
  have members := begun.mem_rollback_indices_iff saga index
  unfold rollbackIndices at ordered members
  rw [split, List.map_append, List.map_cons] at ordered members
  rw [List.pairwise_append] at ordered
  obtain ⟨-, tail, across⟩ := ordered
  have above : index ∈ block.map Prod.snd → entry.2 < index :=
    fun member => across index member entry.2 List.mem_cons_self
  have under : index ∈ rest.map Prod.snd → index < entry.2 :=
    (List.pairwise_cons.mp tail).1 index
  rw [List.mem_append, List.mem_cons] at members
  constructor
  · constructor
    · intro member
      exact ⟨members.mp (.inl member), above member⟩
    · intro ⟨committed, greater⟩
      rcases members.mpr committed with member | same | member
      · exact member
      · omega
      · have lower := under member
        omega
  · constructor
    · intro member
      exact ⟨members.mp (.inr (.inr member)), under member⟩
    · intro ⟨committed, less⟩
      rcases members.mpr committed with member | same | member
      · have higher := above member
        omega
      · omega
      · exact member

theorem first_stop_split {start : World} (begun : RollbackStart context world stop start)
    {index : Nat} (first : FirstStop env saga context world stop index) :
    ∃ block step rest,
      targetEntries saga start.store context.sagaId = block ++ (step, index) :: rest ∧
      ∀ entry ∈ block, Undone env context.sagaId entry.2 := by
  rcases all_members_or_first (fun entry => Undone env context.sagaId entry.2)
    (targetEntries saga start.store context.sagaId) with
    all | ⟨block, entry, rest, split, undone, stops⟩
  · have member := (begun.mem_rollback_indices_iff saga index).mpr first.committed
    obtain ⟨entry, listed, position⟩ := List.mem_map.mp member
    subst position
    exact absurd (all entry listed) first.stops
  · have position : entry.2 = index := by
      have entryCommitted : Committed saga context world stop entry.2 := by
        rw [← begun.mem_rollback_indices_iff, rollbackIndices, split]
        exact List.mem_map_of_mem (List.mem_append_right _ List.mem_cons_self)
      rcases Nat.lt_trichotomy entry.2 index with lower | same | higher
      · have listed := ((split_targets begun split index).1).mpr ⟨first.committed, lower⟩
        obtain ⟨other, member, same⟩ := List.mem_map.mp listed
        subst same
        exact absurd (undone other member) first.stops
      · exact same
      · exact absurd (first.higher entry.2 higher entryCommitted) stops
    subst position
    exact ⟨block, entry.1, rest, split, undone⟩

theorem all_undone_or_first_stop (env : Env) (saga : Saga) {start : World}
    (begun : RollbackStart context world stop start) :
    (∀ index, Committed saga context world stop index → Undone env context.sagaId index) ∨
      ∃ index, FirstStop env saga context world stop index := by
  rcases all_members_or_first (fun entry => Undone env context.sagaId entry.2)
    (targetEntries saga start.store context.sagaId) with
    all | ⟨block, entry, rest, split, undone, stops⟩
  · left
    intro index committed
    obtain ⟨entry, listed, position⟩ :=
      List.mem_map.mp ((begun.mem_rollback_indices_iff saga index).mpr committed)
    subst position
    exact all entry listed
  · refine .inr ⟨entry.2, ?_, ?_, stops⟩
    · rw [← begun.mem_rollback_indices_iff, rollbackIndices, split]
      exact List.mem_map_of_mem (List.mem_append_right _ List.mem_cons_self)
    · intro other higher committed
      obtain ⟨earlier, member, same⟩ :=
        List.mem_map.mp (((split_targets begun split other).1).mpr ⟨committed, higher⟩)
      subst same
      exact undone earlier member

theorem rollback_attempted_of_unloaded (stopped : StopsAt config env saga context world stop)
    (rollsBack : RollsBack config env context.sagaId stop)
    (faulted : (env.saga context.sagaId).loadFault .compensation ≠ none) :
    RollbackAttempted config env saga context world ↔
      ∀ index, ¬Committed saga context world stop index := by
  obtain ⟨context', executed, start, handed, begun⟩ :=
    run_execute_saga_rolls_back stopped rollsBack
  obtain ⟨failure, unloaded⟩ := run_compensate_unloaded env saga context' executed start faulted
  have attempted := rollback_attempted_of_rollback env config saga [] begun (handed.trans unloaded)
    (by intro result returned; cases returned) (RolledBack.refl start) rfl (by simp)
  simpa using attempted

theorem rollback_attempted_of_undone (stopped : StopsAt config env saga context world stop)
    (rollsBack : RollsBack config env context.sagaId stop)
    (loads : (env.saga context.sagaId).loadFault .compensation = none)
    (undone : ∀ index, Committed saga context world stop index →
      Undone env context.sagaId index) :
    RollbackAttempted config env saga context world := by
  obtain ⟨context', executed, start, handed, begun⟩ :=
    run_execute_saga_rolls_back stopped rollsBack
  have allUndone : ∀ entry ∈ targetEntries saga start.store context.sagaId,
      Undone env context.sagaId entry.2 := by
    intro entry member
    apply undone
    rw [← begun.mem_rollback_indices_iff]
    exact List.mem_map_of_mem member
  have covered : ∀ index, Committed saga context world stop index →
      index ∈ rollbackIndices saga start.store context.sagaId ++ [] := by
    intro index committed
    rw [List.append_nil, begun.mem_rollback_indices_iff]
    exact committed
  obtain ⟨middle, rolledBack, marks, faults⟩ := run_compensate_all context' executed loads allUndone
  by_cases clean : Clean env context.sagaId .compensated stateCalls
  · have never : ∀ result : SagaExecutionResult,
        (.ok (.compensated context.sagaId saga.sagaType
          ((env.saga context.sagaId).elapsed .result) executed
          (targetEntries saga start.store context.sagaId).length) :
            Except DomainError SagaExecutionResult) = .ok result →
          result.state ≠ .completed := by
      intro result returned
      cases returned
      intro completed
      cases completed
    exact (rollback_attempted_of_rollback _ _ _ [] begun (handed.trans (marks clean)) never
      rolledBack rfl (by simp)).mpr covered
  · obtain ⟨failure, unmarked⟩ := faults clean
    exact (rollback_attempted_of_rollback _ _ _ [] begun (handed.trans unmarked)
      (by intro result returned; cases returned) rolledBack rfl (by simp)).mpr covered

/-- A rollback that stops at `index` has attempted everything exactly when
`index` is the lowest committed step and its compensation was invoked. -/
theorem rollback_attempted_of_first_stop (stopped : StopsAt config env saga context world stop)
    (rollsBack : RollsBack config env context.sagaId stop)
    (loads : (env.saga context.sagaId).loadFault .compensation = none)
    {index : Nat} (first : FirstStop env saga context world stop index) :
    RollbackAttempted config env saga context world ↔
      CompensationStarts env context.sagaId index ∧
        ∀ lower < index, ¬Committed saga context world stop lower := by
  obtain ⟨context', executed, start, handed, begun⟩ :=
    run_execute_saga_rolls_back stopped rollsBack
  obtain ⟨block, step, rest, split, undone⟩ := first_stop_split begun first
  obtain ⟨middle, failure, after, rolledBack, ran, steps, started, silent, -⟩ :=
    run_compensate_stops context' executed loads split undone
      first.stops
  have ordered := split_targets begun split
  by_cases starts : CompensationStarts env context.sagaId index
  · rw [rollback_attempted_of_rollback _ _ _ [index] begun (handed.trans ran)
      (by intro result returned; cases returned) rolledBack steps (started starts)]
    constructor
    · intro covers
      refine ⟨starts, ?_⟩
      intro lower below committed
      rcases List.mem_append.mp (covers lower committed) with listed | single
      · have higher := ((ordered lower).1.mp listed).2
        exact absurd below (Nat.lt_asymm higher)
      · rw [List.mem_singleton] at single
        omega
    · intro ⟨_, lowest⟩ other committed
      rcases Nat.lt_trichotomy other index with below | same | above
      · exact absurd committed (lowest other below)
      · exact List.mem_append_right _ (List.mem_singleton.mpr same)
      · exact List.mem_append_left _ ((ordered other).1.mpr ⟨committed, above⟩)
  · rw [rollback_attempted_of_rollback _ _ _ [] begun (handed.trans ran)
      (by intro result returned; cases returned) rolledBack steps (by simpa using silent starts)]
    constructor
    · intro covers
      have listed := covers index first.committed
      rw [List.append_nil] at listed
      exact absurd ((ordered index).1.mp listed).2 (Nat.lt_irrefl index)
    · intro ⟨started, _⟩
      exact absurd started starts

/-! ## Exactly when nothing is abandoned -/

/-- The call completes, or nothing compensable is committed where it stops, or
it stops at a step that returned `Err` and the rollback reaches every
committed step. -/
def NothingAbandoned (config : PostgresSagaOrchestratorConfig) (env : Env) (saga : Saga)
    (context : SagaContext) (world : World) : Prop :=
  (¬Entered env context.sagaId ∧ ∀ index, ¬Committed saga context world 0 index) ∨
  (Entered env context.sagaId ∧
    (∀ i < saga.steps.length, Runs config env context.sagaId
      (world.store.findStepsBySagaId context.sagaId) i) ∧
    (Clean env context.sagaId .completed stateCalls ∨
      ∀ index, ¬Committed saga context world saga.steps.length index)) ∨
  ∃ stop, StopsAt config env saga context world stop ∧
    ((∀ index, ¬Committed saga context world stop index) ∨
      (RollsBack config env context.sagaId stop ∧
        RollbackReachesAll env saga context world stop))

theorem rollback_attempted_of_refused (refused : ¬Entered env context.sagaId) :
    RollbackAttempted config env saga context world ↔
      ∀ index, ¬Committed saga context world 0 index := by
  obtain ⟨failure, after, ran, steps, trace⟩ :=
    run_execute_saga_refused config saga context world refused
  apply rollback_attempted_of_silent_exit [] ran (by simpa using trace)
  intro index
  unfold RecordedCompleted
  rw [steps]
  simp

theorem rollback_attempted_of_runs (entered : Entered env context.sagaId)
    (all : ∀ i < saga.steps.length, Runs config env context.sagaId
      (world.store.findStepsBySagaId context.sagaId) i) :
    RollbackAttempted config env saga context world ↔
      (Clean env context.sagaId .completed stateCalls ∨
        ∀ index, ¬Committed saga context world saga.steps.length index) := by
  by_cases clean : Clean env context.sagaId .completed stateCalls
  · obtain ⟨result, after, ran, completed, -⟩ := run_execute_saga_completes entered all clean
    have attempted : RollbackAttempted config env saga context world := by
      simp only [RollbackAttempted, ran]
      intro never
      exact absurd completed (never result rfl)
    exact iff_of_true attempted (.inl clean)
  · obtain ⟨context', executed, after, reached, progress⟩ :=
      run_execute_saga_reaches context world saga.steps.length entered (Nat.le_refl _) all
    obtain ⟨failure, ended⟩ := (run_steps_end config _ saga _
      (world.store.findStepsBySagaId context.sagaId) context' executed saga.steps.length
      after).stops clean
    rw [List.drop_length] at reached
    rw [rollback_attempted_of_silent_exit _ (reached.trans ended) progress.trace
      (recorded_at_stop progress)]
    constructor
    · exact .inr
    · intro either
      rcases either with marked | nothing
      · exact absurd marked clean
      · exact nothing

theorem rollback_attempted_of_stop (stopped : StopsAt config env saga context world stop) :
    RollbackAttempted config env saga context world ↔
      ((∀ index, ¬Committed saga context world stop index) ∨
        (RollsBack config env context.sagaId stop ∧
          RollbackReachesAll env saga context world stop)) := by
  by_cases rollsBack : RollsBack config env context.sagaId stop
  · by_cases loads : (env.saga context.sagaId).loadFault .compensation = none
    · obtain ⟨-, -, start, -, begun⟩ := run_execute_saga_rolls_back stopped rollsBack
      rcases all_undone_or_first_stop env saga begun with all | ⟨index, first⟩
      · apply iff_of_true (rollback_attempted_of_undone stopped rollsBack loads all)
        refine .inr ⟨rollsBack, loads, ?_⟩
        intro other committed
        exact ⟨(all other committed).1, fun _ _ _ => all other committed⟩
      · rw [rollback_attempted_of_first_stop stopped rollsBack loads first]
        constructor
        · intro ⟨starts, lowest⟩
          refine .inr ⟨rollsBack, loads, ?_⟩
          intro other committed
          rcases Nat.lt_trichotomy other index with below | same | above
          · exact absurd committed (lowest other below)
          · subst same
            exact ⟨starts, fun lower below low => absurd low (lowest lower below)⟩
          · have undone := first.higher other above committed
            exact ⟨undone.1, fun _ _ _ => undone⟩
        · intro either
          rcases either with nothing | ⟨-, -, reaches⟩
          · exact absurd first.committed (nothing index)
          · refine ⟨(reaches index first.committed).1, ?_⟩
            intro lower below low
            exact first.stops ((reaches index first.committed).2 lower below low)
    · rw [rollback_attempted_of_unloaded stopped rollsBack loads]
      constructor
      · exact .inl
      · intro either
        rcases either with nothing | ⟨-, loaded, -⟩
        · exact nothing
        · exact absurd loaded loads
  · obtain ⟨failure, after, ran, ⟨last, trace, -⟩, -, recorded⟩ :=
      run_execute_saga_halts stopped rollsBack
    rw [rollback_attempted_of_silent_exit _ ran trace recorded]
    constructor
    · exact .inl
    · intro either
      rcases either with nothing | ⟨rolled, -⟩
      · exact nothing
      · exact absurd rolled rollsBack

/-- The obligation is met exactly on the calls that abandon nothing. -/
theorem rollback_attempted_iff_nothing_abandoned (config : PostgresSagaOrchestratorConfig)
    (env : Env) (saga : Saga) (context : SagaContext) (world : World) :
    RollbackAttempted config env saga context world ↔
      NothingAbandoned config env saga context world := by
  unfold NothingAbandoned
  rcases refused_or_runs_or_stops config env saga context world with
    refused | ⟨entered, all⟩ | ⟨stop, stopped⟩
  · rw [rollback_attempted_of_refused refused]
    constructor
    · intro nothing
      exact .inl ⟨refused, nothing⟩
    · intro cases
      rcases cases with ⟨-, nothing⟩ | ⟨entered, -⟩ | ⟨stop, stopped, -⟩
      · exact nothing
      · exact absurd entered refused
      · exact absurd stopped.entered refused
  · rw [rollback_attempted_of_runs entered all]
    constructor
    · intro marked
      exact .inr (.inl ⟨entered, all, marked⟩)
    · intro cases
      rcases cases with ⟨refused, -⟩ | ⟨-, -, marked⟩ | ⟨stop, stopped, -⟩
      · exact absurd entered refused
      · exact marked
      · exact absurd (all stop stopped.below) stopped.stops
  · rw [rollback_attempted_of_stop stopped]
    constructor
    · intro covered
      exact .inr (.inr ⟨stop, stopped, covered⟩)
    · intro cases
      rcases cases with ⟨refused, -⟩ | ⟨-, all, -⟩ | ⟨other, again, covered⟩
      · exact absurd stopped.entered refused
      · exact absurd (all stop stopped.below) stopped.stops
      · rw [stopped.unique again] at covered
        exact covered

/-- The step of index 1 times out after the step of index 0 was committed. -/
def stepTimeoutEnv : Env :=
  .quiet { CallEnv.quiet with outcome := fun index => if index = 1 then .timedOut else .ok }

theorem step_timeout_abandons_committed_step :
    ¬RollbackAttempted {} stepTimeoutEnv
      ⟨.provisioning, [⟨"CreateInfrastructure", true⟩, ⟨"RegisterWorker", true⟩]⟩
      (.new ⟨7⟩ .provisioning none none 0) .empty := by
  intro attempted
  have invoked := attempted (by intro result returned; cases returned) 0
    ⟨⟨"CreateInfrastructure", true⟩, rfl, rfl⟩
    (.inr ⟨_, List.mem_singleton_self _, rfl, rfl, rfl⟩)
  exact absurd invoked (by decide)

end HodeiJobs.Sagas
