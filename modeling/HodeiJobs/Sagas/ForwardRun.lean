import HodeiJobs.Library.Scan
import HodeiJobs.Sagas.Transactions

/-!
# The forward loop

An index either runs (it was recorded before, or its step passes and commits)
or stops the loop. The loop passes over a block of indices that run, and leaves
one `Completed` record and one `execute` event for each that was not recorded.
At the first index that does not run it either returns an error with the
step records untouched, or enters compensation.
-/

namespace HodeiJobs.Sagas

open HodeiJobs.Library HodeiJobs.Library.Program

/-- Some record of the saga carries this index and is in state `Completed`. -/
def RecordedCompleted (store : SagaStore) (sagaId : SagaId) (index : Nat) : Prop :=
  ∃ row ∈ store.steps, row.sagaId = sagaId.uuid ∧ row.stepOrder = index ∧
    SagaStepState.ofColumn row.state = .completed

theorem completed_at_iff (store : SagaStore) (sagaId : SagaId) (index : Nat) :
    completedAt (store.findStepsBySagaId sagaId) index = true ↔
      RecordedCompleted store sagaId index := by
  unfold completedAt RecordedCompleted
  rw [List.any_eq_true]
  constructor
  · rintro ⟨data, member, matched⟩
    obtain ⟨row, stored, owner, rfl⟩ :=
      (SagaStore.mem_find_steps_by_saga_id store sagaId data).mp member
    simp only [SagaStepData.isCompleted, SagaStepData.isAt, SagaStepDbRow.toData,
      Bool.and_eq_true, beq_iff_eq] at matched
    exact ⟨row, stored, owner, matched.2, matched.1⟩
  · rintro ⟨row, stored, owner, order, state⟩
    refine ⟨row.toData, (SagaStore.mem_find_steps_by_saga_id store sagaId _).mpr
      ⟨row, stored, owner, rfl⟩, ?_⟩
    simp [SagaStepData.isCompleted, SagaStepData.isAt, SagaStepDbRow.toData, order, state]

section Outcomes

variable (config : PostgresSagaOrchestratorConfig) (env : Env) (sagaId : SagaId)
  (stored : List SagaStepData) (index : Nat)

/-- The saga timeout check fires before this index. -/
def SagaTimedOut : Prop :=
  config.sagaTimeout.nanos < ((env.saga sagaId).elapsed (.timeoutCheck index)).nanos

/-- The step of this index is invoked once the loop gets to it. -/
def Started : Prop :=
  ¬SagaTimedOut config env sagaId index ∧ Clean env sagaId (.step index) startCalls

/-- The step of this index is invoked, returns `Ok` and is committed. -/
def Passes : Prop :=
  Started config env sagaId index ∧ (env.saga sagaId).outcome index = .ok ∧
    Clean env sagaId (.step index) finishCalls

def Runs : Prop := completedAt stored index = true ∨ Passes config env sagaId index

/-- The step of this index returns `Err` and its failure is recorded. -/
def RollsBack : Prop :=
  Started config env sagaId index ∧ (∃ error, (env.saga sagaId).outcome index = .err error) ∧
    Clean env sagaId (.step index) [.rollback] ∧
    Clean env sagaId (.stepFailed index) failCalls

end Outcomes

/-- The rows a call appends: one `Completed` record for each index it executed. -/
def AppendedRows (sagaId : SagaId) (indices : List Nat) (rows : List SagaStepDbRow) : Prop :=
  rows.map (fun row => (row.sagaId, row.stepOrder, row.state)) =
    indices.map fun index : Nat => (sagaId.uuid, (index : Int), "COMPLETED")

/-- What a block of indices that run leaves behind: `indices` are those whose
step was executed. -/
structure Progress (sagaId : SagaId) (indices : List Nat) (before after : World) : Prop where
  trace : after.trace = before.trace ++ indices.map (SagaEvent.execute sagaId)
  steps : ∃ rows, after.store.steps = before.store.steps ++ rows ∧
    AppendedRows sagaId indices rows
  present : before.store.findRow sagaId ≠ none → after.store.findRow sagaId ≠ none

theorem Progress.refl (sagaId : SagaId) (world : World) : Progress sagaId [] world world :=
  ⟨by simp, ⟨[], by simp, rfl⟩, id⟩

theorem Progress.trans {sagaId : SagaId} {first second : List Nat} {before middle after : World}
    (head : Progress sagaId first before middle) (tail : Progress sagaId second middle after) :
    Progress sagaId (first ++ second) before after := by
  obtain ⟨headRows, headSteps, headShape⟩ := head.steps
  obtain ⟨tailRows, tailSteps, tailShape⟩ := tail.steps
  refine ⟨?_, ⟨headRows ++ tailRows, ?_, ?_⟩, fun present => tail.present (head.present present)⟩
  · rw [tail.trace, head.trace, List.map_append, List.append_assoc]
  · rw [tailSteps, headSteps, List.append_assoc]
  · unfold AppendedRows at headShape tailShape ⊢
    rw [List.map_append, List.map_append, headShape, tailShape]

/-- After a block, the recorded indices are the old ones and the executed ones. -/
theorem Progress.recorded {sagaId : SagaId} {indices : List Nat} {before after : World}
    (progress : Progress sagaId indices before after) (index : Nat) :
    RecordedCompleted after.store sagaId index ↔
      RecordedCompleted before.store sagaId index ∨ index ∈ indices := by
  obtain ⟨rows, steps, shape⟩ := progress.steps
  unfold RecordedCompleted
  rw [steps]
  constructor
  · rintro ⟨row, member, owner, order, state⟩
    rcases List.mem_append.mp member with old | new
    · exact .inl ⟨row, old, owner, order, state⟩
    · have shaped : (row.sagaId, row.stepOrder, row.state) ∈
          indices.map fun index : Nat => (sagaId.uuid, (index : Int), "COMPLETED") := by
        rw [← shape]
        exact List.mem_map.mpr ⟨row, new, rfl⟩
      obtain ⟨executed, listed, equal⟩ := List.mem_map.mp shaped
      have orders : (executed : Int) = row.stepOrder := (Prod.mk.inj (Prod.mk.inj equal).2).1
      have same : executed = index := by omega
      exact .inr (same ▸ listed)
  · rintro (⟨row, member, rest⟩ | listed)
    · exact ⟨row, List.mem_append_left _ member, rest⟩
    · have shaped : (sagaId.uuid, (index : Int), "COMPLETED") ∈
          rows.map fun row => (row.sagaId, row.stepOrder, row.state) := by
        rw [shape]
        exact List.mem_map.mpr ⟨index, listed, rfl⟩
      obtain ⟨row, new, equal⟩ := List.mem_map.mp shaped
      obtain ⟨owner, order, state⟩ := by simpa using equal
      exact ⟨row, List.mem_append_right _ new, owner, order, by rw [state]; rfl⟩

variable {config : PostgresSagaOrchestratorConfig} {env : Env} {saga : Saga} {sagaId : SagaId}
  {stored : List SagaStepData}

/-! ## One index -/

theorem run_steps_skip {index : Nat} (step : SagaStep) (rest : List SagaStep)
    (context : SagaContext) (executed : Nat) (world : World)
    (recorded : completedAt stored index = true) :
    runSaga env (runSteps config saga sagaId stored index (step :: rest) context executed) world =
      runSaga env (runSteps config saga sagaId stored (index + 1) rest context executed) world := by
  rw [runSteps, if_pos recorded]

/-- The world in which the step function of an index has been invoked. -/
def invoked (env : Env) (sagaId : SagaId) (index : Nat) (world : World) : World :=
  { issueStepId env world with trace := world.trace ++ [.execute sagaId index] }

/-- Getting to the outcome of a step: the call continues with the outcome the
environment gives it. -/
theorem run_steps_started {index : Nat} (step : SagaStep) (rest : List SagaStep)
    (context : SagaContext) (executed : Nat) (world : World)
    (pending : completedAt stored index = false) (started : Started config env sagaId index) :
    runSaga env (runSteps config saga sagaId stored index (step :: rest) context executed) world =
      runSaga env
        (match (env.saga sagaId).outcome index, (env.saga sagaId).effect index context with
          | .ok, context => do
              finishStep (startedTx env world sagaId index step) ⟨freshStepId env world⟩ context
              runSteps config saga sagaId stored (index + 1) rest context (executed + 1)
          | .err error, context => do
              failStep (startedTx env world sagaId index step) sagaId index
                ⟨freshStepId env world⟩ error
              compensate saga sagaId (context.setError error.display) executed
          | .timedOut, _ =>
              stepTimeoutExit config (startedTx env world sagaId index step))
        (invoked env sagaId index world) := by
  obtain ⟨inTime, clean⟩ := started
  have opened := run_start_step_ok world index step clean
  unfold SagaTimedOut at inTime
  rw [runSteps, if_neg (by simp [pending])]
  unfold runSaga at opened ⊢
  rw [exec_bind_ok _ _ _ (run_elapsed env sagaId _ world), if_neg inTime,
    exec_bind_ok _ _ _ opened, exec_bind_ok _ _ _ (run_execute env sagaId index context _)]
  cases (env.saga sagaId).outcome index <;> rfl

/-- A step that passes: the loop goes on after it, with its record committed. -/
theorem run_steps_pass (saga : Saga) {index : Nat} (step : SagaStep) (rest : List SagaStep)
    (context : SagaContext) (executed : Nat) (world : World)
    (pending : completedAt stored index = false) (passes : Passes config env sagaId index) :
    ∃ context' after,
      runSaga env (runSteps config saga sagaId stored index (step :: rest) context executed)
          world =
        runSaga env
          (runSteps config saga sagaId stored (index + 1) rest context' (executed + 1)) after ∧
      Progress sagaId [index] world after := by
  obtain ⟨started, outcome, clean⟩ := passes
  have finished := (finish_step_guarded env (invoked env sagaId index world)
    (startedTx env world sagaId index step) ⟨freshStepId env world⟩
    ((env.saga sagaId).effect index context)).passes clean
  rw [run_steps_started step rest context executed world pending started, outcome]
  refine ⟨_, _, exec_bind_ok _ _ _ finished, rfl,
    ⟨[completedRow env world sagaId index step], ?_, rfl⟩, ?_⟩
  · exact commit_finished_step_steps index step _
  · exact SagaStore.find_row_commit _ _ _ _

/-- What an index that ends the call with an error leaves behind. `events` is
the invocation of its step, if the loop got that far. -/
structure Halted (sagaId : SagaId) (index : Nat) (started : Prop) (before after : World) :
    Prop where
  steps : after.store.steps = before.store.steps
  invocation : started → after.trace = before.trace ++ [.execute sagaId index]
  silence : ¬started → after.trace = before.trace

/-- An index that neither runs nor rolls back ends the call with an error. -/
theorem run_steps_halt (saga : Saga) {index : Nat} (step : SagaStep) (rest : List SagaStep)
    (context : SagaContext) (executed : Nat) (world : World)
    (stops : ¬Runs config env sagaId stored index)
    (abandons : ¬RollsBack config env sagaId index) :
    ∃ failure after,
      runSaga env (runSteps config saga sagaId stored index (step :: rest) context executed)
          world = (.error failure, after) ∧
      Halted sagaId index (Started config env sagaId index) world after := by
  have pending : completedAt stored index = false := by
    rw [← Bool.not_eq_true]
    intro recorded
    exact stops (.inl recorded)
  by_cases started : Started config env sagaId index
  · rw [run_steps_started step rest context executed world pending started]
    have halted : Halted sagaId index (Started config env sagaId index) world
        (invoked env sagaId index world) :=
      ⟨rfl, fun _ => rfl, fun absurdity => absurd started absurdity⟩
    cases outcome : (env.saga sagaId).outcome index with
    | ok =>
        have faulted : ¬Clean env sagaId (.step index) finishCalls := by
          intro clean
          exact stops (.inr ⟨started, outcome, clean⟩)
        obtain ⟨failure, stopped⟩ := (finish_step_guarded env (invoked env sagaId index world)
          (startedTx env world sagaId index step) ⟨freshStepId env world⟩
          ((env.saga sagaId).effect index context)).stops faulted
        exact ⟨failure, _, exec_bind_error _ _ _ stopped, halted⟩
    | err error =>
        have faulted : ¬(Clean env sagaId (.step index) [.rollback] ∧
            Clean env sagaId (.stepFailed index) failCalls) := by
          intro clean
          exact abandons ⟨started, ⟨error, outcome⟩, clean⟩
        obtain ⟨failure, stopped⟩ := (fail_step_guarded env sagaId (invoked env sagaId index world)
          (startedTx env world sagaId index step) index ⟨freshStepId env world⟩ error).stops faulted
        exact ⟨failure, _, exec_bind_error _ _ _ stopped, halted⟩
    | timedOut => exact ⟨_, _, run_step_timeout_exit config _, halted⟩
  · rw [runSteps, if_neg (by simp [pending])]
    unfold runSaga
    rw [exec_bind_ok _ _ _ (run_elapsed env sagaId _ world)]
    by_cases late : config.sagaTimeout.nanos <
        ((env.saga sagaId).elapsed (.timeoutCheck index)).nanos
    · rw [if_pos late]
      obtain ⟨failure, stopped⟩ := run_saga_timeout_exit env world sagaId SagaExecutionResult index
        context
      exact ⟨failure, _, stopped, by simp, fun absurdity => absurd absurdity started,
        fun _ => rfl⟩
    · rw [if_neg late]
      have faulted : ¬Clean env sagaId (.step index) startCalls := by
        intro clean
        exact started ⟨late, clean⟩
      obtain ⟨failure, stopped⟩ := run_start_step_error env world
        index step faulted
      exact ⟨failure, _, exec_bind_error _ _ _ stopped, rfl,
        fun absurdity => absurd absurdity started, fun _ => rfl⟩

/-- An index that rolls back hands over to compensation. The step records are
those from before its step, and the saga row is `Compensating`. -/
theorem run_steps_roll_back (saga : Saga) (stored : List SagaStepData) {index : Nat}
    (step : SagaStep) (rest : List SagaStep) (context : SagaContext) (executed : Nat)
    (world : World) (pending : completedAt stored index = false)
    (rollsBack : RollsBack config env sagaId index) :
    ∃ context' after,
      runSaga env (runSteps config saga sagaId stored index (step :: rest) context executed)
          world =
        runSaga env (compensate saga sagaId context' executed) after ∧
      after.store.steps = world.store.steps ∧
      after.trace = world.trace ++ [.execute sagaId index] ∧
      (world.store.findRow sagaId ≠ none →
        after.store.persistedState sagaId = some .compensating) := by
  obtain ⟨started, ⟨error, outcome⟩, clean⟩ := rollsBack
  have recorded := (fail_step_guarded env sagaId (invoked env sagaId index world)
    (startedTx env world sagaId index step) index ⟨freshStepId env world⟩ error).passes clean
  rw [run_steps_started step rest context executed world pending started, outcome]
  refine ⟨_, _, exec_bind_ok _ _ _ recorded, ?_, rfl, ?_⟩
  · exact commit_failed_step_steps error
  · intro present
    exact SagaStore.persisted_state_updated (SagaStore.find_row_apply _ _
      (.updateStepStateWithTx ⟨freshStepId env world⟩ .failed none) _ present) _ _ _

/-! ## A block of indices -/

/-- The indices of a block whose step the loop executes. -/
def pendingIndices (stored : List SagaStepData) (index count : Nat) : List Nat :=
  (List.range' index count).filter fun i => !completedAt stored i

theorem run_steps_advance (config : PostgresSagaOrchestratorConfig) (saga : Saga)
    (block rest : List SagaStep) (index : Nat) (context : SagaContext) (executed : Nat)
    (world : World)
    (runs : ∀ i, index ≤ i → i < index + block.length → Runs config env sagaId stored i) :
    ∃ context' executed' after,
      runSaga env
          (runSteps config saga sagaId stored index (block ++ rest) context executed) world =
        runSaga env
          (runSteps config saga sagaId stored (index + block.length) rest context' executed')
          after ∧
      Progress sagaId (pendingIndices stored index block.length) world after := by
  induction block generalizing index context executed world with
  | nil => exact ⟨context, executed, world, rfl, Progress.refl sagaId world⟩
  | cons step block ih =>
      have later : ∀ i, index + 1 ≤ i → i < index + 1 + block.length →
          Runs config env sagaId stored i := by
        intro i above below
        apply runs i (by omega)
        rw [List.length_cons]
        omega
      have shift : index + (step :: block).length = index + 1 + block.length := by
        rw [List.length_cons]
        omega
      have here := runs index (Nat.le_refl index) (by rw [List.length_cons]; omega)
      by_cases recorded : completedAt stored index = true
      · obtain ⟨context', executed', after, continued, progress⟩ :=
          ih (index + 1) context executed world later
        refine ⟨context', executed', after, ?_, ?_⟩
        · rw [List.cons_append, run_steps_skip step _ context executed world recorded, shift]
          exact continued
        · simpa [pendingIndices, List.range'_succ, recorded] using progress
      · have passes := here.resolve_left recorded
        have pending : completedAt stored index = false := by simpa using recorded
        obtain ⟨context₁, middle, passed, first⟩ :=
          run_steps_pass saga step (block ++ rest) context executed world pending passes
        obtain ⟨context', executed', after, continued, progress⟩ :=
          ih (index + 1) context₁ (executed + 1) middle later
        refine ⟨context', executed', after, ?_, ?_⟩
        · rw [List.cons_append, passed, shift]
          exact continued
        · have both := first.trans progress
          simpa [pendingIndices, List.range'_succ, pending] using both

theorem mem_pending_indices (stored : List SagaStepData) (count index : Nat) :
    index ∈ pendingIndices stored 0 count ↔ index < count ∧ completedAt stored index = false := by
  simp [pendingIndices]

/-! ## The whole call up to the end of the loop -/

/-- The call is admitted, saves its context and loads its records. -/
def Entered (env : Env) (sagaId : SagaId) : Prop :=
  (env.saga sagaId).admission = .ok () ∧ Clean env sagaId .initial initialCalls ∧
    (env.saga sagaId).loadFault .resume = none

theorem run_load_steps_ok {load : StepLoad} (text : String) (world : World)
    (loads : (env.saga sagaId).loadFault load = none) :
    runSaga env (loadSteps sagaId load text) world =
      (.ok (world.store.findStepsBySagaId sagaId), world) := by
  simp [loadSteps, exec_bind, handle, loads]

theorem run_load_steps_error (env : Env) (sagaId : SagaId) {load : StepLoad} (text : String)
    (world : World) (faulted : (env.saga sagaId).loadFault load ≠ none) :
    ∃ failure, runSaga env (loadSteps sagaId load text) world = (.error failure, world) := by
  obtain ⟨error, fault⟩ := Option.ne_none_iff_exists'.mp faulted
  simp [loadSteps, exec_bind, handle, fault]

theorem find_steps_save (store : SagaStore) (now : DateTime) (context : SagaContext)
    (sagaId : SagaId) :
    (store.save now context).findStepsBySagaId sagaId = store.findStepsBySagaId sagaId := by
  unfold SagaStore.findStepsBySagaId
  rw [SagaStore.save_steps]

/-- The world in which the loop starts. -/
def enteredWorld (env : Env) (context : SagaContext) (world : World) : World :=
  { world with store := world.store.save env.now context }

@[simp] theorem entered_world_steps (env : Env) (context : SagaContext) (world : World) :
    (enteredWorld env context world).store.steps = world.store.steps :=
  SagaStore.save_steps _ _ _

theorem run_execute_saga_entered (context : SagaContext) (world : World)
    (entered : Entered env context.sagaId) :
    runSaga env (executeSaga config saga context) world =
      runSaga env
        (runSteps config saga context.sagaId (world.store.findStepsBySagaId context.sagaId) 0
          saga.steps (rehydrate (world.store.findStepsBySagaId context.sagaId) context)
          (countCompleted (world.store.findStepsBySagaId context.sagaId)))
        (enteredWorld env context world) := by
  obtain ⟨admission, clean, loads⟩ := entered
  have admitted : runSaga env (checkAdmission context.sagaId) world = (.ok (), world) := by
    simp [checkAdmission, exec_bind, handle, admission]
  have saved := (save_initial_context_guarded env world context).passes clean
  have loaded := run_load_steps_ok "Failed to load saga steps for resume"
    (enteredWorld env context world) loads
  unfold runSaga executeSaga at *
  rw [exec_bind_ok _ _ _ admitted, exec_bind_ok _ _ _ saved]
  erw [exec_bind_ok _ _ _ loaded]
  simp only [enteredWorld, find_steps_save]

theorem run_execute_saga_refused (config : PostgresSagaOrchestratorConfig) (saga : Saga)
    (context : SagaContext) (world : World) (refused : ¬Entered env context.sagaId) :
    ∃ failure after, runSaga env (executeSaga config saga context) world =
        (.error failure, after) ∧
      after.store.steps = world.store.steps ∧ after.trace = world.trace := by
  cases admission : (env.saga context.sagaId).admission with
  | error error =>
      have stopped : runSaga env (checkAdmission context.sagaId) world =
          (.error error, world) := by
        simp [checkAdmission, exec_bind, handle, admission]
      exact ⟨error, world, exec_bind_error _ _ _ stopped, rfl, rfl⟩
  | ok passed =>
      have admitted : runSaga env (checkAdmission context.sagaId) world = (.ok (), world) := by
        simp [checkAdmission, exec_bind, handle, admission]
      have guarded := save_initial_context_guarded env world context
      unfold runSaga executeSaga at *
      rw [exec_bind_ok _ _ _ admitted]
      by_cases clean : Clean env context.sagaId .initial initialCalls
      · have faulted : (env.saga context.sagaId).loadFault .resume ≠ none := by
          intro loads
          exact refused ⟨admission, clean, loads⟩
        obtain ⟨failure, stopped⟩ := run_load_steps_error _ _ "Failed to load saga steps for resume"
          (enteredWorld env context world) faulted
        rw [exec_bind_ok _ _ _ (guarded.passes clean)]
        exact ⟨failure, _, exec_bind_error _ _ _ stopped, SagaStore.save_steps _ _ _, rfl⟩
      · obtain ⟨failure, stopped⟩ := guarded.stops clean
        exact ⟨failure, world, exec_bind_error _ _ _ stopped, rfl, rfl⟩

/-- The loop gets to `stop` when every index below it runs. -/
theorem run_execute_saga_reaches (context : SagaContext) (world : World) (stop : Nat)
    (entered : Entered env context.sagaId) (bound : stop ≤ saga.steps.length)
    (runs : ∀ i < stop, Runs config env context.sagaId
      (world.store.findStepsBySagaId context.sagaId) i) :
    ∃ context' executed after,
      runSaga env (executeSaga config saga context) world =
        runSaga env
          (runSteps config saga context.sagaId (world.store.findStepsBySagaId context.sagaId) stop
            (saga.steps.drop stop) context' executed) after ∧
      Progress context.sagaId
        (pendingIndices (world.store.findStepsBySagaId context.sagaId) 0 stop)
        (enteredWorld env context world) after := by
  have taken : (saga.steps.take stop).length = stop := by
    rw [List.length_take]
    exact Nat.min_eq_left bound
  obtain ⟨context', executed, after, continued, progress⟩ :=
    run_steps_advance config saga (saga.steps.take stop)
      (saga.steps.drop stop) 0 (rehydrate (world.store.findStepsBySagaId context.sagaId) context)
      (countCompleted (world.store.findStepsBySagaId context.sagaId))
      (enteredWorld env context world)
      (fun i _ below => runs i (by omega))
  rw [List.take_append_drop, taken, Nat.zero_add] at continued
  rw [taken] at progress
  exact ⟨context', executed, after, (run_execute_saga_entered context world entered).trans
    continued, progress⟩

/-- The loop is over: the call returns a completed result when it can mark the
saga completed, and an error otherwise. -/
theorem run_steps_end (config : PostgresSagaOrchestratorConfig) (env : Env) (saga : Saga)
    (sagaId : SagaId) (stored : List SagaStepData) (context : SagaContext) (executed index : Nat)
    (world : World) :
    Guarded (handle env) (Clean env sagaId .completed stateCalls)
      (runSteps config saga sagaId stored index [] context executed) world
      (.completedWithSteps sagaId saga.sagaType ((env.saga sagaId).elapsed .result) executed)
      { world with store := world.store.updateState env.now sagaId .completed none } := by
  have marked := mark_completed_guarded env world sagaId
  constructor
  · intro clean
    rw [runSteps, exec_bind_ok _ _ _ (marked.passes clean)]
    rfl
  · intro faulted
    obtain ⟨failure, stopped⟩ := marked.stops faulted
    rw [runSteps]
    exact ⟨failure, exec_bind_error _ _ _ stopped⟩

/-- The indices recorded when the loop has got to `stop`. -/
theorem recorded_at_stop {context : SagaContext} {world after : World} {stop : Nat}
    (progress : Progress context.sagaId
      (pendingIndices (world.store.findStepsBySagaId context.sagaId) 0 stop)
      (enteredWorld env context world) after) (index : Nat) :
    RecordedCompleted after.store context.sagaId index ↔
      RecordedCompleted world.store context.sagaId index ∨ index < stop := by
  have entered : RecordedCompleted (enteredWorld env context world).store context.sagaId index ↔
      RecordedCompleted world.store context.sagaId index := by
    unfold RecordedCompleted
    rw [entered_world_steps]
  rw [progress.recorded, entered, mem_pending_indices, ← Bool.not_eq_true, completed_at_iff]
  constructor
  · rintro (recorded | ⟨below, -⟩)
    · exact .inl recorded
    · exact .inr below
  · rintro (recorded | below)
    · exact .inl recorded
    · by_cases recorded : RecordedCompleted world.store context.sagaId index
      · exact .inl recorded
      · exact .inr ⟨below, recorded⟩

end HodeiJobs.Sagas
