import HodeiJobs.Sagas.Claiming
import HodeiJobs.Sagas.RollbackOutcome

/-!
# Resuming a saga that was compensating

`execute_saga` only logs that its context is `Compensating`: a later run goes
forward from the first index without a record. It leaves the steps alone exactly
when it does not get to the step function of that index. A cycle of the poller
never does, having claimed no saga.
-/

namespace HodeiJobs.Sagas

open HodeiJobs.Library HodeiJobs.Library.Program

/-- The call gets to the step function of the first index without a record. -/
def ReachesStep (config : PostgresSagaOrchestratorConfig) (env : Env) (saga : Saga)
    (sagaId : SagaId) (store : SagaStore) : Prop :=
  Entered env sagaId ∧ ∃ first < saga.steps.length,
    (∀ i < first, RecordedCompleted store sagaId i) ∧
    ¬RecordedCompleted store sagaId first ∧ Started config env sagaId first

variable {config : PostgresSagaOrchestratorConfig} {env : Env} {saga : Saga}
  {context : SagaContext} {world : World} {stop : Nat}

theorem executed_before_eq_nil_iff (context : SagaContext) (world : World) (stop : Nat) :
    executedBefore context world stop = [] ↔
      ∀ i < stop, RecordedCompleted world.store context.sagaId i := by
  unfold executedBefore
  rw [List.eq_nil_iff_forall_not_mem]
  constructor
  · intro none i below
    rw [← completed_at_iff]
    by_contra missing
    exact none i ((mem_pending_indices _ stop i).mpr ⟨below, by simpa using missing⟩)
  · intro all i member
    obtain ⟨below, missing⟩ := (mem_pending_indices _ stop i).mp member
    have recorded := (completed_at_iff _ _ _).mpr (all i below)
    rw [missing] at recorded
    cases recorded

/-- Below the index where the loop stops, an unrecorded index was started. -/
theorem reaches_step_of_executed (entered : Entered env context.sagaId)
    (bound : stop ≤ saga.steps.length)
    (earlier : ∀ i < stop, Runs config env context.sagaId
      (world.store.findStepsBySagaId context.sagaId) i)
    (executed : executedBefore context world stop ≠ []) :
    ReachesStep config env saga context.sagaId world.store := by
  rcases all_below_or_first (RecordedCompleted world.store context.sagaId) stop with
    all | ⟨first, below, recorded, missing⟩
  · exact absurd ((executed_before_eq_nil_iff context world stop).mpr all) executed
  · refine ⟨entered, first, Nat.lt_of_lt_of_le below bound, recorded, missing, ?_⟩
    rcases earlier first below with known | passes
    · exact absurd ((completed_at_iff _ _ _).mp known) missing
    · exact passes.1

theorem reaches_step_iff_of_stop (stopped : StopsAt config env saga context world stop) :
    ReachesStep config env saga context.sagaId world.store ↔
      executedBefore context world stop ≠ [] ∨ Started config env context.sagaId stop := by
  have unrecorded : ¬RecordedCompleted world.store context.sagaId stop := by
    rw [← completed_at_iff, stopped.pending]
    exact Bool.false_ne_true
  constructor
  · intro ⟨_, first, below, recorded, missing, started⟩
    by_cases executed : executedBefore context world stop = []
    · have all := (executed_before_eq_nil_iff context world stop).mp executed
      rcases Nat.lt_trichotomy first stop with before | same | after
      · exact absurd (all first before) missing
      · exact .inr (same ▸ started)
      · exact absurd (recorded stop after) unrecorded
    · exact .inl executed
  · intro either
    by_cases executed : executedBefore context world stop = []
    · have started := either.resolve_left fun present => present executed
      exact ⟨stopped.entered, stop, stopped.below,
        (executed_before_eq_nil_iff context world stop).mp executed, unrecorded, started⟩
    · exact reaches_step_of_executed stopped.entered (Nat.le_of_lt stopped.below)
        stopped.earlier executed

/-- What one call invokes: steps forward, then compensations. A call that
executes nothing compensates nothing. -/
theorem run_execute_saga_events (config : PostgresSagaOrchestratorConfig) (env : Env)
    (saga : Saga) (context : SagaContext) (world : World) :
    ∃ executed undone : List Nat,
      (runSaga env (executeSaga config saga context) world).2.trace = world.trace ++
        (executed.map (SagaEvent.execute context.sagaId) ++
          undone.map (SagaEvent.compensate context.sagaId)) ∧
      (executed = [] → undone = []) ∧
      (executed ≠ [] ↔ ReachesStep config env saga context.sagaId world.store) := by
  rcases refused_or_runs_or_stops config env saga context world with
    refused | ⟨entered, all⟩ | ⟨stop, stopped⟩
  · obtain ⟨failure, after, ran, -, trace⟩ :=
      run_execute_saga_refused config saga context world refused
    refine ⟨[], [], ?_, fun _ => rfl, ?_⟩
    · rw [ran]
      simpa using trace
    · exact iff_of_false (fun present => present rfl) fun reaches => refused reaches.1
  · obtain ⟨trace, -⟩ := run_execute_saga_runs_out entered all
    refine ⟨executedBefore context world saga.steps.length, [], ?_, fun _ => rfl, ?_⟩
    · rw [trace, List.map_nil, List.append_nil]
    · constructor
      · exact reaches_step_of_executed entered (Nat.le_refl _) all
      · intro ⟨_, first, below, _, missing, _⟩ nothing
        exact missing ((executed_before_eq_nil_iff context world _).mp nothing first below)
  · by_cases rollsBack : RollsBack config env context.sagaId stop
    · obtain ⟨context', executed, start, handed, begun⟩ :=
        run_execute_saga_rolls_back stopped rollsBack
      obtain ⟨undone, -, trace, -⟩ :=
        run_compensate_effect env saga context.sagaId context' executed start
      refine ⟨executedBefore context world stop ++ [stop], undone, ?_, ?_, ?_⟩
      · rw [handed, trace, begun.trace, List.append_assoc]
      · intro nothing
        cases (List.append_eq_nil_iff.mp nothing).2
      · exact iff_of_true (by simp)
          ((reaches_step_iff_of_stop stopped).mpr (.inr rollsBack.1))
    · obtain ⟨failure, after, ran, ⟨last, trace, known⟩, -, -⟩ :=
        run_execute_saga_halts stopped rollsBack
      refine ⟨executedBefore context world stop ++ last, [], ?_, fun _ => rfl, ?_⟩
      · rw [ran, List.map_nil, List.append_nil]
        exact trace
      · rw [reaches_step_iff_of_stop stopped, Ne, List.append_eq_nil_iff, not_and_or]
        rcases known with ⟨started, rfl⟩ | ⟨unstarted, rfl⟩
        · exact iff_of_true (.inr (by simp)) (.inr started)
        · constructor
          · intro either
            exact .inl (either.resolve_right fun present => present rfl)
          · intro either
            exact .inl (either.resolve_right unstarted)

/-! ## The events of one saga -/

variable {sagaId : SagaId}

/-- Invocations for one saga: `reached` says whether any step was executed. -/
def EventsOf (sagaId : SagaId) (reached : Prop) (before after : World) : Prop :=
  ∃ events, after.trace = before.trace ++ events ∧
    (executedIndices sagaId events = [] → compensatedIndices sagaId events = []) ∧
    (executedIndices sagaId events ≠ [] ↔ reached)

theorem events_of_unchanged {before after : World} {reached : Prop} (idle : ¬reached)
    (trace : after.trace = before.trace) : EventsOf sagaId reached before after :=
  ⟨[], by rw [trace, List.append_nil], fun _ => rfl, iff_of_false (fun present => present rfl) idle⟩

theorem EventsOf.congr {before after : World} {reached same : Prop}
    (events : EventsOf sagaId reached before after) (iff : reached ↔ same) :
    EventsOf sagaId same before after := by
  rw [← iff]
  exact events

/-- The events of one call, seen from its own saga. -/
theorem events_of_own_call (config : PostgresSagaOrchestratorConfig) (env : Env) (saga : Saga)
    (context : SagaContext) (world : World) :
    EventsOf context.sagaId (ReachesStep config env saga context.sagaId world.store) world
      (runSaga env (executeSaga config saga context) world).2 := by
  obtain ⟨executed, undone, trace, silent, reached⟩ :=
    run_execute_saga_events config env saga context world
  refine ⟨_, trace, ?_, ?_⟩
  · simpa using silent
  · simpa using reached

/-! ## Later runs -/

/-- A run on a saga: `execute_saga` on what `find_by_id` returns, or one cycle
of the poller. -/
inductive ResumeRun where
  | direct (config : PostgresSagaOrchestratorConfig) (env : Env) (saga : Saga)
  | poll (config : PostgresSagaOrchestratorConfig) (env : Env) (idText : Uuid → String)
      (sagaFactory : SagaType → Json → Option Saga)

namespace ResumeRun

def environment : ResumeRun → Env
  | .direct _ env _ => env
  | .poll _ env _ _ => env

def program (sagaId : SagaId) : ResumeRun → SagaM Unit
  | .direct config _ saga => do
      match ← findById sagaId with
      | some context => do
          let _ ← executeSaga config saga context
          return ()
      | none => return ()
  | .poll config _ idText sagaFactory => processPendingSagas config idText sagaFactory

def after (sagaId : SagaId) (run : ResumeRun) (world : World) : World :=
  (runSaga run.environment (run.program sagaId) world).2

/-- The run gets to a step function of the saga: it finds the saga, enters
`execute_saga`, and starts the first index without a record. A cycle of the
poller gets to none, its claim returning no saga. -/
def ReachesStep (sagaId : SagaId) (world : World) : ResumeRun → Prop
  | .direct config env saga =>
      env.findByIdFault sagaId = none ∧
        (∃ context, world.store.findById sagaId = .ok (some context)) ∧
        Sagas.ReachesStep config env saga sagaId world.store
  | .poll _ _ _ _ => False

end ResumeRun

theorem find_by_id_saga_id {store : SagaStore} {sagaId : SagaId} {context : SagaContext}
    (found : store.findById sagaId = .ok (some context)) : context.sagaId = sagaId := by
  unfold SagaStore.findById at found
  cases row : store.findRow sagaId with
  | none =>
      rw [row] at found
      cases found
  | some stored =>
      rw [row] at found
      cases version : stored.readVersion with
      | error error =>
          simp only [version] at found
          cases found
      | ok number =>
          simp only [version] at found
          cases found
          exact congrArg SagaId.mk (SagaStore.find_row_some_id row)

theorem run_find_by_id (env : Env) (sagaId : SagaId) (world : World) :
    (∃ context, env.findByIdFault sagaId = none ∧
        world.store.findById sagaId = .ok (some context) ∧
        runSaga env (findById sagaId) world = (.ok (some context), world)) ∨
      (¬(env.findByIdFault sagaId = none ∧
          ∃ context, world.store.findById sagaId = .ok (some context)) ∧
        (runSaga env (findById sagaId) world = (.ok none, world) ∨
          ∃ failure, runSaga env (findById sagaId) world = (.error failure, world))) := by
  cases fault : env.findByIdFault sagaId with
  | some error =>
      refine .inr ⟨?_, .inr ⟨error, ?_⟩⟩
      · rintro ⟨unfaulted, _⟩
        cases unfaulted
      · simp [findById, exec_bind, handle, fault]
  | none =>
      cases read : world.store.findById sagaId with
      | error error =>
          refine .inr ⟨?_, .inr ⟨error, ?_⟩⟩
          · rintro ⟨_, context, found⟩
            cases found
          · simp [findById, exec_bind, handle, fault, read]
      | ok found =>
          cases found with
          | none =>
              refine .inr ⟨?_, .inl ?_⟩
              · rintro ⟨_, context, found⟩
                cases found
              · simp [findById, exec_bind, handle, fault, read]
          | some context =>
              refine .inl ⟨context, rfl, rfl, ?_⟩
              simp [findById, exec_bind, handle, fault, read]

theorem direct_run_events (sagaId : SagaId) (config : PostgresSagaOrchestratorConfig) (env : Env)
    (saga : Saga) (world : World) :
    EventsOf sagaId (ResumeRun.ReachesStep sagaId world (.direct config env saga)) world
      (ResumeRun.after sagaId (.direct config env saga) world) := by
  rcases run_find_by_id env sagaId world with
    ⟨context, unfaulted, found, ran⟩ | ⟨missing, stopped⟩
  · have own := find_by_id_saga_id found
    subst own
    have called : ResumeRun.after context.sagaId (.direct config env saga) world =
        (runSaga env (executeSaga config saga context) world).2 := by
      unfold ResumeRun.after runSaga ResumeRun.program ResumeRun.environment at *
      rw [exec_bind_ok _ _ _ ran]
      dsimp only
      rw [exec_bind]
      cases exec (handle env) (executeSaga config saga context) world with
      | mk outcome final => cases outcome <;> rfl
    rw [called]
    apply (events_of_own_call config env saga context world).congr
    constructor
    · intro reaches
      exact ⟨unfaulted, ⟨context, found⟩, reaches⟩
    · intro reaches
      exact reaches.2.2
  · apply events_of_unchanged
    · intro reaches
      exact missing ⟨reaches.1, reaches.2.1⟩
    · unfold ResumeRun.after runSaga ResumeRun.program ResumeRun.environment at *
      rcases stopped with absent | ⟨failure, failed⟩
      · rw [exec_bind_ok _ _ _ absent]
        rfl
      · rw [exec_bind_error _ _ _ failed]

/-- The claim fails or returns no saga, and the world stays as it is. -/
theorem poll_run_after (sagaId : SagaId) (config : PostgresSagaOrchestratorConfig) (env : Env)
    (idText : Uuid → String) (sagaFactory : SagaType → Json → Option Saga) (world : World) :
    ResumeRun.after sagaId (.poll config env idText sagaFactory) world = world := by
  obtain ⟨outcome, ran, nothing⟩ := run_claim_pending_sagas env idText 10 world
  unfold ResumeRun.after runSaga ResumeRun.program ResumeRun.environment processPendingSagas at *
  cases outcome with
  | error failure => rw [exec_bind_error _ _ _ ran]
  | ok contexts =>
      rw [exec_bind_ok _ _ _ ran, (nothing contexts rfl).2]
      rfl

theorem resume_run_events (sagaId : SagaId) (run : ResumeRun) (world : World) :
    EventsOf sagaId (run.ReachesStep sagaId world) world (run.after sagaId world) := by
  cases run with
  | direct config env saga => exact direct_run_events sagaId config env saga world
  | poll config env idText sagaFactory =>
      rw [poll_run_after]
      exact events_of_unchanged id rfl

/-- The run only compensates: no step of the saga is executed, and the
compensations are of recorded steps in decreasing order. -/
def RunOnlyCompensates (sagaId : SagaId) (run : ResumeRun) (world : World) : Prop :=
  let events := world.eventsSince (run.after sagaId world)
  executedIndices sagaId events = [] ∧
    (compensatedIndices sagaId events).Pairwise (· > ·) ∧
    ∀ index ∈ compensatedIndices sagaId events, RecordedCompleted world.store sagaId index

theorem run_only_compensates_iff (sagaId : SagaId) (run : ResumeRun) (world : World) :
    RunOnlyCompensates sagaId run world ↔ ¬run.ReachesStep sagaId world := by
  obtain ⟨events, trace, silent, reached⟩ := resume_run_events sagaId run world
  unfold RunOnlyCompensates
  rw [World.events_since_append trace, ← reached, ne_eq, not_not]
  constructor
  · intro only
    exact only.1
  · intro idle
    dsimp only
    rw [silent idle]
    exact ⟨idle, List.Pairwise.nil, fun index member => absurd member List.not_mem_nil⟩

/-- From a `Compensating` saga on, every later run only compensates. -/
def CompensatingOnlyCompensates (sagaId : SagaId) (world : World) (runs : List ResumeRun) : Prop :=
  world.store.persistedState sagaId = some .compensating →
    EachMove (fun before run => run.after sagaId before)
      (fun before run => RunOnlyCompensates sagaId run before) world runs

/-- That is so exactly when no run gets to a step function of the saga. -/
theorem compensating_only_compensates_iff (sagaId : SagaId) (world : World)
    (runs : List ResumeRun) :
    CompensatingOnlyCompensates sagaId world runs ↔
      (world.store.persistedState sagaId = some .compensating →
        EachMove (fun before run => run.after sagaId before)
          (fun before run => ¬run.ReachesStep sagaId before) world runs) := by
  unfold CompensatingOnlyCompensates
  rw [each_move_congr _ fun before run => run_only_compensates_iff sagaId run before]

def twoSteps : Saga := ⟨.execution, [⟨"AssignWorker", true⟩, ⟨"ExecuteJob", true⟩]⟩

/-- The second step fails and the records cannot be loaded for the rollback:
the saga stays `Compensating` with its first step recorded. -/
def interruptedEnv : Env :=
  .quiet { CallEnv.quiet with
    outcome := fun index => if index = 1 then .err .cancelled else .ok
    loadFault := fun load => if load = .compensation then some "connection closed" else none }

def compensatingWorld : World :=
  (runSaga interruptedEnv (executeSaga {} twoSteps (.new ⟨7⟩ .execution none none 0)) .empty).2

theorem compensating_saga_is_executed :
    ¬CompensatingOnlyCompensates ⟨7⟩ compensatingWorld
      [.direct {} (.quiet .quiet) twoSteps] := by
  intro only
  have forward := (only rfl).1.1
  exact absurd forward (by decide)

end HodeiJobs.Sagas
