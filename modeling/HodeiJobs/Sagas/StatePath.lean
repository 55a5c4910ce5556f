import HodeiJobs.Sagas.InMemoryOrchestrator

/-!
# The states that the in-memory orchestrator persists

Every exit of `execute_saga` writes its own sequence of states, and none of
them ever writes `InProgress`. The sequence of a saga that starts `Pending` is
a path of `can_transition_to` exactly when the call ends before its first
`update_state`.
-/

namespace HodeiJobs.Sagas.InMemory

open HodeiJobs.Library HodeiJobs.Library.Program

variable {config : SagaOrchestratorConfig} {env : Env} {saga : Saga} {sagaId : SagaId}

theorem exec_elapsed (read : ClockRead) (world : World) :
    exec (handle env) (call (.elapsed read) : OrchestratorM Duration) world =
      (.ok (env.elapsed read), world) :=
  rfl

theorem exec_begin_transaction (tx : StepTx) (world : World) :
    exec (handle env) (call (.beginTransaction tx) : OrchestratorM (Except String Unit)) world =
      (.ok (faultReply (env.beginFault tx)), world) :=
  rfl

theorem exec_execute (index : Nat) (context : SagaContext) (world : World) :
    exec (handle env) (call (.execute index context) : OrchestratorM (StepOutcome × SagaContext))
        world =
      (.ok (env.outcome index, env.effect index context), world) :=
  rfl

theorem exec_update_state (state : SagaState) (message : Option String) (world : World) :
    exec (handle env) (updateState sagaId state message) world =
      (.ok (), ⟨world.states ++ [state]⟩) :=
  rfl

/-! ## Compensation writes no state -/

theorem run_compensation_with_retry (env : Env) (policy : RetryPolicy) (index attempt : Nat)
    (context : SagaContext) (world : World) :
    (run (handle env) (executeCompensationWithRetry policy index attempt context) world).2 =
      world := by
  induction attempt, context using executeCompensationWithRetry.induct policy with
  | case1 attempt context ih =>
      unfold executeCompensationWithRetry ask
      rw [run_bind, Program.run_request]
      cases begins : env.beginFault (.compensate index attempt) with
      | some error =>
          simp only [handle, faultReply, begins]
          rfl
      | none =>
          simp only [handle, faultReply, begins, run_bind, Program.run_request]
          cases env.compensation index attempt with
          | ok passed => rfl
          | error error =>
              dsimp only
              split_ifs with retries
              · exact ih _ retries
              · rfl

theorem run_compensation (policy : RetryPolicy) (executed : List (SagaStep × Nat))
    (context : SagaContext) (count : Nat) (world : World) :
    (run (handle env) (executeCompensation policy executed context count) world).2 = world := by
  induction executed generalizing context count with
  | nil => rfl
  | cons entry rest ih =>
      obtain ⟨step, index⟩ := entry
      unfold executeCompensation
      split_ifs
      · have attempted := run_compensation_with_retry env policy index 1 context world
        rw [run_bind, attempted]
        cases (run (handle env) (executeCompensationWithRetry policy index 1 context) world).1 with
        | mk outcome context => cases outcome <;> exact ih _ _
      · exact ih _ _

theorem exec_compensate_and_fail (config : SagaOrchestratorConfig) (env : Env) (sagaId : SagaId)
    (message : String) (executed : List (SagaStep × Nat)) (context : SagaContext) (world : World) :
    ∃ compensations,
      exec (handle env) (compensateAndFail config sagaId message executed context) world =
        (.ok compensations, ⟨world.states ++ [.compensating, .failed]⟩) := by
  let lent := { context.setError message with isCompensating := true }
  let middle : World := ⟨world.states ++ [.compensating]⟩
  let undone := run (handle env)
    (executeCompensation config.compensationRetryPolicy executed lent 0) middle
  have compensated : exec (handle env) (ExceptT.lift
      (executeCompensation config.compensationRetryPolicy executed lent 0) : OrchestratorM Nat)
      middle = (.ok undone.1, middle) := by
    rw [exec_lift]
    exact congrArg (Prod.mk _) (run_compensation _ _ _ _ _)
  refine ⟨undone.1, ?_⟩
  unfold compensateAndFail
  rw [exec_bind_ok _ _ _ (exec_update_state .compensating (some message) world),
    exec_bind_ok _ _ _ compensated,
    exec_bind_ok _ _ _ (exec_update_state .failed (some message) middle), exec_pure,
    List.append_assoc]
  rfl

/-! ## Where the forward loop stops without a write -/

/-- The context with which the loop comes to a step when every step before it
was skipped or returned `Ok`. -/
def contextBefore (env : Env) (context : SagaContext) : Nat → SagaContext
  | 0 => context
  | index + 1 =>
      let before := contextBefore env context index
      if index < before.currentStep then before else env.effect index before

def Skipped (env : Env) (context : SagaContext) (index : Nat) : Prop :=
  index < (contextBefore env context index).currentStep

def InTime (config : SagaOrchestratorConfig) (env : Env) (saga : Saga) (index : Nat) : Prop :=
  (env.elapsed (.timeoutCheck index)).nanos ≤ (config.getSagaTimeout saga.sagaType).nanos

instance (env : Env) (context : SagaContext) (index : Nat) :
    Decidable (Skipped env context index) :=
  inferInstanceAs (Decidable (_ < _))

instance (config : SagaOrchestratorConfig) (env : Env) (saga : Saga) (index : Nat) :
    Decidable (InTime config env saga index) :=
  inferInstanceAs (Decidable (_ ≤ _))

/-- The loop goes past the step. -/
def StepPasses (config : SagaOrchestratorConfig) (env : Env) (saga : Saga)
    (context : SagaContext) (index : Nat) : Prop :=
  Skipped env context index ∨
    (InTime config env saga index ∧ env.beginFault (.execute index) = none ∧
      env.outcome index = .ok)

/-- The transaction of the step cannot be opened. -/
def StepUnopened (config : SagaOrchestratorConfig) (env : Env) (saga : Saga)
    (context : SagaContext) (index : Nat) : Prop :=
  ¬Skipped env context index ∧ InTime config env saga index ∧
    env.beginFault (.execute index) ≠ none

/-- Among the next `count` steps the loop stops at one that it cannot open. -/
def StopsUnopened (config : SagaOrchestratorConfig) (env : Env) (saga : Saga)
    (context : SagaContext) (index count : Nat) : Prop :=
  ∃ stop, index ≤ stop ∧ stop < index + count ∧ StepUnopened config env saga context stop ∧
    ∀ earlier, index ≤ earlier → earlier < stop → StepPasses config env saga context earlier

theorem stops_unopened_succ (context : SagaContext) (index count : Nat) :
    StopsUnopened config env saga context index (count + 1) ↔
      StepUnopened config env saga context index ∨
        (StepPasses config env saga context index ∧
          StopsUnopened config env saga context (index + 1) count) := by
  constructor
  · intro ⟨stop, above, below, unopened, passes⟩
    rcases Nat.eq_or_lt_of_le above with first | later
    · subst first
      exact .inl unopened
    · have here := passes index (Nat.le_refl index) later
      refine .inr ⟨here, stop, later, by omega, unopened, ?_⟩
      intro earlier from_ before
      exact passes earlier (by omega) before
  · intro either
    rcases either with unopened | ⟨here, stop, above, below, unopened, passes⟩
    · refine ⟨index, Nat.le_refl index, by omega, unopened, ?_⟩
      intro earlier from_ before
      exact absurd before (by omega)
    · refine ⟨stop, by omega, by omega, unopened, ?_⟩
      intro earlier from_ before
      rcases Nat.eq_or_lt_of_le from_ with first | later
      · subst first
        exact here
      · exact passes earlier later before

/-! ## What each exit writes -/

/-- The states an exit of the forward loop writes: none, `Completed`, `Failed`,
or `Compensating` and `Failed`. -/
inductive ExitStates : List SagaState → Prop
  | none : ExitStates []
  | completed : ExitStates [.completed]
  | sagaTimedOut : ExitStates [.failed]
  | compensated : ExitStates [.compensating, .failed]

/-- A saga timeout writes `Failed`. -/
theorem exec_saga_timeout_exit (index : Nat) (context : SagaContext) (world : World) :
    (exec (handle env) (sagaTimeoutExit sagaId index context) world).2.states =
      world.states ++ [.failed] :=
  rfl

theorem exec_step_failed_exit (index executed : Nat) (error : SagaError) (context : SagaContext)
    (world : World) :
    (exec (handle env) (stepFailedExit config saga sagaId index executed error context)
        world).2.states = world.states ++ [.compensating, .failed] := by
  obtain ⟨compensations, undone⟩ := exec_compensate_and_fail config env sagaId error.display
    (executedInReverse saga.steps index) context world
  unfold stepFailedExit
  rw [exec_bind_ok _ _ _ undone]
  rfl

theorem exec_step_timeout_exit (executed : Nat) (context : SagaContext) (world : World) :
    (exec (handle env) (stepTimeoutExit config saga sagaId executed context) world).2.states =
      world.states ++ [.compensating, .failed] := by
  obtain ⟨compensations, undone⟩ := exec_compensate_and_fail config env sagaId
    ("Step timed out after " ++ config.stepTimeout.debug) (executedInReverse saga.steps executed)
    context world
  unfold stepTimeoutExit
  rw [exec_bind_ok _ _ _ undone]
  rfl

/-- A step that the loop goes past leaves the question to the later steps. -/
theorem stops_unopened_of_passes {context : SagaContext} {index : Nat} (count : Nat)
    (opened : ¬StepUnopened config env saga context index)
    (passes : StepPasses config env saga context index) :
    StopsUnopened config env saga context index (count + 1) ↔
      StopsUnopened config env saga context (index + 1) count := by
  rw [stops_unopened_succ]
  constructor
  · intro either
    exact (either.resolve_left opened).2
  · intro later
    exact .inr ⟨passes, later⟩

/-- The loop goes past its next step, or ends there. -/
theorem run_steps_cons (config : SagaOrchestratorConfig) (env : Env) (saga : Saga)
    (sagaId : SagaId) (start : SagaContext) (step : SagaStep) (rest : List SagaStep)
    (index executed : Nat) (world : World) :
    (StepPasses config env saga start index ∧ ¬StepUnopened config env saga start index ∧
      ∃ counted, exec (handle env) (runSteps config saga sagaId index (step :: rest)
          (contextBefore env start index) executed) world =
        exec (handle env) (runSteps config saga sagaId (index + 1) rest
          (contextBefore env start (index + 1)) counted) world) ∨
    (¬StepPasses config env saga start index ∧
      ∃ written, (exec (handle env) (runSteps config saga sagaId index (step :: rest)
          (contextBefore env start index) executed) world).2.states = world.states ++ written ∧
        ExitStates written ∧ (written = [] ↔ StepUnopened config env saga start index)) := by
  rw [runSteps]
  by_cases skipped : index < (contextBefore env start index).currentStep
  · rw [if_pos skipped, contextBefore, if_pos skipped]
    exact .inl ⟨.inl skipped, fun unopened => unopened.1 skipped, executed, rfl⟩
  rw [if_neg skipped, exec_bind_ok _ _ _ (exec_elapsed (.timeoutCheck index) world)]
  by_cases late : (config.getSagaTimeout saga.sagaType).nanos <
      (env.elapsed (.timeoutCheck index)).nanos
  · rw [if_pos late]
    refine .inr ⟨?_, [.failed], exec_saga_timeout_exit index _ world, .sagaTimedOut, ?_⟩
    · intro passes
      exact absurd (passes.resolve_left skipped).1 (Nat.not_le.mpr late)
    · apply iff_of_false (List.cons_ne_nil _ _)
      intro unopened
      exact absurd unopened.2.1 (Nat.not_le.mpr late)
  have inTime : InTime config env saga index := Nat.le_of_not_lt late
  rw [if_neg late, exec_bind_ok _ _ _ (exec_begin_transaction (.execute index) world)]
  cases begins : env.beginFault (.execute index) with
  | some error =>
      have unopened : StepUnopened config env saga start index :=
        ⟨skipped, inTime, by rw [begins]; exact Option.some_ne_none error⟩
      refine .inr ⟨?_, [], (List.append_nil _).symm, .none, iff_of_true rfl unopened⟩
      intro passes
      exact unopened.2.2 (passes.resolve_left skipped).2.1
  | none =>
      have opened : ¬StepUnopened config env saga start index := by
        intro unopened
        exact unopened.2.2 begins
      have exits (failed : env.outcome index ≠ .ok) :
          ¬StepPasses config env saga start index := by
        intro passes
        exact failed (passes.resolve_left skipped).2.2
      dsimp only [faultReply]
      rw [exec_bind_ok _ _ _ (exec_execute index _ world)]
      cases outcome : env.outcome index with
      | ok =>
          rw [contextBefore, if_neg skipped]
          exact .inl ⟨.inr ⟨inTime, begins, outcome⟩, opened, executed + 1, rfl⟩
      | err error =>
          refine .inr ⟨exits (by rw [outcome]; exact StepOutcome.noConfusion), _,
            exec_step_failed_exit index executed error _ world, .compensated, ?_⟩
          exact iff_of_false (List.cons_ne_nil _ _) opened
      | timedOut =>
          refine .inr ⟨exits (by rw [outcome]; exact StepOutcome.noConfusion), _,
            exec_step_timeout_exit executed _ world, .compensated, ?_⟩
          exact iff_of_false (List.cons_ne_nil _ _) opened

theorem run_steps_states (config : SagaOrchestratorConfig) (env : Env) (saga : Saga)
    (sagaId : SagaId) (start : SagaContext) (rest : List SagaStep) (index executed : Nat)
    (world : World) :
    ∃ written, (exec (handle env) (runSteps config saga sagaId index rest
        (contextBefore env start index) executed) world).2.states = world.states ++ written ∧
      ExitStates written ∧
      (written = [] ↔ StopsUnopened config env saga start index rest.length) := by
  induction rest generalizing index executed with
  | nil =>
      refine ⟨[.completed], rfl, .completed, ?_⟩
      apply iff_of_false (List.cons_ne_nil _ _)
      intro ⟨stop, above, below, _⟩
      simp only [List.length_nil] at below
      omega
  | cons step rest ih =>
      rw [List.length_cons]
      rcases run_steps_cons config env saga sagaId start step rest index executed world with
        ⟨passes, opened, counted, same⟩ | ⟨stops, written, states, exit, silent⟩
      · obtain ⟨written, states, exit, silent⟩ := ih (index + 1) counted
        rw [same]
        refine ⟨written, states, exit, ?_⟩
        rw [silent, stops_unopened_of_passes _ opened passes]
      · refine ⟨written, states, exit, ?_⟩
        rw [silent, stops_unopened_succ]
        constructor
        · intro unopened
          exact .inl unopened
        · intro either
          exact either.resolve_right fun later => stops later.1

/-! ## The whole call -/

/-- The saved initial state followed by each `update_state` argument. -/
def persistedStates (config : SagaOrchestratorConfig) (env : Env) (saga : Saga)
    (context : SagaContext) : List SagaState :=
  (exec (handle env) (executeSaga config saga context) ⟨[]⟩).2.states

def FollowsTransitions (states : List SagaState) : Prop :=
  states.IsChain fun state target => state.canTransitionTo target = true

/-- The call is refused, its context is not saved, or it comes to a step whose
transaction cannot be opened. -/
def EndsBeforeUpdate (config : SagaOrchestratorConfig) (env : Env) (saga : Saga)
    (context : SagaContext) : Prop :=
  (∃ error, env.admission = .error error) ∨ env.saveFault ≠ none ∨
    StopsUnopened config env saga context 0 saga.steps.length

theorem persisted_states_refused {error : DomainError} (context : SagaContext)
    (refused : env.admission = .error error) : persistedStates config env saga context = [] := by
  have asked : exec (handle env) (call .admission : OrchestratorM (Except DomainError Unit)) ⟨[]⟩ =
      (.ok (.error error), ⟨[]⟩) := by rw [← refused]; rfl
  unfold persistedStates executeSaga
  rw [exec_bind_ok _ _ _ asked]
  rfl

theorem exec_save (env : Env) (context : SagaContext) (world : World) :
    exec (handle env) (call (.save context) : OrchestratorM (Except String Unit)) world =
      match env.saveFault with
      | some error => (.ok (.error error), world)
      | none => (.ok (.ok ()), ⟨world.states ++ [context.state]⟩) := by
  cases fault : env.saveFault <;> simp [call, ask, exec_lift, handle, fault]

theorem persisted_states_admitted (context : SagaContext) (admitted : env.admission = .ok ()) :
    persistedStates config env saga context =
      match env.saveFault with
      | some _ => []
      | none => (exec (handle env) (runSteps config saga context.sagaId 0 saga.steps context
          context.currentStep) ⟨[context.state]⟩).2.states := by
  have asked : exec (handle env) (call .admission : OrchestratorM (Except DomainError Unit)) ⟨[]⟩ =
      (.ok (.ok ()), ⟨[]⟩) := by rw [← admitted]; rfl
  have saves := exec_save env context ⟨[]⟩
  unfold persistedStates executeSaga
  rw [exec_bind_ok _ _ _ asked]
  cases fault : env.saveFault with
  | some error =>
      simp only [fault] at saves
      dsimp only
      rw [exec_bind_ok _ _ _ saves]
      rfl
  | none =>
      simp only [fault] at saves
      dsimp only
      rw [exec_bind_ok _ _ _ saves]
      rfl

/-- From `Pending`, no exit that writes follows the state machine. -/
theorem follows_transitions_exit_iff {written : List SagaState} (exit : ExitStates written) :
    FollowsTransitions (.pending :: written) ↔ written = [] := by
  unfold FollowsTransitions
  cases exit with
  | none => simp
  | completed => simp [SagaState.canTransitionTo]
  | sagaTimedOut => simp [SagaState.canTransitionTo]
  | compensated => simp [SagaState.canTransitionTo]

/-- The persisted states of a saga that starts `Pending` are a path of the state
machine exactly when the call ends before its first `update_state`. -/
theorem persisted_states_follow_iff (config : SagaOrchestratorConfig) (env : Env) (saga : Saga)
    (context : SagaContext) (pending : context.state = .pending) :
    FollowsTransitions (persistedStates config env saga context) ↔
      EndsBeforeUpdate config env saga context := by
  unfold EndsBeforeUpdate
  cases admission : env.admission with
  | error error =>
      rw [persisted_states_refused context admission]
      exact iff_of_true .nil (.inl ⟨error, rfl⟩)
  | ok admitted =>
      rw [persisted_states_admitted context admission]
      cases fault : env.saveFault with
      | some error =>
          exact iff_of_true .nil (.inr (.inl (Option.some_ne_none error)))
      | none =>
          obtain ⟨written, states, exit, silent⟩ := run_steps_states config env saga context.sagaId
            context saga.steps 0 context.currentStep ⟨[context.state]⟩
          have path := follows_transitions_exit_iff exit
          rw [contextBefore] at states
          dsimp only
          rw [states, pending, List.singleton_append, path, silent]
          simp

/-- The second step's transaction cannot be opened: only `Pending` is
persisted. -/
theorem unopened_step_leaves_pending :
    FollowsTransitions (persistedStates {}
      { Env.quiet with
        beginFault := fun tx => if tx = .execute 1 then some "pool timed out" else none }
      ⟨.execution, [⟨"validate", false⟩, ⟨"assign", true⟩]⟩ (.new ⟨7⟩ .execution none none 0)) := by
  apply (persisted_states_follow_iff {} _ _ (.new ⟨7⟩ .execution none none 0) rfl).mpr
  refine .inr (.inr ⟨1, Nat.zero_le 1, by decide, ⟨by decide, by decide, by decide⟩, ?_⟩)
  intro earlier _ below
  have first : earlier = 0 := by omega
  subst first
  exact .inr ⟨by decide, rfl, rfl⟩

/-- A saga whose only step succeeds goes from `Pending` straight to
`Completed`. -/
theorem completed_saga_skips_in_progress :
    persistedStates {} .quiet ⟨.execution, [⟨"validate", false⟩]⟩
        (.new ⟨7⟩ .execution none none 0) = [.pending, .completed] ∧
      ¬FollowsTransitions (persistedStates {} .quiet ⟨.execution, [⟨"validate", false⟩]⟩
        (.new ⟨7⟩ .execution none none 0)) := by
  have states : persistedStates {} .quiet ⟨.execution, [⟨"validate", false⟩]⟩
      (.new ⟨7⟩ .execution none none 0) = [.pending, .completed] := rfl
  refine ⟨states, ?_⟩
  rw [states]
  simp [FollowsTransitions, SagaState.canTransitionTo]

end HodeiJobs.Sagas.InMemory
