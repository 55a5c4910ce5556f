import HodeiJobs.Sagas.PostgresOrchestrator

/-!
# Transactions of `execute_saga`

When each transaction of the call passes, and what it leaves in the tables.
A repository call fails exactly when the environment faults it, so a
transaction passes exactly when none of its own calls is faulted.
-/

namespace HodeiJobs.Sagas

open HodeiJobs.Library HodeiJobs.Library.Program

/-- No call of this list is faulted in the transaction `label`. -/
def Clean (env : Env) (sagaId : SagaId) (label : TxLabel) (calls : List TxCall) : Prop :=
  ∀ call ∈ calls, (env.saga sagaId).fault label call = none

instance (env : Env) (sagaId : SagaId) (label : TxLabel) (calls : List TxCall) :
    Decidable (Clean env sagaId label calls) :=
  inferInstanceAs (Decidable (∀ call ∈ calls, _))

@[simp] theorem clean_nil (env : Env) (sagaId : SagaId) (label : TxLabel) :
    Clean env sagaId label [] ↔ True := by
  simp [Clean]

@[simp] theorem clean_cons (env : Env) (sagaId : SagaId) (label : TxLabel) (call : TxCall)
    (rest : List TxCall) :
    Clean env sagaId label (call :: rest) ↔
      (env.saga sagaId).fault label call = none ∧ Clean env sagaId label rest := by
  simp [Clean]

/-! ## Single calls -/

variable {env : Env} {world : World} {sagaId : SagaId} {label : TxLabel}

theorem begin_transaction_guarded :
    Guarded (handle env) ((env.saga sagaId).fault label .beginTransaction = none)
      (beginTransaction sagaId label) world ⟨sagaId, label, []⟩ world := by
  constructor
  · intro clean
    simp [beginTransaction, exec_bind, handle, faultReply, clean]
  · intro faulted
    obtain ⟨error, fault⟩ := Option.ne_none_iff_exists'.mp faulted
    simp [beginTransaction, exec_bind, handle, faultReply, fault]

theorem statement_guarded (tx : PgTransaction) (call : TxCall) (statement : Statement) :
    Guarded (handle env) ((env.saga tx.sagaId).fault tx.label call = none)
      (tx.statement call statement) world
      ⟨tx.sagaId, tx.label, tx.statements ++ [statement]⟩ world := by
  constructor
  · intro clean
    simp [PgTransaction.statement, exec_bind, handle, faultReply, clean]
  · intro faulted
    obtain ⟨error, fault⟩ := Option.ne_none_iff_exists'.mp faulted
    simp [PgTransaction.statement, exec_bind, handle, faultReply, fault]

theorem commit_guarded (tx : PgTransaction) :
    Guarded (handle env) ((env.saga tx.sagaId).fault tx.label .commit = none) tx.commit world ()
      { world with store := world.store.commit env.now tx.statements } := by
  constructor
  · intro clean
    simp [PgTransaction.commit, exec_bind, handle, clean]
  · intro faulted
    obtain ⟨error, fault⟩ := Option.ne_none_iff_exists'.mp faulted
    simp [PgTransaction.commit, exec_bind, handle, fault]

theorem rollback_guarded (env : Env) (world : World) (tx : PgTransaction) :
    Guarded (handle env) ((env.saga tx.sagaId).fault tx.label .rollback = none) tx.rollback world
      () world := by
  constructor
  · intro clean
    simp [PgTransaction.rollback, exec_bind, handle, faultReply, clean]
  · intro faulted
    obtain ⟨error, fault⟩ := Option.ne_none_iff_exists'.mp faulted
    simp [PgTransaction.rollback, exec_bind, handle, faultReply, fault]

theorem with_context_guarded {Result : Type} {guard : Prop} {program : SagaM Result}
    {result : Result} {after : World} (text : String)
    (guarded : Guarded (handle env) guard program world result after) :
    Guarded (handle env) guard (withContext text program) world result after := by
  constructor
  · intro holds
    rw [withContext, exec_try_catch, guarded.passes holds]
  · intro fails
    obtain ⟨failure, stopped⟩ := guarded.stops fails
    rw [withContext, exec_try_catch, stopped]
    exact ⟨_, rfl⟩

/-- An error that is dropped leaves the world as it was. -/
theorem run_ignoring {Result : Type} {guard : Prop} [Decidable guard] {program : SagaM Result}
    {result : Result} {after : World} (fallback : Result)
    (guarded : Guarded (handle env) guard program world result after) :
    runSaga env (ignoring program fallback) world =
      if guard then (.ok result, after) else (.ok fallback, world) := by
  unfold runSaga ignoring
  rw [exec_try_catch]
  split_ifs with holds
  · rw [guarded.passes holds]
  · obtain ⟨failure, stopped⟩ := guarded.stops holds
    rw [stopped]
    rfl

/-! ## Whole transactions -/

/-- A transaction of one statement. -/
theorem single_statement_guarded (call : TxCall) (statement : Statement) :
    Guarded (handle env) (Clean env sagaId label [.beginTransaction, call, .commit])
      (do
        let tx ← beginTransaction sagaId label
        let tx ← tx.statement call statement
        tx.commit) world ()
      { world with store := world.store.commit env.now [statement] } := by
  refine Guarded.iff ?_ (Guarded.bind begin_transaction_guarded
    (Guarded.bind (statement_guarded _ _ _) (commit_guarded _)))
  simp

def initialCalls : List TxCall := [.beginTransaction, .saveWithTx, .commit]

theorem save_initial_context_guarded (env : Env) (world : World) (context : SagaContext) :
    Guarded (handle env) (Clean env context.sagaId .initial initialCalls)
      (saveInitialContext context) world ()
      { world with store := world.store.save env.now context } :=
  single_statement_guarded .saveWithTx (.saveWithTx context)

/-- The transactions that only write the saga state. -/
def stateCalls : List TxCall := [.beginTransaction, .updateStateWithTx, .commit]

theorem mark_completed_guarded (env : Env) (world : World) (sagaId : SagaId) :
    Guarded (handle env) (Clean env sagaId .completed stateCalls) (markCompleted sagaId) world ()
      { world with store := world.store.updateState env.now sagaId .completed none } :=
  single_statement_guarded .updateStateWithTx (.updateStateWithTx sagaId .completed none)

theorem mark_rolled_back_guarded (env : Env) (world : World) (sagaId : SagaId) :
    Guarded (handle env) (Clean env sagaId .compensated stateCalls) (markRolledBack sagaId) world
      () { world with store := world.store.updateState env.now sagaId .completed none } := by
  refine Guarded.iff ?_ (Guarded.bind begin_transaction_guarded
    (Guarded.bind (with_context_guarded _ (statement_guarded _ _ _)) (commit_guarded _)))
  simp [stateCalls]

/-! ### The step transaction -/

def freshStepId (env : Env) (world : World) : Uuid :=
  env.uuids.newV4 (world.store.steps.map SagaStepDbRow.id ++ world.issued)

theorem fresh_step_id_unused (env : Env) (world : World) :
    freshStepId env world ∉ world.store.steps.map SagaStepDbRow.id := by
  intro used
  exact env.uuids.fresh _ (List.mem_append_left _ used)

def issueStepId (env : Env) (world : World) : World :=
  { world with issued := freshStepId env world :: world.issued }

def newStepData (env : Env) (world : World) (sagaId : SagaId) (index : Nat) (step : SagaStep) :
    SagaStepData :=
  .newWithOrder sagaId step.name index none ⟨freshStepId env world⟩ env.now

def startedTx (env : Env) (world : World) (sagaId : SagaId) (index : Nat) (step : SagaStep) :
    PgTransaction :=
  ⟨sagaId, .step index,
    [.saveStepWithTx (newStepData env world sagaId index step),
      .updateStepStateWithTx ⟨freshStepId env world⟩ .inProgress none]⟩

def startCalls : List TxCall :=
  [.beginTransaction, .saveStepWithTx, .updateStepStateWithTx .inProgress]

def finishCalls : List TxCall := [.updateStepStateWithTx .completed, .saveWithTx, .commit]

def failCalls : List TxCall :=
  [.beginTransaction, .updateStepStateWithTx .failed, .updateStateWithTx, .commit]

theorem run_start_step_ok (world : World) (index : Nat) (step : SagaStep)
    (clean : Clean env sagaId (.step index) startCalls) :
    runSaga env (startStep sagaId index step) world =
      (.ok (⟨freshStepId env world⟩, startedTx env world sagaId index step),
        issueStepId env world) := by
  simp only [startCalls, clean_cons] at clean
  obtain ⟨begun, saved, updated, -⟩ := clean
  simp [startStep, beginTransaction, PgTransaction.saveStepWithTx,
    PgTransaction.updateStepStateWithTx, PgTransaction.statement, exec_bind, handle, faultReply,
    begun, saved, updated, issueStepId, freshStepId, startedTx, newStepData,
    SagaStepData.newWithOrder]

theorem run_start_step_error (env : Env) (world : World) (index : Nat) (step : SagaStep)
    (faulted : ¬Clean env sagaId (.step index) startCalls) :
    ∃ failure, runSaga env (startStep sagaId index step) world =
      (.error failure, issueStepId env world) := by
  have opened : Guarded (handle env) (Clean env sagaId (.step index) startCalls)
      (do
        let tx ← beginTransaction sagaId (.step index)
        let tx ← tx.saveStepWithTx (newStepData env world sagaId index step)
        let tx ← tx.updateStepStateWithTx ⟨freshStepId env world⟩ .inProgress none
        return ((⟨freshStepId env world⟩ : SagaStepId), tx))
      (issueStepId env world) (⟨freshStepId env world⟩, startedTx env world sagaId index step)
      (issueStepId env world) := by
    refine Guarded.iff ?_ (Guarded.bind begin_transaction_guarded
      (Guarded.bind (statement_guarded _ _ _)
        (Guarded.bind (statement_guarded _ _ _) (Guarded.pure _ _ _))))
    simp [startCalls]
  exact opened.stops faulted

theorem finish_step_guarded (env : Env) (world : World) (tx : PgTransaction) (stepId : SagaStepId)
    (context : SagaContext) :
    Guarded (handle env) (Clean env tx.sagaId tx.label finishCalls)
      (finishStep tx stepId context) world ()
      { world with
        store := world.store.commit env.now
          (tx.statements ++ [.updateStepStateWithTx stepId .completed none] ++
            [.saveWithTx context]) } := by
  refine Guarded.iff ?_ (Guarded.bind (statement_guarded _ _ _)
    (Guarded.bind (statement_guarded _ _ _) (commit_guarded _)))
  simp [finishCalls]

theorem fail_step_guarded (env : Env) (sagaId : SagaId) (world : World) (tx : PgTransaction)
    (index : Nat) (stepId : SagaStepId) (error : SagaError) :
    Guarded (handle env)
      (Clean env tx.sagaId tx.label [.rollback] ∧ Clean env sagaId (.stepFailed index) failCalls)
      (failStep tx sagaId index stepId error) world ()
      { world with
        store := world.store.commit env.now
          [.updateStepStateWithTx stepId .failed none,
            .updateStateWithTx sagaId .compensating (some error.display)] } := by
  refine Guarded.iff ?_ (Guarded.bind (rollback_guarded _ _ _)
    (Guarded.bind begin_transaction_guarded
      (Guarded.bind (statement_guarded _ _ _)
        (Guarded.bind (statement_guarded _ _ _) (commit_guarded _)))))
  simp [failCalls]

/-! ### The compensation transaction -/

def startCompensationCalls : List TxCall :=
  [.beginTransaction, .updateStepStateWithTx .compensating]

def finishCompensationCalls : List TxCall := [.updateStepStateWithTx .compensated, .commit]

def compensationTx (sagaId : SagaId) (index : Nat) (record : SagaStepData) : PgTransaction :=
  ⟨sagaId, .compensation index, [.updateStepStateWithTx record.stepId .compensating none]⟩

theorem start_compensation_guarded (env : Env) (world : World) (sagaId : SagaId)
    (completedSteps : List SagaStepData) (index : Nat) {record : SagaStepData}
    (found : completedSteps.find? (SagaStepData.isAt index) = some record) :
    Guarded (handle env) (Clean env sagaId (.compensation index) startCompensationCalls)
      (startCompensation sagaId completedSteps index) world
      (compensationTx sagaId index record) world := by
  have marked : Guarded (handle env)
      ((env.saga sagaId).fault (.compensation index) (.updateStepStateWithTx .compensating) = none)
      (markRecord ⟨sagaId, .compensation index, []⟩ completedSteps index .compensating
        "Failed to update step state to compensating") world
      (compensationTx sagaId index record) world := by
    unfold markRecord
    rw [found]
    exact with_context_guarded _ (statement_guarded ⟨sagaId, .compensation index, []⟩
      (.updateStepStateWithTx .compensating) _)
  refine Guarded.iff ?_ (Guarded.bind begin_transaction_guarded marked)
  simp [startCompensationCalls]

theorem finish_compensation_guarded (env : Env) (world : World) (sagaId : SagaId)
    (completedSteps : List SagaStepData) (index : Nat) {record : SagaStepData}
    (found : completedSteps.find? (SagaStepData.isAt index) = some record) :
    Guarded (handle env) (Clean env sagaId (.compensation index) finishCompensationCalls)
      (finishCompensation (compensationTx sagaId index record) completedSteps index) world ()
      { world with
        store := world.store.commit env.now
          [.updateStepStateWithTx record.stepId .compensating none,
            .updateStepStateWithTx record.stepId .compensated none] } := by
  have marked : Guarded (handle env)
      ((env.saga sagaId).fault (.compensation index) (.updateStepStateWithTx .compensated) = none)
      (markRecord (compensationTx sagaId index record) completedSteps index .compensated
        "Failed to update step state to compensated") world
      ⟨sagaId, .compensation index,
        [.updateStepStateWithTx record.stepId .compensating none,
          .updateStepStateWithTx record.stepId .compensated none]⟩ world := by
    unfold markRecord
    rw [found]
    exact with_context_guarded _ (statement_guarded (compensationTx sagaId index record)
      (.updateStepStateWithTx .compensated) _)
  refine Guarded.iff ?_ (Guarded.bind marked (commit_guarded _))
  simp [finishCompensationCalls]

/-! ## Exits -/

/-- The saga row after an exit that tries to mark the saga failed: the update
takes effect when none of its calls is faulted. -/
def failedStore (env : Env) (store : SagaStore) (sagaId : SagaId) (label : TxLabel)
    (message : Option String) : SagaStore :=
  if Clean env sagaId label stateCalls then store.updateState env.now sagaId .failed message
  else store

@[simp] theorem failed_store_steps (env : Env) (store : SagaStore) (sagaId : SagaId)
    (label : TxLabel) (message : Option String) :
    (failedStore env store sagaId label message).steps = store.steps := by
  unfold failedStore
  split_ifs <;> rfl

theorem run_saga_timeout_exit (env : Env) (world : World) (sagaId : SagaId) (Result : Type)
    (index : Nat) (context : SagaContext) :
    ∃ failure, runSaga env (sagaTimeoutExit sagaId index context : SagaM Result) world =
      (.error failure,
        { world with
          store := failedStore env world.store sagaId (.sagaTimeout index)
            (some ("Saga timed out after " ++
              ((env.saga sagaId).elapsed (.timeoutContext index)).debug)) }) := by
  cases begun : (env.saga sagaId).fault (.sagaTimeout index) .beginTransaction <;>
    cases updated : (env.saga sagaId).fault (.sagaTimeout index) .updateStateWithTx <;>
      cases committed : (env.saga sagaId).fault (.sagaTimeout index) .commit <;>
        simp [sagaTimeoutExit, beginTransaction, ignoring, PgTransaction.updateStateWithTx,
          PgTransaction.statement, PgTransaction.commit, exec_bind, exec_try_catch, handle,
          faultReply, failedStore, stateCalls, begun, updated, committed, SagaStore.commit,
          SagaStore.apply, SagaContext.setError]

theorem run_step_timeout_exit {Result : Type} (config : PostgresSagaOrchestratorConfig)
    (tx : PgTransaction) :
    runSaga env (stepTimeoutExit config tx : SagaM Result) world =
      (.error (.infrastructureError ("Step timed out after " ++ config.stepTimeout.debug)),
        world) := by
  have rolledBack := run_ignoring () (rollback_guarded env world tx)
  rw [ite_self] at rolledBack
  unfold runSaga stepTimeoutExit
  rw [exec_bind_ok _ _ _ rolledBack]
  rfl

/-- The world after a failed compensation. -/
def abandonedStore (env : Env) (store : SagaStore) (sagaId : SagaId) (index : Nat)
    (step : SagaStep) (error : SagaError) : SagaStore :=
  if Clean env sagaId (.compensation index) [.rollback] then
    failedStore env store sagaId (.compensationFailed index)
      (some ("Compensation failed for step '" ++ step.name ++ "': " ++ error.display))
  else store

@[simp] theorem abandoned_store_steps (env : Env) (store : SagaStore) (sagaId : SagaId)
    (index : Nat) (step : SagaStep) (error : SagaError) :
    (abandonedStore env store sagaId index step error).steps = store.steps := by
  unfold abandonedStore
  split_ifs
  · exact failed_store_steps _ _ _ _ _
  · rfl

theorem run_abandon_compensation (env : Env) (world : World) (sagaId : SagaId) (Result : Type)
    (record : SagaStepData) (index : Nat) (step : SagaStep) (error : SagaError) :
    ∃ failure, runSaga env
        (abandonCompensation (compensationTx sagaId index record) sagaId index step error :
          SagaM Result) world =
      (.error failure,
        { world with store := abandonedStore env world.store sagaId index step error }) := by
  cases rolledBack : (env.saga sagaId).fault (.compensation index) .rollback <;>
    cases begun : (env.saga sagaId).fault (.compensationFailed index) .beginTransaction <;>
      cases updated : (env.saga sagaId).fault (.compensationFailed index) .updateStateWithTx <;>
        cases committed : (env.saga sagaId).fault (.compensationFailed index) .commit <;>
          simp [abandonCompensation, PgTransaction.rollback, compensationTx, beginTransaction,
            ignoring, PgTransaction.updateStateWithTx, PgTransaction.statement,
            PgTransaction.commit, exec_bind, exec_try_catch, handle, faultReply, abandonedStore,
            failedStore, stateCalls, rolledBack, begun, updated, committed, SagaStore.commit,
            SagaStore.apply]

/-! ## What the commits write to `saga_steps` -/

/-- The record that a committed step leaves. -/
def completedRow (env : Env) (world : World) (sagaId : SagaId) (index : Nat) (step : SagaStep) :
    SagaStepDbRow :=
  SagaStore.stepStateChange env.now .completed none
    (SagaStore.stepStateChange env.now .inProgress none
      (SagaStepDbRow.ofData env.now (newStepData env world sagaId index step)))

theorem commit_finished_step_steps (index : Nat) (step : SagaStep) (context : SagaContext) :
    (world.store.commit env.now
        ((startedTx env world sagaId index step).statements ++
          [.updateStepStateWithTx ⟨freshStepId env world⟩ .completed none] ++
          [.saveWithTx context])).steps =
      world.store.steps ++ [completedRow env world sagaId index step] := by
  have unused := fresh_step_id_unused env world
  have inserted := SagaStore.save_step_absent world.store env.now
    (newStepData env world sagaId index step) unused
  have started := SagaStore.update_step_state_last _ env.now ⟨freshStepId env world⟩ .inProgress
    none _ _ rfl unused inserted
  have finished := SagaStore.update_step_state_last _ env.now ⟨freshStepId env world⟩ .completed
    none _ _ rfl unused started
  exact (SagaStore.save_steps _ _ _).trans finished

/-- The step that failed was rolled back, so its `Failed` mark finds no row. -/
theorem commit_failed_step_steps (error : SagaError) :
    (world.store.commit env.now
        [.updateStepStateWithTx ⟨freshStepId env world⟩ .failed none,
          .updateStateWithTx sagaId .compensating (some error.display)]).steps =
      world.store.steps :=
  SagaStore.update_step_state_absent _ _ _ _ _ (fresh_step_id_unused env world)

end HodeiJobs.Sagas
