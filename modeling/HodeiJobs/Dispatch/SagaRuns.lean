import HodeiJobs.Dispatch.StepRuns

/-!
# The dispatcher under the protocol

The transactions of `execute_saga` around the steps, the loop over the four steps,
its rollback, and the whole of `execute_execution_saga`.
-/

namespace HodeiJobs.Dispatch

open HodeiJobs.Library HodeiJobs.Library.Program HodeiJobs.Execution
open HodeiJobs.Sagas (SagaContext SagaId SagaOp SagaM SagaStepData Statement StepOutcome TxCall
  TxLabel PgTransaction PostgresSagaOrchestratorConfig SagaExecutionResult completedAt)

section Transactions

variable {view : View} {memory : Progress} {steps : List Execution.SagaStep} {Result : Type}
  {fails : Progress → Prop}

abbrev View.Goes (view : View) (steps : List Execution.SagaStep) (post : Progress → Result → Prop)
    (program : SagaM Result) (memory : Progress) : Prop :=
  Settles (sagaCall steps) view.protocol view.Fails post program memory

abbrev View.Unwinds (view : View) (steps : List Execution.SagaStep) (program : SagaM Result) :
    Prop :=
  Maintains (sagaCall steps) view.protocol view.Fails program

/-- A call that is dead may fail anywhere. -/
theorem fails_of_dead (dead : ¬view.live) (memory : Progress) : view.Fails memory :=
  fun live => absurd live dead

theorem goes_request {op : SagaOp} {post : Progress → SagaOp.Reply op → Prop}
    (single : sagaCall steps op = .call (.saga op) .done)
    (allowed : view.protocol.allows memory (.saga op))
    (answered : ∀ reply, view.sagaAnswers op reply → post (memory.note (.saga op)) reply) :
    Settles (sagaCall steps) view.protocol fails post (Sagas.request op) memory := by
  apply settles_request
  rw [single]
  exact ⟨allowed, answered⟩

/-- A call inside a transaction of the live saga is answered. -/
theorem goes_tx_call {sagaId : SagaId} {label : TxLabel} {call : TxCall}
    {post : Progress → Result → Prop} {next : Except String Unit → SagaM Result}
    (own : sagaId = view.sagaId) (dead : ¬view.live → fails memory)
    (passes : Settles (sagaCall steps) view.protocol fails post (next (.ok ())) memory)
    (stops : ∀ error, ∃ failure, next (.error error) = throw failure) :
    Settles (sagaCall steps) view.protocol fails post
      (Sagas.request (.txCall sagaId label call) >>= next) memory := by
  apply settles_seq
  refine goes_request rfl trivial ?_
  intro reply answered
  cases reply with
  | ok _ => exact passes
  | error error =>
      obtain ⟨failure, stopped⟩ := stops error
      rw [stopped]
      apply settles_throw
      apply dead
      intro live
      cases answered live own

theorem goes_begin (label : TxLabel) (dead : ¬view.live → fails memory) :
    Settles (sagaCall steps) view.protocol fails
      (fun after tx => after = memory ∧ tx = ⟨view.sagaId, label, []⟩)
      (Sagas.beginTransaction view.sagaId label) memory := by
  unfold Sagas.beginTransaction
  apply goes_tx_call rfl dead
  · exact settles_pure ⟨rfl, rfl⟩
  · exact fun _ => ⟨_, rfl⟩

theorem goes_statement {tx : PgTransaction} (own : tx.sagaId = view.sagaId) (call : TxCall)
    (statement : Statement) (dead : ¬view.live → fails memory) :
    Settles (sagaCall steps) view.protocol fails
      (fun after next => after = memory ∧
        next = { tx with statements := tx.statements ++ [statement] })
      (tx.statement call statement) memory := by
  unfold PgTransaction.statement
  apply goes_tx_call own dead
  · exact settles_pure ⟨rfl, rfl⟩
  · exact fun _ => ⟨_, rfl⟩

theorem goes_rollback {tx : PgTransaction} (own : tx.sagaId = view.sagaId)
    (dead : ¬view.live → fails memory) :
    Settles (sagaCall steps) view.protocol fails (fun after _ => after = memory) tx.rollback
      memory := by
  unfold PgTransaction.rollback
  apply goes_tx_call own dead
  · exact settles_pure rfl
  · exact fun _ => ⟨_, rfl⟩

theorem goes_commit {tx : PgTransaction} (own : tx.sagaId = view.sagaId)
    (allowed : view.MayCommit memory tx.label tx.statements)
    (dead : ¬view.live → fails (memory.note (.saga (.commit tx.sagaId tx.label tx.statements)))) :
    Settles (sagaCall steps) view.protocol fails
      (fun after _ => after = memory.note (.saga (.commit tx.sagaId tx.label tx.statements)))
      tx.commit memory := by
  unfold PgTransaction.commit
  apply settles_seq
  refine goes_request rfl allowed ?_
  intro reply answered
  cases reply with
  | ok _ => exact settles_pure rfl
  | error error =>
      apply settles_throw
      apply dead
      intro live
      cases answered live own

theorem goes_check_admission :
    view.Goes steps (fun after _ => after = memory) (Sagas.checkAdmission view.sagaId) memory := by
  unfold Sagas.checkAdmission
  apply settles_seq
  refine goes_request rfl trivial ?_
  intro reply answered
  cases reply with
  | ok _ => exact settles_pure rfl
  | error error =>
      apply settles_throw
      intro live
      cases answered live rfl

theorem goes_save_initial {context : SagaContext} (own : context.sagaId = view.sagaId)
    (unrecorded : memory.recorded = false) :
    view.Goes steps (fun after _ => after = memory) (Sagas.saveInitialContext context) memory := by
  unfold Sagas.saveInitialContext
  rw [own]
  apply settles_bind (goes_begin .initial fun dead => fails_of_dead dead memory)
  rintro after tx ⟨rfl, rfl⟩
  apply settles_bind (goes_statement rfl _ _ fun dead => fails_of_dead dead after)
  rintro after tx ⟨rfl, rfl⟩
  apply goes_commit rfl
  · exact .inr (.inl ⟨unrecorded, context, rfl⟩)
  · exact fun dead => fails_of_dead dead _

theorem goes_load_steps {text : String} (unrecorded : memory.recorded = false) :
    view.Goes steps
      (fun after stored => after = memory ∧ ∀ index, completedAt stored index = false)
      (Sagas.loadSteps view.sagaId .resume text) memory := by
  unfold Sagas.loadSteps
  apply settles_seq
  refine goes_request rfl unrecorded ?_
  intro reply answered
  obtain ⟨live, fresh⟩ := answered rfl
  cases reply with
  | ok stored => exact settles_pure ⟨rfl, fresh rfl stored rfl⟩
  | error error =>
      apply settles_throw
      intro alive
      obtain ⟨stored, same⟩ := live alive
      cases same

theorem goes_start_step {index : Nat} {step : Sagas.SagaStep} :
    view.Goes steps
      (fun after started => after = memory ∧ started.2.sagaId = view.sagaId ∧
        started.2.label = .step index)
      (Sagas.startStep view.sagaId index step) memory := by
  unfold Sagas.startStep
  apply settles_seq
  refine goes_request rfl trivial ?_
  intro stepId _
  apply settles_seq
  refine goes_request rfl trivial ?_
  intro created _
  apply settles_bind (goes_begin (.step index) fun dead => fails_of_dead dead memory)
  rintro after tx ⟨rfl, rfl⟩
  apply settles_bind (goes_statement rfl _ _ fun dead => fails_of_dead dead after)
  rintro after tx ⟨rfl, rfl⟩
  apply settles_bind (goes_statement rfl _ _ fun dead => fails_of_dead dead after)
  rintro after tx ⟨rfl, rfl⟩
  exact settles_pure ⟨rfl, rfl, rfl⟩

theorem goes_finish_step {tx : PgTransaction} {index : Nat} {stepId : Sagas.SagaStepId}
    {context : SagaContext} (own : tx.sagaId = view.sagaId) (label : tx.label = .step index)
    (validated : Validated view context) :
    view.Goes steps (fun after _ => after = { memory with recorded := true })
      (Sagas.finishStep tx stepId context) memory := by
  obtain ⟨sagaId, txLabel, statements⟩ := tx
  cases own
  cases label
  unfold Sagas.finishStep
  apply settles_bind (goes_statement rfl _ _ fun dead => fails_of_dead dead memory)
  rintro after tx ⟨rfl, rfl⟩
  apply settles_bind (goes_statement rfl _ _ fun dead => fails_of_dead dead after)
  rintro after tx ⟨rfl, rfl⟩
  apply goes_commit rfl
  · exact .inr (.inr ⟨⟨index, rfl⟩, _, context, rfl, validated.1, validated.2⟩)
  · exact fun dead => fails_of_dead dead _

end Transactions

/-! ## Rolling back -/

section Rollback

variable {view : View} {steps : List Execution.SagaStep} {Result : Type}

/-- A transaction that writes no context and records no step. -/
structure PlainTx (view : View) (tx : PgTransaction) : Prop where
  own : tx.sagaId = view.sagaId
  plain : ∀ statement ∈ tx.statements, Plain statement

/-- A program that hands such a transaction on. -/
def View.Prepares (view : View) (steps : List Execution.SagaStep)
    (program : SagaM PgTransaction) : Prop :=
  ∀ memory, view.Fails memory →
    view.Goes steps (fun after tx => view.Fails after ∧ PlainTx view tx) program memory

theorem unwinds_tx {program : SagaM PgTransaction} (prepares : view.Prepares steps program)
    {next : PgTransaction → SagaM Result}
    (rest : ∀ tx, PlainTx view tx → view.Unwinds steps (next tx)) :
    view.Unwinds steps (program >>= next) := by
  intro memory held
  apply settles_bind (prepares memory held)
  rintro after tx ⟨kept, plainTx⟩
  exact rest tx plainTx after kept

theorem prepares_bind {program : SagaM PgTransaction} (prepares : view.Prepares steps program)
    {next : PgTransaction → SagaM PgTransaction}
    (rest : ∀ tx, PlainTx view tx → view.Prepares steps (next tx)) :
    view.Prepares steps (program >>= next) := by
  intro memory held
  apply settles_bind (prepares memory held)
  rintro after tx ⟨kept, plainTx⟩
  exact rest tx plainTx after kept

theorem prepares_pure {tx : PgTransaction} (plainTx : PlainTx view tx) :
    view.Prepares steps (pure tx) :=
  fun _ held => settles_pure ⟨held, plainTx⟩

theorem prepares_begin (label : TxLabel) :
    view.Prepares steps (Sagas.beginTransaction view.sagaId label) := by
  intro memory held
  apply settles_imp (fun _ fails => fails) _ (goes_begin label fun _ => held)
  rintro after tx ⟨rfl, rfl⟩
  refine ⟨held, rfl, ?_⟩
  intro statement member
  cases member

theorem prepares_statement {tx : PgTransaction} (plainTx : PlainTx view tx) (call : TxCall)
    {statement : Statement} (plain : Plain statement) :
    view.Prepares steps (tx.statement call statement) := by
  intro memory held
  apply settles_imp (fun _ fails => fails) _ (goes_statement plainTx.own call statement
    fun _ => held)
  rintro after next ⟨rfl, rfl⟩
  refine ⟨held, plainTx.own, ?_⟩
  intro other member
  rcases List.mem_append.mp member with before | last
  · exact plainTx.plain other before
  · rw [List.mem_singleton.mp last]
    exact plain

/-- An error that is dropped. -/
theorem prepares_ignoring {program : SagaM PgTransaction} {tx : PgTransaction}
    (prepares : view.Prepares steps program) (plainTx : PlainTx view tx) :
    view.Prepares steps (Sagas.ignoring program tx) := by
  intro memory held
  unfold Sagas.ignoring
  apply settles_catch (prepares memory held)
  intro after _ kept
  exact settles_pure ⟨kept, plainTx⟩

theorem prepares_with_context {program : SagaM PgTransaction} {text : String}
    (prepares : view.Prepares steps program) :
    view.Prepares steps (Sagas.withContext text program) := by
  intro memory held
  unfold Sagas.withContext
  apply settles_catch (prepares memory held)
  intro after _ kept
  exact settles_throw _ kept

theorem unwinds_commit {tx : PgTransaction} (plainTx : PlainTx view tx) :
    view.Unwinds steps tx.commit := by
  intro memory held
  have kept : view.Fails (memory.note (.saga (.commit tx.sagaId tx.label tx.statements))) :=
    fails_note held _
  apply settles_imp (fun _ fails => fails) _ (goes_commit plainTx.own (.inl plainTx.plain)
    fun _ => kept)
  rintro after _ rfl
  exact kept

theorem unwinds_rollback {tx : PgTransaction} (own : tx.sagaId = view.sagaId) :
    view.Unwinds steps tx.rollback := by
  intro memory held
  apply settles_imp (fun _ fails => fails) _ (goes_rollback own fun _ => held)
  rintro after _ rfl
  exact held

theorem unwinds_request {op : SagaOp} (single : sagaCall steps op = .call (.saga op) .done)
    (allowed : ∀ memory, view.protocol.allows memory (.saga op)) :
    view.Unwinds steps (Sagas.request op) := by
  intro memory held
  refine goes_request single (allowed memory) ?_
  intro reply _
  exact fails_note held _

theorem unwinds_ignoring {program : SagaM Result} {fallback : Result}
    (unwinds : view.Unwinds steps program) :
    view.Unwinds steps (Sagas.ignoring program fallback) := by
  intro memory held
  unfold Sagas.ignoring
  apply settles_catch (unwinds memory held)
  intro after _ kept
  exact settles_pure kept

/-- The transaction in which a call notes that the saga failed, before it returns an error:
what goes wrong in it is dropped. -/
theorem unwinds_noting_failure {label : TxLabel} {message : Option String}
    {next : Unit → SagaM Result} (rest : ∀ noted, view.Unwinds steps (next noted)) :
    view.Unwinds steps (do
      let tx ← Sagas.beginTransaction view.sagaId label
      let tx ← Sagas.ignoring (tx.updateStateWithTx view.sagaId .failed message) tx
      let noted ← Sagas.ignoring tx.commit ()
      next noted) := by
  refine unwinds_tx (prepares_begin _) ?_
  intro tx plainTx
  refine unwinds_tx (prepares_ignoring (prepares_statement plainTx _ ?_) plainTx) ?_
  · exact trivial
  intro tx plainTx
  exact maintains_bind (unwinds_ignoring (unwinds_commit plainTx)) rest

theorem unwinds_saga_timeout_exit {index : Nat} {context : SagaContext} :
    view.Unwinds steps (Sagas.sagaTimeoutExit view.sagaId index context : SagaM Result) := by
  unfold Sagas.sagaTimeoutExit
  refine maintains_bind (unwinds_request rfl fun _ => trivial) ?_
  intro waited
  refine unwinds_noting_failure ?_
  intro _
  refine maintains_bind (unwinds_request rfl fun _ => trivial) ?_
  intro elapsed
  exact maintains_throw _

theorem unwinds_step_timeout_exit {config : PostgresSagaOrchestratorConfig} {tx : PgTransaction}
    (own : tx.sagaId = view.sagaId) :
    view.Unwinds steps (Sagas.stepTimeoutExit config tx : SagaM Result) := by
  unfold Sagas.stepTimeoutExit
  refine maintains_bind (unwinds_ignoring (unwinds_rollback own)) ?_
  intro _
  exact maintains_throw _

theorem unwinds_fail_step {tx : PgTransaction} (own : tx.sagaId = view.sagaId) {index : Nat}
    {stepId : Sagas.SagaStepId} {error : Sagas.SagaError} :
    view.Unwinds steps (Sagas.failStep tx view.sagaId index stepId error) := by
  unfold Sagas.failStep
  refine maintains_bind (unwinds_rollback own) ?_
  intro _
  refine unwinds_tx (prepares_begin _) ?_
  intro tx plainTx
  refine unwinds_tx (prepares_statement plainTx _ ?_) ?_
  · exact Sagas.SagaStepState.noConfusion
  intro tx plainTx
  refine unwinds_tx (prepares_statement plainTx _ ?_) ?_
  · exact trivial
  intro tx plainTx
  exact unwinds_commit plainTx

theorem prepares_mark_record {tx : PgTransaction} (plainTx : PlainTx view tx)
    {completed : List SagaStepData} {index : Nat} {state : Sagas.SagaStepState} {text : String}
    (unfinished : state ≠ .completed) :
    view.Prepares steps (Sagas.markRecord tx completed index state text) := by
  unfold Sagas.markRecord
  split
  · exact prepares_with_context (prepares_statement plainTx _ unfinished)
  · exact prepares_pure plainTx

end Rollback

/-! ## The execution saga -/

section Execution

variable {view : View} {memory : Progress} {text : RustText} {jobExecutor : Option JobExecutor}
  {config : PostgresSagaOrchestratorConfig} {saga : Sagas.Saga} {stored : List SagaStepData}

/-- The steps of the saga that the call is about. -/
abbrev View.steps (view : View) (text : RustText) (jobExecutor : Option JobExecutor) :
    List Execution.SagaStep :=
  (ExecutionSaga.withWorker view.jobId view.workerId).steps text jobExecutor

theorem compensate_call_obeys {index : Nat} {context : SagaContext} (held : view.Fails memory) :
    Obeys view.protocol (fun after _ => view.Fails after)
      (compensateCall (view.steps text jobExecutor) index context) memory := by
  unfold compensateCall
  split
  next step found =>
      have free : view.Free (step.compensate context) := by
        match index, found with
        | 0, found =>
            cases found
            exact maintains_pure ()
        | 1, found =>
            cases found
            exact free_assign_compensate context view.jobId
        | 2, found =>
            cases found
            exact free_execute_compensate context view.jobId
        | 3, found =>
            cases found
            exact maintains_pure ()
      rw [obeys_bind]
      apply obeys_imp view.protocol _ _ memory (free memory held)
      intro after outcome ended
      cases outcome <;> exact ended
  next => exact held

theorem unwinds_compensate_step {completed : List SagaStepData} {index : Nat}
    {step : Sagas.SagaStep} {context : SagaContext} :
    view.Unwinds (view.steps text jobExecutor)
      (Sagas.compensateStep view.sagaId completed index step context) := by
  unfold Sagas.compensateStep
  refine unwinds_tx (prepares_bind (prepares_begin _) fun tx plainTx =>
    prepares_mark_record plainTx Sagas.SagaStepState.noConfusion) ?_
  intro tx plainTx
  refine maintains_bind (fun memory held => settles_request (compensate_call_obeys held)) ?_
  rintro ⟨outcome, after⟩
  cases outcome with
  | ok _ =>
      unfold Sagas.finishCompensation
      refine maintains_bind ?_ fun _ => maintains_pure _
      refine unwinds_tx (prepares_mark_record plainTx Sagas.SagaStepState.noConfusion) ?_
      intro tx plainTx
      exact unwinds_commit plainTx
  | error error =>
      unfold Sagas.abandonCompensation
      refine maintains_bind (unwinds_rollback plainTx.own) ?_
      intro _
      refine unwinds_noting_failure ?_
      intro _
      exact maintains_throw _

theorem unwinds_compensate_steps {completed : List SagaStepData}
    (indexed : List (Sagas.SagaStep × Nat)) (context : SagaContext) (executed : Nat) :
    view.Unwinds (view.steps text jobExecutor)
      (Sagas.compensateSteps view.sagaId completed indexed context executed) := by
  induction indexed generalizing context executed with
  | nil => exact maintains_pure executed
  | cons entry rest ih =>
      obtain ⟨step, index⟩ := entry
      unfold Sagas.compensateSteps
      split_ifs
      · refine maintains_bind unwinds_compensate_step ?_
        intro next
        exact ih next (executed + 1)
      · exact ih context executed
      · exact ih context executed

theorem unwinds_compensate {context : SagaContext} {executed : Nat} :
    view.Unwinds (view.steps text jobExecutor)
      (Sagas.compensate saga view.sagaId context executed) := by
  unfold Sagas.compensate
  refine maintains_bind ?_ ?_
  · unfold Sagas.loadSteps
    refine maintains_bind (unwinds_request rfl fun _ => trivial) ?_
    intro reply
    cases reply with
    | ok records => exact maintains_pure records
    | error error => exact maintains_throw _
  intro records
  refine maintains_bind (unwinds_compensate_steps _ context 0) ?_
  intro compensations
  refine maintains_bind ?_ ?_
  · unfold Sagas.markRolledBack
    refine unwinds_tx (prepares_begin _) ?_
    intro tx plainTx
    refine unwinds_tx (prepares_with_context (prepares_statement plainTx _ ?_)) ?_
    · exact trivial
    intro tx plainTx
    exact unwinds_commit plainTx
  intro _
  refine maintains_bind (unwinds_request rfl fun _ => trivial) ?_
  intro elapsed
  exact maintains_pure _

/-- How a step ends. -/
def StepEnds (view : View) (post : Progress → SagaContext → Prop) (memory : Progress) :
    StepOutcome × SagaContext → Prop
  | (.ok, next) => post memory next
  | (.err _, _) | (.timedOut, _) => view.Fails memory

/-- What `executeCall` answers once the step has ended or was cut. -/
def stepReply (context : SagaContext) :
    Option (Except Sagas.SagaError SagaContext) →
      Program Call Call.Reply (StepOutcome × SagaContext)
  | some (.ok next) => return (.ok, next)
  | some (.error error) => return (.err error, context)
  | none => return (.timedOut, context)

/-- Only a dead call can run into the step timeout. -/
theorem execute_call_obeys {steps : List Execution.SagaStep} {index : Nat}
    {step : Execution.SagaStep} {context : SagaContext} {post : Progress → SagaContext → Prop}
    (found : steps[index]? = some step) (visits : view.Visits post (step.execute context) memory) :
    Obeys view.protocol (StepEnds view post) (executeCall steps view.sagaId index context)
      memory := by
  have ended : ∀ (after : Progress) (outcome : Except Sagas.SagaError SagaContext),
      Ends view.Fails post after outcome →
        Obeys view.protocol (StepEnds view post) (stepReply context (some outcome)) after := by
    intro after outcome held
    cases outcome <;> exact held
  unfold executeCall
  rw [found]
  refine ⟨trivial, ?_⟩
  intro limit answered
  cases limit with
  | none =>
      unfold within
      rw [obeys_bind, map_eq_pure_bind, obeys_bind]
      exact obeys_imp view.protocol ended _ memory visits
  | some count =>
      have dead : ¬view.live := by
        intro live
        cases answered live rfl
      unfold within
      rw [obeys_bind]
      apply obeys_imp view.protocol _ _ _ (obeys_cut view.protocol _ count memory visits)
      intro after result held
      cases result with
      | none => exact fails_of_dead dead after
      | some outcome => exact ended after outcome (held outcome rfl)

/-- One step of the forward loop that is not recorded yet. -/
theorem goes_step {index : Nat} {step : Sagas.SagaStep} {rest : List Sagas.SagaStep}
    {context : SagaContext} {executed : Nat} (pending : completedAt stored index = false)
    (executes : Obeys view.protocol
      (StepEnds view fun after next => Validated view next ∧ ∀ count,
        view.Goes (view.steps text jobExecutor) (fun last _ => view.Fails last)
          (Sagas.runSteps view.config saga view.sagaId stored (index + 1) rest next count)
          { after with recorded := true })
      (executeCall (view.steps text jobExecutor) view.sagaId index context) memory) :
    view.Goes (view.steps text jobExecutor) (fun last _ => view.Fails last)
      (Sagas.runSteps view.config saga view.sagaId stored index (step :: rest) context executed)
      memory := by
  unfold Sagas.runSteps
  rw [pending, if_neg Bool.false_ne_true]
  apply settles_seq
  refine goes_request rfl trivial ?_
  intro elapsed answered
  split_ifs with late
  · apply unwinds_saga_timeout_exit
    intro live
    exact absurd late (Nat.not_lt.mpr (answered live rfl))
  apply settles_bind goes_start_step
  rintro after ⟨stepId, tx⟩ ⟨rfl, own, label⟩
  apply settles_bind (settles_request executes)
  rintro next ⟨outcome, changed⟩ held
  cases outcome with
  | ok =>
      apply settles_bind (goes_finish_step own label held.1)
      rintro last _ rfl
      exact held.2 _
  | err error =>
      exact maintains_bind (unwinds_fail_step own) (fun _ => unwinds_compensate) next held
  | timedOut => exact unwinds_step_timeout_exit own next held

theorem unwinds_end {steps : List Execution.SagaStep} {index executed : Nat}
    {context : SagaContext} :
    view.Unwinds steps
      (Sagas.runSteps config saga view.sagaId stored index [] context executed) := by
  unfold Sagas.runSteps
  refine maintains_bind ?_ ?_
  · unfold Sagas.markCompleted
    refine unwinds_tx (prepares_begin _) ?_
    intro tx plainTx
    refine unwinds_tx (prepares_statement plainTx _ ?_) ?_
    · exact trivial
    intro tx plainTx
    exact unwinds_commit plainTx
  intro _
  refine maintains_bind (unwinds_request rfl fun _ => trivial) ?_
  intro elapsed
  exact maintains_pure _

/-- The four steps, none of which is recorded. -/
theorem goes_run_steps (implemented : ∀ executor ∈ jobExecutor, executor = jobExecutorImpl)
    (fresh : ∀ index, completedAt stored index = false) {context : SagaContext} {executed : Nat}
    (marked : Marked view [] context) (unwritten : memory.written = false) :
    view.Goes (view.steps text jobExecutor) (fun last _ => view.Fails last)
      (Sagas.runSteps view.config saga view.sagaId stored 0
        (orchestrated (view.steps text jobExecutor)).steps context executed) memory := by
  refine goes_step (fresh 0) (execute_call_obeys rfl (settles_imp (fun _ fails => fails) ?_
    (visits_validate marked unwritten)))
  rintro after next ⟨rfl, marked⟩
  refine ⟨validated_of_marked marked (by decide), ?_⟩
  intro count
  refine goes_step (fresh 1) (execute_call_obeys rfl (settles_imp (fun _ fails => fails) ?_
    (visits_assign marked unwritten)))
  rintro after next ⟨rfl, marked, named, assignable⟩
  refine ⟨validated_of_marked marked (by decide), ?_⟩
  intro count
  refine goes_step (fresh 2) (execute_call_obeys rfl (settles_imp (fun _ fails => fails) ?_
    (visits_execute implemented marked named assignable)))
  rintro after next ⟨held, validated, services⟩
  refine ⟨validated, ?_⟩
  intro count
  refine goes_step (fresh 3) (execute_call_obeys rfl (settles_imp (fun _ fails => fails) ?_
    (visits_complete validated services held)))
  rintro after next ⟨held, validated⟩
  refine ⟨validated, ?_⟩
  intro count
  exact unwinds_end _ held

theorem marked_rehydrate {context : SagaContext} {done : List String}
    (marked : Marked view done context) (stored : List SagaStepData) :
    Marked view done (Sagas.rehydrate stored context) := by
  unfold Sagas.rehydrate
  induction stored.filter SagaStepData.isCompleted generalizing context with
  | nil => exact marked
  | cons data rest ih =>
      apply ih
      dsimp only
      split
      · exact ⟨marked.sagaId, marked.services, marked.flags⟩
      · exact marked

theorem goes_execute_saga (implemented : ∀ executor ∈ jobExecutor, executor = jobExecutorImpl)
    {context : SagaContext} (marked : Marked view [] context)
    (unrecorded : memory.recorded = false) (unwritten : memory.written = false) :
    view.Goes (view.steps text jobExecutor) (fun last _ => view.Fails last)
      (Sagas.executeSaga view.config (orchestrated (view.steps text jobExecutor)) context)
      memory := by
  unfold Sagas.executeSaga
  rw [marked.sagaId]
  apply settles_bind goes_check_admission
  rintro after _ rfl
  apply settles_bind (goes_save_initial marked.sagaId unrecorded)
  rintro after _ rfl
  apply settles_bind (goes_load_steps unrecorded)
  rintro after stored ⟨rfl, fresh⟩
  exact goes_run_steps implemented fresh (marked_rehydrate marked stored) unwritten

theorem marked_execution_context (now : Sagas.DateTime) :
    Marked view [] (executionContext text view.sagaId now view.jobId view.workerId) := by
  refine ⟨rfl, rfl, ?_⟩
  intro key member
  have others : ∀ key ∈ stepFlags, key ≠ "job_id" ∧ key ≠ "worker_id" := by decide
  refine (has_flag_set_other _ _ (others key member).2).trans ?_
  exact has_flag_set_other _ _ (others key member).1

theorem visits_check_arguments :
    view.Visits (fun after _ => after = memory) (checkArguments text view.jobId view.workerId)
      memory := by
  unfold checkArguments
  apply settles_bind (visits_find_job fun early => absurd early (by decide))
  rintro after found ⟨rfl, live, -⟩
  apply settles_seq
  apply visits_ok_or live
  intro job _
  apply settles_bind (visits_find_worker (fun early => by cases early) (by decide))
  rintro after found ⟨rfl, live, -⟩
  apply settles_seq
  apply visits_ok_or live
  intro worker _
  exact settles_pure rfl

/-- The dispatcher obeys the protocol, and a live call dispatches the command. -/
theorem execute_execution_saga_obeys (newV5 : String → Sagas.Uuid)
    (implemented : ∀ executor ∈ jobExecutor, executor = jobExecutorImpl)
    (own : view.sagaId = executionSagaId text newV5 view.jobId view.workerId)
    (unrecorded : memory.recorded = false) (unwritten : memory.written = false) :
    Obeys view.protocol (fun last _ => view.Fails last)
      (executeExecutionSaga text newV5 view.config jobExecutor view.jobId view.workerId)
      memory := by
  have orchestrates : ∀ now, Obeys view.protocol (fun last _ => view.Fails last)
      (orchestrate text view.config jobExecutor view.jobId view.workerId
        (executionContext text (executionSagaId text newV5 view.jobId view.workerId) now view.jobId
          view.workerId) >>= fun result => pure (sagaOutcome result)) memory := by
    intro now
    rw [← own, obeys_bind]
    apply obeys_imp view.protocol _ _ memory
      (goes_execute_saga implemented (marked_execution_context now) unrecorded unwritten)
    intro last result ended
    cases result <;> exact ended
  unfold executeExecutionSaga
  rw [obeys_bind]
  apply obeys_imp view.protocol _ _ memory visits_check_arguments
  intro after outcome held
  cases outcome with
  | error error => exact held
  | ok _ =>
      cases held
      exact ⟨trivial, fun now _ => orchestrates now⟩

end Execution

end HodeiJobs.Dispatch
