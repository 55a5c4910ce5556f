import HodeiJobs.Dispatch.Dispatchers
import HodeiJobs.Library.Composition
import HodeiJobs.Sagas.ForwardRun

/-!
# The execution saga over the Postgres orchestrator

`DynExecutionSagaDispatcher::execute_execution_saga` with everything below it: the
calls of `execute_saga`, and in the place of each `execute()` and `compensate()`
the calls of the step itself. The process can end between any two of them.
-/

namespace HodeiJobs.Dispatch

open HodeiJobs.Library HodeiJobs.Execution
open HodeiJobs.Sagas (Uuid SagaContext SagaError SagaExecutionResult SagaId SagaOp SagaServices
  StepOutcome PostgresSagaOrchestratorConfig executeSaga)

/-! ## Calls and their world -/

inductive Call where
  | saga (op : SagaOp)
  | repository (op : Op)
  /-- How many calls of the step are answered before `step_timeout`, if it strikes. -/
  | stepTimer (sagaId : SagaId) (index : Nat)

def Call.Reply : Call → Type
  | .saga op => SagaOp.Reply op
  | .repository op => Op.Reply op
  | .stepTimer _ _ => Option Nat

structure World where
  sagas : Sagas.World
  tables : Tables
  /-- The workers of the `ExecuteJobCommand`s, as their handler looks them up. -/
  executeJobWorkers : List WorkerId

/-- What decides one call. `others` is what else happened to the jobs and workers. -/
structure Moment where
  saga : Sagas.Env
  repository : Execution.Env
  stepTimer : SagaId → Nat → Option Nat
  others : Tables → Tables

def lookedUpWorker : Op → List WorkerId
  | .findWorker site workerId => if site = .executeFindWorker then [workerId] else []
  | _ => []

def handleCall (moment : Moment) : (call : Call) → World → Call.Reply call × World
  | .saga op, world =>
      let answered := Sagas.handle moment.saga op world.sagas
      (answered.1, { world with sagas := answered.2 })
  | .repository op, world =>
      let answered := Execution.handle moment.repository op (moment.others world.tables)
      (answered.1, { world with
        tables := answered.2
        executeJobWorkers := world.executeJobWorkers ++ lookedUpWorker op })
  | .stepTimer sagaId index, world => (moment.stepTimer sagaId index, world)

/-! ## Steps in the place of their calls -/

def repositoryCall (op : Op) : Program Call Call.Reply (Op.Reply op) :=
  .call (.repository op) .done

/-- `tokio::time::timeout(step_timeout, step.execute(..))`. A step writes to its context
only after its last call. -/
def executeCall (steps : List Execution.SagaStep) (sagaId : SagaId) (index : Nat)
    (context : SagaContext) : Program Call Call.Reply (StepOutcome × SagaContext) :=
  match steps[index]? with
  | some step =>
      .call (.stepTimer sagaId index) fun limit => do
        match ← Program.within limit (Program.expand repositoryCall (step.execute context).run) with
        | some (.ok next) => return (.ok, next)
        | some (.error error) => return (.err error, context)
        | none => return (.timedOut, context)
  | none => return (.timedOut, context)

def compensateCall (steps : List Execution.SagaStep) (index : Nat) (context : SagaContext) :
    Program Call Call.Reply (Except SagaError Unit × SagaContext) :=
  match steps[index]? with
  | some step => do
      let outcome ← Program.expand repositoryCall (step.compensate context).run
      return (outcome, context)
  | none => return (.ok (), context)

def sagaCall (steps : List Execution.SagaStep) :
    (op : SagaOp) → Program Call Call.Reply (SagaOp.Reply op)
  | .execute sagaId index context => executeCall steps sagaId index context
  | .compensate _ index context => compensateCall steps index context
  | op => .call (.saga op) .done

/-! ## The dispatcher -/

inductive ExecutionSagaError where
  | jobNotFound (jobId : JobId)
  | workerNotFound (workerId : String)
  | sagaFailed (message : String)
  | compensated

/-- Whatever `execute_saga` needs to know of its saga. -/
def orchestrated (steps : List Execution.SagaStep) : Sagas.Saga :=
  ⟨.execution, steps.map fun step => ⟨step.name, step.hasCompensation⟩⟩

def checkArguments (text : RustText) (jobId : JobId) (workerId : WorkerId) :
    CallM ExecutionSagaError Unit := do
  let job ← callOr (call (.findJob .dispatchFindJob jobId)) fun error =>
    .sagaFailed ("Failed to fetch job: " ++ text.displayDomainError error)
  let _ ← okOr job (.jobNotFound jobId)
  let worker ← callOr (call (.findWorker .dispatchFindWorker workerId)) fun error =>
    .sagaFailed ("Failed to fetch worker: " ++ text.displayDomainError error)
  let _ ← okOr worker (.workerNotFound (text.display workerId.uuid))
  return ()

/-- `SagaId::from_string`; `newV5` is `Uuid::new_v5` in the DNS namespace. -/
def executionSagaId (text : RustText) (newV5 : String → Uuid) (jobId : JobId)
    (workerId : WorkerId) : SagaId :=
  ⟨newV5 ("execution-" ++ text.display jobId.uuid ++ "-" ++ text.display workerId.uuid)⟩

/-- The context with its services, as `execute_saga` is given it. -/
def executionContext (text : RustText) (sagaId : SagaId) (now : Sagas.DateTime) (jobId : JobId)
    (workerId : WorkerId) : SagaContext :=
  { (DispatcherCall.dynExecution jobId workerId : DispatcherCall Unit).context text sagaId now with
    services := some ⟨true, true⟩ }

def sagaOutcome : Except Sagas.DomainError SagaExecutionResult →
    Except ExecutionSagaError SagaExecutionResult
  | .ok result =>
      if result.state = .completed then .ok result
      else if result.state = .compensating then .error .compensated
      else .error (.sagaFailed (result.errorMessage.getD "Unknown error"))
  | .error error => .error (.sagaFailed error.display)

section Dispatcher

variable (text : RustText) (newV5 : String → Uuid) (config : PostgresSagaOrchestratorConfig)
  (jobExecutor : Option JobExecutor) (jobId : JobId) (workerId : WorkerId)

/-- `execute_saga` on the execution saga of the job and the worker. -/
def orchestrate (context : SagaContext) :
    Program Call Call.Reply (Except Sagas.DomainError SagaExecutionResult) :=
  let steps := (ExecutionSaga.withWorker jobId workerId).steps text jobExecutor
  Program.expand (sagaCall steps) (executeSaga config (orchestrated steps) context).run

/-- `DynExecutionSagaDispatcher::execute_execution_saga`. -/
def executeExecutionSaga :
    Program Call Call.Reply (Except ExecutionSagaError SagaExecutionResult) := do
  match ← Program.expand repositoryCall (checkArguments text jobId workerId).run with
  | .error error => return .error error
  | .ok () =>
      let now ← .call (.saga .now) .done
      let sagaId := executionSagaId text newV5 jobId workerId
      let result ← orchestrate text config jobExecutor jobId workerId
        (executionContext text sagaId now jobId workerId)
      return sagaOutcome result

end Dispatcher

end HodeiJobs.Dispatch
