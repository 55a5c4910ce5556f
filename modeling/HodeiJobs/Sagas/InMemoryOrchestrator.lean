import Mathlib.Algebra.Group.Nat.Defs
import HodeiJobs.Sagas.Repository

/-!
# `InMemorySagaOrchestrator`

`execute_saga` of the in-memory orchestrator over any repository. The
repository is only called, so it is the environment: it answers each call with
`Ok` or with the text of its error. Audit records and the sleep between two
compensation attempts change nothing that the code reads and are left out.
-/

namespace HodeiJobs.Sagas.InMemory

open HodeiJobs.Library

/-! ## Configuration -/

structure SagaTimeoutConfig where
  provisioning : Duration := .fromSecs 300
  execution : Duration := .fromSecs 7200
  recovery : Duration := .fromSecs 900
  cancellation : Duration := .fromSecs 120
  timeout : Duration := .fromSecs 120
  cleanup : Duration := .fromSecs 300

def SagaTimeoutConfig.getTimeout (config : SagaTimeoutConfig) : SagaType → Duration
  | .provisioning => config.provisioning
  | .execution => config.execution
  | .recovery => config.recovery
  | .cancellation => config.cancellation
  | .timeout => config.timeout
  | .cleanup => config.cleanup

structure RetryPolicy where
  maxAttempts : Nat := 3

def RetryPolicy.shouldRetry (policy : RetryPolicy) (attempt : Nat) : Bool :=
  decide (attempt < policy.maxAttempts)

/-- The configuration that `execute_saga` reads after the admission. -/
structure SagaOrchestratorConfig where
  stepTimeout : Duration := .fromSecs 30
  compensationRetryPolicy : RetryPolicy := {}
  sagaTimeouts : SagaTimeoutConfig := {}

def SagaOrchestratorConfig.getSagaTimeout (config : SagaOrchestratorConfig)
    (sagaType : SagaType) : Duration :=
  config.sagaTimeouts.getTimeout sagaType

/-! ## Calls -/

/-- The transactions that the orchestrator opens and hands to a step. -/
inductive StepTx where
  | execute (index : Nat)
  | compensate (index attempt : Nat)
  deriving DecidableEq

inductive Op where
  | admission
  | save (context : SagaContext)
  | updateState (sagaId : SagaId) (state : SagaState) (errorMessage : Option String)
  | beginTransaction (tx : StepTx)
  | elapsed (read : ClockRead)
  | execute (index : Nat) (context : SagaContext)
  | compensate (index attempt : Nat) (context : SagaContext)

/-- Replies. An error of the repository is its text. -/
def Op.Reply : Op → Type
  | .admission => Except DomainError Unit
  | .save _ => Except String Unit
  | .updateState _ _ _ => Except String Unit
  | .beginTransaction _ => Except String Unit
  | .elapsed _ => Duration
  | .execute _ _ => StepOutcome × SagaContext
  | .compensate _ _ _ => Except SagaError Unit × SagaContext

abbrev Calls := Program Op Op.Reply

abbrev OrchestratorM := ExceptT DomainError Calls

def ask (op : Op) : Calls (Op.Reply op) := Program.request op

def call (op : Op) : OrchestratorM (Op.Reply op) := ExceptT.lift (ask op)

/-! ## Compensation -/

/-- `execute_compensation_with_retry` from this attempt on. The step keeps the
context it was lent, whatever it returns. -/
def executeCompensationWithRetry (policy : RetryPolicy) (index attempt : Nat)
    (context : SagaContext) : Calls (Except SagaError Bool × SagaContext) := do
  match ← ask (.beginTransaction (.compensate index attempt)) with
  | .error error => return (.error (.persistenceError error), context)
  | .ok () =>
      match ← ask (.compensate index attempt context) with
      | (.ok (), context) => return (.ok true, context)
      | (.error error, context) =>
          if retries : policy.shouldRetry attempt then
            executeCompensationWithRetry policy index (attempt + 1) context
          else return (.error error, context)
termination_by policy.maxAttempts - attempt
decreasing_by
  have below : attempt < policy.maxAttempts := of_decide_eq_true retries
  omega

/-- `execute_compensation` over the indexed steps it still has to visit, last
index first. A compensation that fails is only logged. -/
def executeCompensation (policy : RetryPolicy) :
    List (SagaStep × Nat) → SagaContext → Nat → Calls Nat
  | [], _, executed => pure executed
  | (step, index) :: rest, context, executed =>
      if step.hasCompensation then do
        match ← executeCompensationWithRetry policy index 1 context with
        | (.ok _, context) => executeCompensation policy rest context (executed + 1)
        | (.error _, context) => executeCompensation policy rest context executed
      else executeCompensation policy rest context executed

/-- `(0..count).rev()` with the steps at these positions. -/
def executedInReverse (steps : List SagaStep) (count : Nat) : List (SagaStep × Nat) :=
  (steps.zipIdx.take count).reverse

/-! ## The call -/

/-- The `as u32` of a count. -/
def asU32 (count : Nat) : Nat := count % 2 ^ 32

/-- `update_state(..).await.ok()`. -/
def updateState (sagaId : SagaId) (state : SagaState) (errorMessage : Option String) :
    OrchestratorM Unit := do
  let _ ← call (.updateState sagaId state errorMessage)
  return ()

def sagaTimeoutExit (sagaId : SagaId) (index : Nat) (context : SagaContext) :
    OrchestratorM SagaExecutionResult := do
  let waited ← call (.elapsed (.timeoutContext index))
  let context := context.setError ("Saga timed out after " ++ Duration.debug waited)
  updateState sagaId .failed context.errorMessage
  let elapsed ← call (.elapsed (.timeoutError index))
  throw (.sagaTimeout elapsed)

/-- Record the failure, compensate these steps, record the saga as failed. -/
def compensateAndFail (config : SagaOrchestratorConfig) (sagaId : SagaId) (message : String)
    (executed : List (SagaStep × Nat)) (context : SagaContext) : OrchestratorM Nat := do
  let context := { context.setError message with isCompensating := true }
  updateState sagaId .compensating (some message)
  let compensations ← ExceptT.lift
    (executeCompensation config.compensationRetryPolicy executed context 0)
  updateState sagaId .failed (some message)
  return compensations

/-- The step returned `Err`: the steps before it are compensated. -/
def stepFailedExit (config : SagaOrchestratorConfig) (saga : Saga) (sagaId : SagaId)
    (index executedSteps : Nat) (error : SagaError) (context : SagaContext) :
    OrchestratorM SagaExecutionResult := do
  let compensations ← compensateAndFail config sagaId error.display
    (executedInReverse saga.steps index) context
  let duration ← call (.elapsed .result)
  return .failed sagaId saga.sagaType duration (asU32 executedSteps) compensations error.display

/-- The step timed out: as many steps as were counted are compensated. -/
def stepTimeoutExit (config : SagaOrchestratorConfig) (saga : Saga) (sagaId : SagaId)
    (executedSteps : Nat) (context : SagaContext) : OrchestratorM SagaExecutionResult := do
  let _ ← compensateAndFail config sagaId ("Step timed out after " ++ config.stepTimeout.debug)
    (executedInReverse saga.steps executedSteps) context
  throw (.sagaTimeout config.stepTimeout)

/-- The forward loop from `index` on. -/
def runSteps (config : SagaOrchestratorConfig) (saga : Saga) (sagaId : SagaId) :
    Nat → List SagaStep → SagaContext → Nat → OrchestratorM SagaExecutionResult
  | _, [], _, executedSteps => do
      let total ← call (.elapsed .result)
      updateState sagaId .completed none
      return .completedWithSteps sagaId saga.sagaType total (asU32 executedSteps)
  | index, _ :: rest, context, executedSteps =>
      if index < context.currentStep then
        runSteps config saga sagaId (index + 1) rest context executedSteps
      else do
        let elapsed ← call (.elapsed (.timeoutCheck index))
        if (config.getSagaTimeout saga.sagaType).nanos < Duration.nanos elapsed then
          sagaTimeoutExit sagaId index context
        else
          match ← call (.beginTransaction (.execute index)) with
          | .error error => throw (.infrastructureError error)
          | .ok () =>
              match ← call (.execute index context) with
              | (.ok, context) =>
                  runSteps config saga sagaId (index + 1) rest context (executedSteps + 1)
              | (.err error, context) =>
                  stepFailedExit config saga sagaId index executedSteps error context
              | (.timedOut, context) =>
                  stepTimeoutExit config saga sagaId executedSteps context

def executeSaga (config : SagaOrchestratorConfig) (saga : Saga) (context : SagaContext) :
    OrchestratorM SagaExecutionResult := do
  match ← call .admission with
  | .error error => throw error
  | .ok () =>
      match ← call (.save context) with
      | .error error => throw (.infrastructureError error)
      | .ok () => runSteps config saga context.sagaId 0 saga.steps context context.currentStep

/-! ## World and environment -/

/-- The state of the saved context and every argument of `update_state`, oldest
first. -/
structure World where
  states : List SagaState

/-- What the environment decides in one call. `effect` and `undo` are what the
step does to the context it was lent. -/
structure Env where
  admission : Except DomainError Unit
  saveFault : Option String
  updateFault : SagaState → Option String
  beginFault : StepTx → Option String
  elapsed : ClockRead → Duration
  outcome : Nat → StepOutcome
  effect : Nat → SagaContext → SagaContext
  compensation : Nat → Nat → Except SagaError Unit
  undo : Nat → Nat → SagaContext → SagaContext

def handle (env : Env) : (op : Op) → World → Op.Reply op × World
  | .admission, world => (env.admission, world)
  | .save context, world =>
      match env.saveFault with
      | some error => (.error error, world)
      | none => (.ok (), ⟨world.states ++ [context.state]⟩)
  | .updateState _ state _, world =>
      (faultReply (env.updateFault state), ⟨world.states ++ [state]⟩)
  | .beginTransaction tx, world => (faultReply (env.beginFault tx), world)
  | .elapsed read, world => (env.elapsed read, world)
  | .execute index context, world => ((env.outcome index, env.effect index context), world)
  | .compensate index attempt context, world =>
      ((env.compensation index attempt, env.undo index attempt context), world)

/-- Nothing fails, no time passes, every step succeeds and counts itself. -/
def Env.quiet : Env where
  admission := .ok ()
  saveFault := none
  updateFault _ := none
  beginFault _ := none
  elapsed _ := ⟨0⟩
  outcome _ := .ok
  effect index context := { context with currentStep := index + 1 }
  compensation _ _ := .ok ()
  undo _ _ context := context

end HodeiJobs.Sagas.InMemory
