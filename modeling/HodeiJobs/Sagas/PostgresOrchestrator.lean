import HodeiJobs.Sagas.Repository

/-!
# `PostgresSagaOrchestrator`

`execute_saga` in the order of the source, one definition for each of its
transactions and one for each of its two loops. An index is the position of a
step in `saga.steps()`, a step record belongs to index `i` when its
`step_order as usize` is `i`; a negative order belongs to no index. The cast of an
index to `i32` loses nothing, since a saga is taken to have at most 2^31 steps.
-/

namespace HodeiJobs.Sagas

open HodeiJobs.Library

/-- The configuration that `execute_saga` reads. -/
structure PostgresSagaOrchestratorConfig where
  maxConcurrentSagas : Nat := 100
  stepTimeout : Duration := .fromSecs 30
  sagaTimeout : Duration := .fromSecs 300

/-- The two admission checks: rate limiter, then semaphore. -/
def checkAdmission (sagaId : SagaId) : SagaM Unit := do
  match ← request (.admission sagaId) with
  | .ok () => return ()
  | .error error => throw error

/-- `find_steps_by_saga_id(..).await.map_err(..)?` -/
def loadSteps (sagaId : SagaId) (load : StepLoad) (text : String) : SagaM (List SagaStepData) := do
  match ← request (.findSteps sagaId load) with
  | .ok steps => return steps
  | .error error =>
      throw (.infrastructureError (text ++ ": " ++ (DomainError.ofSqlx error).display))

def saveInitialContext (context : SagaContext) : SagaM Unit := do
  let tx ← beginTransaction context.sagaId .initial
  let tx ← tx.saveWithTx context
  tx.commit

/-! ## Resume -/

def SagaStepData.isCompleted (data : SagaStepData) : Bool := data.state == .completed

/-- `step_order as usize == index`. -/
def SagaStepData.isAt (index : Nat) (data : SagaStepData) : Bool :=
  data.stepOrder == (index : Int)

/-- `completed_step_indices.contains(&index)`. -/
def completedAt (records : List SagaStepData) (index : Nat) : Bool :=
  records.any fun data => data.isCompleted && data.isAt index

def rehydrate (storedSteps : List SagaStepData) (context : SagaContext) : SagaContext :=
  (storedSteps.filter SagaStepData.isCompleted).foldl
    (fun current data =>
      match data.outputData with
      | some output => current.setStepOutput data.stepName output
      | none => current)
    context

/-- Completed records count as executed steps, whatever index they carry. -/
def countCompleted (storedSteps : List SagaStepData) : Nat :=
  storedSteps.countP SagaStepData.isCompleted

/-! ## One forward step -/

/-- The saga timeout exit. Its transaction only has to begin: errors of the
update and of the commit are dropped. -/
def sagaTimeoutExit {Result : Type} (sagaId : SagaId) (index : Nat) (context : SagaContext) :
    SagaM Result := do
  let waited ← request (.elapsed sagaId (.timeoutContext index))
  let context := context.setError ("Saga timed out after " ++ Duration.debug waited)
  let tx ← beginTransaction sagaId (.sagaTimeout index)
  let tx ← ignoring (tx.updateStateWithTx sagaId .failed context.errorMessage) tx
  ignoring tx.commit ()
  let elapsed ← request (.elapsed sagaId (.timeoutError index))
  throw (.infrastructureError ("Saga timed out after " ++ Duration.debug elapsed))

/-- Open the step transaction and record the step as started in it. -/
def startStep (sagaId : SagaId) (index : Nat) (step : SagaStep) :
    SagaM (SagaStepId × PgTransaction) := do
  let stepId ← request .newV4
  let created ← request .now
  let stepData := SagaStepData.newWithOrder sagaId step.name index none ⟨stepId⟩ created
  let tx ← beginTransaction sagaId (.step index)
  let tx ← tx.saveStepWithTx stepData
  let tx ← tx.updateStepStateWithTx stepData.stepId .inProgress none
  return (stepData.stepId, tx)

/-- The step returned `Ok`: record it, persist the context, commit. -/
def finishStep (tx : PgTransaction) (stepId : SagaStepId) (context : SagaContext) :
    SagaM Unit := do
  let tx ← tx.updateStepStateWithTx stepId .completed none
  let tx ← tx.saveWithTx context
  tx.commit

/-- The step returned `Err`: roll back, then record the failure in a fresh
transaction. -/
def failStep (tx : PgTransaction) (sagaId : SagaId) (index : Nat) (stepId : SagaStepId)
    (error : SagaError) : SagaM Unit := do
  tx.rollback
  let failTx ← beginTransaction sagaId (.stepFailed index)
  let failTx ← failTx.updateStepStateWithTx stepId .failed none
  let failTx ← failTx.updateStateWithTx sagaId .compensating (some error.display)
  failTx.commit

def stepTimeoutExit {Result : Type} (config : PostgresSagaOrchestratorConfig)
    (tx : PgTransaction) : SagaM Result := do
  ignoring tx.rollback ()
  throw (.infrastructureError ("Step timed out after " ++ config.stepTimeout.debug))

/-! ## Compensation -/

/-- `completed_steps_data.iter().find(|s| s.step_order as usize == i)`, when
there is one: record the state in the compensation transaction. -/
def markRecord (tx : PgTransaction) (completedSteps : List SagaStepData) (index : Nat)
    (state : SagaStepState) (text : String) : SagaM PgTransaction :=
  match completedSteps.find? (SagaStepData.isAt index) with
  | some record => withContext text (tx.updateStepStateWithTx record.stepId state none)
  | none => pure tx

def startCompensation (sagaId : SagaId) (completedSteps : List SagaStepData) (index : Nat) :
    SagaM PgTransaction := do
  let tx ← beginTransaction sagaId (.compensation index)
  markRecord tx completedSteps index .compensating "Failed to update step state to compensating"

def finishCompensation (tx : PgTransaction) (completedSteps : List SagaStepData) (index : Nat) :
    SagaM Unit := do
  let tx ← markRecord tx completedSteps index .compensated
    "Failed to update step state to compensated"
  tx.commit

/-- A failed compensation ends the rollback: the saga is marked failed and the
call returns the compensation's error. -/
def abandonCompensation {Result : Type} (tx : PgTransaction) (sagaId : SagaId) (index : Nat)
    (step : SagaStep) (error : SagaError) : SagaM Result := do
  tx.rollback
  let finalTx ← beginTransaction sagaId (.compensationFailed index)
  let finalTx ← ignoring (finalTx.updateStateWithTx sagaId .failed
    (some ("Compensation failed for step '" ++ step.name ++ "': " ++ error.display))) finalTx
  ignoring finalTx.commit ()
  throw (.sagaStepFailed step.name error.display)

def compensateStep (sagaId : SagaId) (completedSteps : List SagaStepData) (index : Nat)
    (step : SagaStep) (context : SagaContext) : SagaM SagaContext := do
  let tx ← startCompensation sagaId completedSteps index
  let reply ← request (.compensate sagaId index context)
  match reply with
  | (.ok (), context) =>
      finishCompensation tx completedSteps index
      return context
  | (.error error, _) => abandonCompensation tx sagaId index step error

/-- The compensation loop over the indexed steps it still has to visit, last
index first. Returns the number of compensations executed. -/
def compensateSteps (sagaId : SagaId) (completedSteps : List SagaStepData) :
    List (SagaStep × Nat) → SagaContext → Nat → SagaM Nat
  | [], _, executed => pure executed
  | (step, index) :: rest, context, executed =>
      if completedSteps.any (SagaStepData.isAt index) then
        if step.hasCompensation then do
          let context ← compensateStep sagaId completedSteps index step context
          compensateSteps sagaId completedSteps rest context (executed + 1)
        else compensateSteps sagaId completedSteps rest context executed
      else compensateSteps sagaId completedSteps rest context executed

/-- All compensations succeeded: the saga is marked completed. -/
def markRolledBack (sagaId : SagaId) : SagaM Unit := do
  let tx ← beginTransaction sagaId .compensated
  let tx ← withContext "Failed to update saga state after compensation"
    (tx.updateStateWithTx sagaId .completed none)
  tx.commit

/-- The whole `Ok(Err(e))` arm after the failure is recorded. -/
def compensate (saga : Saga) (sagaId : SagaId) (context : SagaContext) (executedSteps : Nat) :
    SagaM SagaExecutionResult := do
  let records ← loadSteps sagaId .compensation "Failed to load saga steps for compensation"
  let completedSteps := records.filter SagaStepData.isCompleted
  let compensations ← compensateSteps sagaId completedSteps saga.steps.zipIdx.reverse context 0
  markRolledBack sagaId
  let elapsed ← request (.elapsed sagaId .result)
  return .compensated sagaId saga.sagaType elapsed executedSteps compensations

/-! ## The call -/

def markCompleted (sagaId : SagaId) : SagaM Unit := do
  let tx ← beginTransaction sagaId .completed
  let tx ← tx.updateStateWithTx sagaId .completed none
  tx.commit

/-- The forward loop from `index` on. `storedSteps` are the records read at
the start of the call. -/
def runSteps (config : PostgresSagaOrchestratorConfig) (saga : Saga) (sagaId : SagaId)
    (storedSteps : List SagaStepData) :
    Nat → List SagaStep → SagaContext → Nat → SagaM SagaExecutionResult
  | _, [], _, executedSteps => do
      markCompleted sagaId
      let elapsed ← request (.elapsed sagaId .result)
      return .completedWithSteps sagaId saga.sagaType elapsed executedSteps
  | index, step :: rest, context, executedSteps =>
      if completedAt storedSteps index then
        runSteps config saga sagaId storedSteps (index + 1) rest context executedSteps
      else do
        let elapsed ← request (.elapsed sagaId (.timeoutCheck index))
        if config.sagaTimeout.nanos < Duration.nanos elapsed then
          sagaTimeoutExit sagaId index context
        else do
          let (stepId, tx) ← startStep sagaId index step
          let reply ← request (.execute sagaId index context)
          match reply with
          | (.ok, context) => do
              finishStep tx stepId context
              runSteps config saga sagaId storedSteps (index + 1) rest context
                (executedSteps + 1)
          | (.err error, context) => do
              failStep tx sagaId index stepId error
              compensate saga sagaId (context.setError error.display) executedSteps
          | (.timedOut, _) => stepTimeoutExit config tx

def executeSaga (config : PostgresSagaOrchestratorConfig) (saga : Saga) (context : SagaContext) :
    SagaM SagaExecutionResult := do
  checkAdmission context.sagaId
  saveInitialContext context
  let storedSteps ← loadSteps context.sagaId .resume "Failed to load saga steps for resume"
  -- A context in state Compensating is only logged here; the loop below runs all the same.
  runSteps config saga context.sagaId storedSteps 0 saga.steps
    (rehydrate storedSteps context) (countCompleted storedSteps)

/-- `cancel_saga`: two repository calls, the second in its own transaction. -/
def cancelSaga (sagaId : SagaId) : SagaM Unit := do
  markCompensating sagaId
  updateState sagaId .cancelled (some "Cancelled by user")

/-! ## The poller -/

/-- The `saga_type` match of `claim_pending_sagas`, whose fallback differs from
the one of `From<SagaDbRow>`. -/
def claimedSagaType (text : String) : SagaType :=
  match text with
  | "PROVISIONING" => .provisioning
  | "EXECUTION" => .execution
  | "RECOVERY" => .recovery
  | _ => .execution

/-- A claimed row as a context: the state is rewritten to `Pending`. -/
def SagaDbRow.claimedContext (row : SagaDbRow) (version : Int64) : SagaContext :=
  SagaContext.fromPersistence ⟨row.id⟩ (claimedSagaType row.sagaType) row.correlationId
    row.actor row.startedAt 0 false ((JsonMap.fromValue row.metadata).getD []) row.errorMessage
    .pending version.toUInt64 row.traceParent

/-- `fetch_all` decodes every row before anything else happens. -/
def readVersions : List SagaDbRow → Except String (List (SagaDbRow × Int64))
  | [] => .ok []
  | row :: rest => do
      let version ← row.readVersion
      let others ← readVersions rest
      return (row, version) :: others

def claimRows (idText : Uuid → String) : List SagaDbRow → SagaM Unit
  | [] => pure ()
  | row :: rest => do
      match ← request (.claimRow (idText row.id)) with
      | .ok () => claimRows idText rest
      | .error error =>
          throw (.infrastructureError ("Database error updating claimed saga state: " ++ error))

/-- `idText` is the `Display` text of a UUID. -/
def claimPendingSagas (idText : Uuid → String) (limit : Nat) : SagaM (List SagaContext) := do
  match ← request (.selectClaimable limit) with
  | .error error =>
      throw (.infrastructureError ("Database error claiming pending sagas: " ++ error))
  | .ok selected =>
      match readVersions selected with
      | .error error =>
          throw (.infrastructureError ("Database error claiming pending sagas: " ++ error))
      | .ok rows => do
          claimRows idText selected
          return rows.map fun row => row.1.claimedContext row.2

/-- The loop of `process_pending_sagas`: the result of a saga is only logged. -/
def processClaimed (config : PostgresSagaOrchestratorConfig)
    (sagaFactory : SagaType → Json → Option Saga) : List SagaContext → SagaM Unit
  | [] => pure ()
  | context :: rest => do
      match sagaFactory context.sagaType context.metadata.toValue with
      | some saga => ignoring ((fun _ => ()) <$> executeSaga config saga context) ()
      | none => pure ()
      processClaimed config sagaFactory rest

def processPendingSagas (config : PostgresSagaOrchestratorConfig) (idText : Uuid → String)
    (sagaFactory : SagaType → Json → Option Saga) : SagaM Unit := do
  let pendingSagas ← claimPendingSagas idText 10
  processClaimed config sagaFactory pendingSagas

end HodeiJobs.Sagas
