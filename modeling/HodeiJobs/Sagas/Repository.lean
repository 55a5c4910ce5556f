import HodeiJobs.Library.Program
import HodeiJobs.Sagas.Store

/-!
# Calls of the saga code

Every call that the saga code makes to the outside is one operation: the
repository calls, the step's `execute()` and `compensate()`, the clock. A
transaction buffers its statements and they take effect together at the
commit. `handle` answers an operation from a world of committed rows and an
environment that decides every outcome the code cannot control.
-/

namespace HodeiJobs.Sagas

open HodeiJobs.Library

/-! ## Operations -/

/-- The transactions one `execute_saga` call may open, and the two that the
repository opens for `save` and `update_state`. -/
inductive TxLabel where
  | initial
  | sagaTimeout (index : Nat)
  | step (index : Nat)
  | stepFailed (index : Nat)
  | compensation (index : Nat)
  | compensationFailed (index : Nat)
  | compensated
  | completed
  | save
  | updateState
  deriving DecidableEq

inductive TxCall where
  | beginTransaction
  | saveWithTx
  | updateStateWithTx
  | saveStepWithTx
  | updateStepStateWithTx (state : SagaStepState)
  | commit
  | rollback
  deriving DecidableEq

/-- The two places where `execute_saga` loads the step records. -/
inductive StepLoad where
  | resume
  | compensation
  deriving DecidableEq

/-- The places where `execute_saga` reads `start_time.elapsed()`. -/
inductive ClockRead where
  | timeoutCheck (index : Nat)
  | timeoutContext (index : Nat)
  | timeoutError (index : Nat)
  | result
  deriving DecidableEq

/-- What `tokio::time::timeout(step_timeout, step.execute(..))` returned. -/
inductive StepOutcome where
  | ok
  | err (error : SagaError)
  | timedOut
  deriving DecidableEq

inductive SagaOp where
  | admission (sagaId : SagaId)
  | txCall (sagaId : SagaId) (tx : TxLabel) (call : TxCall)
  | commit (sagaId : SagaId) (tx : TxLabel) (statements : List Statement)
  | findSteps (sagaId : SagaId) (load : StepLoad)
  | newV4
  | now
  | elapsed (sagaId : SagaId) (read : ClockRead)
  | execute (sagaId : SagaId) (index : Nat) (context : SagaContext)
  | compensate (sagaId : SagaId) (index : Nat) (context : SagaContext)
  | findById (sagaId : SagaId)
  | markCompensating (sagaId : SagaId)
  | selectClaimable (limit : Nat)
  | claimRow (idText : String)

/-- Replies. The error of a database call is the driver's text. -/
def SagaOp.Reply : SagaOp → Type
  | .admission _ => Except DomainError Unit
  | .txCall _ _ _ => Except String Unit
  | .commit _ _ _ => Except String Unit
  | .findSteps _ _ => Except String (List SagaStepData)
  | .newV4 => Uuid
  | .now => DateTime
  | .elapsed _ _ => Duration
  | .execute _ _ _ => StepOutcome × SagaContext
  | .compensate _ _ _ => Except SagaError Unit × SagaContext
  | .findById _ => Except DomainError (Option SagaContext)
  | .markCompensating _ => Except String Unit
  | .selectClaimable _ => Except String (List SagaDbRow)
  | .claimRow _ => Except String Unit

/-- Saga code that may stop with `?`. -/
abbrev SagaM := ExceptT DomainError (Program SagaOp SagaOp.Reply)

def request (op : SagaOp) : SagaM (SagaOp.Reply op) := ExceptT.lift (Program.request op)

/-! ## World and environment -/

inductive SagaEvent where
  | execute (sagaId : SagaId) (index : Nat)
  | compensate (sagaId : SagaId) (index : Nat)
  deriving DecidableEq

/-- The committed rows, the step ids handed out so far, and the step
functions invoked so far, oldest first. -/
structure World where
  store : SagaStore
  issued : List Uuid
  trace : List SagaEvent

/-- What the environment decides for the calls made on behalf of one saga. In
one `execute_saga` call a step is executed and compensated at most once, so the
outcome of each is an input of the call. `effect` and `undo` are what the step
does to the context it was lent. -/
structure CallEnv where
  admission : Except DomainError Unit
  fault : TxLabel → TxCall → Option String
  loadFault : StepLoad → Option String
  elapsed : ClockRead → Duration
  outcome : Nat → StepOutcome
  effect : Nat → SagaContext → SagaContext
  compensation : Nat → Except SagaError Unit
  undo : Nat → SagaContext → SagaContext

structure Env where
  saga : SagaId → CallEnv
  uuids : UuidSource
  now : DateTime
  findByIdFault : SagaId → Option DomainError
  markFault : SagaId → Option String
  selectFault : Option String
  claimFault : String → Option String

def faultReply (fault : Option String) : Except String Unit :=
  match fault with
  | some error => .error error
  | none => .ok ()

/-- Five minutes, in microseconds. -/
def staleAfter : Int := 5 * 60 * 1000000

/-- The `WHERE` clause of `claim_pending_sagas`. -/
def claimable (now : DateTime) (row : SagaDbRow) : Bool :=
  row.state == "PENDING" ||
    (row.state == "IN_PROGRESS" && decide (row.updatedAt < now - staleAfter)) ||
    row.state == "COMPENSATING"

/-- The `CASE` of its `ORDER BY`. -/
def claimRank (row : SagaDbRow) : Nat :=
  if row.state = "COMPENSATING" then 1 else if row.state = "IN_PROGRESS" then 2 else 3

def claimBefore (left right : SagaDbRow) : Prop :=
  claimRank left < claimRank right ∨
    (claimRank left = claimRank right ∧ left.createdAt ≤ right.createdAt)

instance : DecidableRel claimBefore := fun left right => by
  unfold claimBefore
  infer_instance

/-- `SELECT … LIMIT $1 FOR UPDATE SKIP LOCKED` outside a transaction: the row
locks end with the statement, so no row is ever locked when it runs. -/
def SagaStore.selectClaimable (store : SagaStore) (now : DateTime) (limit : Nat) :
    List SagaDbRow :=
  ((store.sagas.filter (claimable now)).insertionSort claimBefore).take limit

/-- A bound parameter: sqlx sends a `Uuid` with the type UUID, a `String` with
the type TEXT. -/
inductive SqlParam where
  | uuid (id : Uuid)
  | text (value : String)

/-- `id = $1`. Every statement reads `id` as a `Uuid`, so the column is a UUID.
PostgreSQL resolves the operator by its types before it looks at a row, and has
none for a UUID and a text. -/
def idEquals : SqlParam → Except String (Uuid → Bool)
  | .uuid id => .ok (· == id)
  | .text _ => .error "operator does not exist: uuid = text"

/-- `UPDATE sagas SET state = 'IN_PROGRESS' … WHERE id = $1` with the id bound
by `row.id.to_string()`. -/
def SagaStore.claimRow (store : SagaStore) (now : DateTime) (idText : String) :
    Except String SagaStore :=
  match idEquals (.text idText) with
  | .error error => .error error
  | .ok same => .ok <| store.updateSagas (fun row => same row.id)
      (fun row => { row with state := "IN_PROGRESS", updatedAt := now }) (fun _ => rfl)

def handle (env : Env) : (op : SagaOp) → World → SagaOp.Reply op × World
  | .admission sagaId, world => ((env.saga sagaId).admission, world)
  | .txCall sagaId tx call, world => (faultReply ((env.saga sagaId).fault tx call), world)
  | .commit sagaId tx statements, world =>
      match (env.saga sagaId).fault tx .commit with
      | some error => (.error error, world)
      | none => (.ok (), { world with store := world.store.commit env.now statements })
  | .findSteps sagaId load, world =>
      match (env.saga sagaId).loadFault load with
      | some error => (.error error, world)
      | none => (.ok (world.store.findStepsBySagaId sagaId), world)
  | .newV4, world =>
      let id := env.uuids.newV4 (world.store.steps.map SagaStepDbRow.id ++ world.issued)
      (id, { world with issued := id :: world.issued })
  | .now, world => (env.now, world)
  | .elapsed sagaId read, world => ((env.saga sagaId).elapsed read, world)
  | .execute sagaId index context, world =>
      (((env.saga sagaId).outcome index, (env.saga sagaId).effect index context),
        { world with trace := world.trace ++ [.execute sagaId index] })
  | .compensate sagaId index context, world =>
      (((env.saga sagaId).compensation index, (env.saga sagaId).undo index context),
        { world with trace := world.trace ++ [.compensate sagaId index] })
  | .findById sagaId, world =>
      match env.findByIdFault sagaId with
      | some error => (.error error, world)
      | none => (world.store.findById sagaId, world)
  | .markCompensating sagaId, world =>
      match env.markFault sagaId with
      | some error => (.error error, world)
      | none => (.ok (), { world with store := world.store.markCompensating env.now sagaId })
  | .selectClaimable limit, world =>
      match env.selectFault with
      | some error => (.error error, world)
      | none => (.ok (world.store.selectClaimable env.now limit), world)
  | .claimRow idText, world =>
      match env.claimFault idText with
      | some error => (.error error, world)
      | none =>
          match world.store.claimRow env.now idText with
          | .error error => (.error error, world)
          | .ok store => (.ok (), { world with store := store })

/-- No update of a claim is ever made. -/
theorem handle_claim_row (env : Env) (idText : String) (world : World) :
    ∃ error, handle env (.claimRow idText) world = (.error error, world) := by
  cases fault : env.claimFault idText with
  | some error => exact ⟨error, by simp [handle, fault]⟩
  | none => exact ⟨_, by simp [handle, fault, SagaStore.claimRow, idEquals]; rfl⟩

/-- Run saga code alone in a world. -/
abbrev runSaga {Result : Type} (env : Env) (program : SagaM Result) (world : World) :
    Except DomainError Result × World :=
  Program.exec (handle env) program world

@[simp] theorem run_request (env : Env) (op : SagaOp) (world : World) :
    runSaga env (request op) world =
      (.ok (handle env op world).1, (handle env op world).2) := rfl

theorem advance_request (env : Env) (world : World) {Result : Type} (op : SagaOp)
    (next : SagaOp.Reply op → SagaM Result) :
    Program.advance (handle env) (request op >>= next).run world =
      ((next (handle env op world).1).run, (handle env op world).2) := rfl

theorem run_elapsed (env : Env) (sagaId : SagaId) (read : ClockRead) (world : World) :
    runSaga env (request (.elapsed sagaId read) : SagaM Duration) world =
      (.ok ((env.saga sagaId).elapsed read), world) := rfl

theorem run_execute (env : Env) (sagaId : SagaId) (index : Nat) (context : SagaContext)
    (world : World) :
    runSaga env (request (.execute sagaId index context) : SagaM (StepOutcome × SagaContext))
        world =
      (.ok ((env.saga sagaId).outcome index, (env.saga sagaId).effect index context),
        { world with trace := world.trace ++ [.execute sagaId index] }) := rfl

theorem run_compensate (env : Env) (sagaId : SagaId) (index : Nat) (context : SagaContext)
    (world : World) :
    runSaga env
        (request (.compensate sagaId index context) : SagaM (Except SagaError Unit × SagaContext))
        world =
      (.ok ((env.saga sagaId).compensation index, (env.saga sagaId).undo index context),
        { world with trace := world.trace ++ [.compensate sagaId index] }) := rfl

/-! ## Transactions -/

/-- An open transaction: whose it is and the statements it has run. -/
structure PgTransaction where
  sagaId : SagaId
  label : TxLabel
  statements : List Statement

/-- `begin_transaction().await.map_err(..)?` -/
def beginTransaction (sagaId : SagaId) (label : TxLabel) : SagaM PgTransaction := do
  match ← request (.txCall sagaId label .beginTransaction) with
  | .ok () => return ⟨sagaId, label, []⟩
  | .error error =>
      throw (.infrastructureError ("Transaction error: " ++ "Database error: " ++ error))

namespace PgTransaction

/-- A repository call inside the transaction, with `?` on its error. -/
def statement (tx : PgTransaction) (call : TxCall) (statement : Statement) :
    SagaM PgTransaction := do
  match ← request (.txCall tx.sagaId tx.label call) with
  | .ok () => return { tx with statements := tx.statements ++ [statement] }
  | .error error => throw (.ofSqlx error)

def saveWithTx (tx : PgTransaction) (context : SagaContext) : SagaM PgTransaction :=
  tx.statement .saveWithTx (.saveWithTx context)

def updateStateWithTx (tx : PgTransaction) (sagaId : SagaId) (state : SagaState)
    (errorMessage : Option String) : SagaM PgTransaction :=
  tx.statement .updateStateWithTx (.updateStateWithTx sagaId state errorMessage)

def saveStepWithTx (tx : PgTransaction) (step : SagaStepData) : SagaM PgTransaction :=
  tx.statement .saveStepWithTx (.saveStepWithTx step)

def updateStepStateWithTx (tx : PgTransaction) (stepId : SagaStepId) (state : SagaStepState)
    (output : Option Json) : SagaM PgTransaction :=
  tx.statement (.updateStepStateWithTx state) (.updateStepStateWithTx stepId state output)

def commit (tx : PgTransaction) : SagaM Unit := do
  match ← request (.commit tx.sagaId tx.label tx.statements) with
  | .ok () => return ()
  | .error error => throw (.ofSqlx error)

def rollback (tx : PgTransaction) : SagaM Unit := do
  match ← request (.txCall tx.sagaId tx.label .rollback) with
  | .ok () => return ()
  | .error error => throw (.ofSqlx error)

end PgTransaction

/-- `call.await.map_err(|e| InfrastructureError { message: format!("{prefix}: {e}") })?` -/
def withContext {Result : Type} (text : String) (program : SagaM Result) : SagaM Result :=
  tryCatchThe DomainError program fun error =>
    throw (.infrastructureError (text ++ ": " ++ error.display))

/-- `call.await.ok()`: the error is dropped and the value kept as it was. -/
def ignoring {Result : Type} (program : SagaM Result) (fallback : Result) : SagaM Result :=
  tryCatchThe DomainError program fun _ => pure fallback

/-! ## Single repository calls -/

/-- `PostgresSagaRepository::save`. -/
def save (context : SagaContext) : SagaM Unit := do
  let tx ← beginTransaction context.sagaId .save
  let tx ← tx.saveWithTx context
  tx.commit

/-- `PostgresSagaRepository::update_state`. -/
def updateState (sagaId : SagaId) (state : SagaState) (errorMessage : Option String) :
    SagaM Unit := do
  let tx ← beginTransaction sagaId .updateState
  let tx ← tx.updateStateWithTx sagaId state errorMessage
  tx.commit

/-- `PostgresSagaRepository::mark_compensating`: one statement, no transaction. -/
def markCompensating (sagaId : SagaId) : SagaM Unit := do
  match ← request (.markCompensating sagaId) with
  | .ok () => return ()
  | .error error => throw (.ofSqlx error)

def findById (sagaId : SagaId) : SagaM (Option SagaContext) := do
  match ← request (.findById sagaId) with
  | .ok context => return context
  | .error error => throw error

/-! ## A quiet environment -/

/-- Nothing fails, no time passes, every step succeeds and leaves the context
alone. -/
def CallEnv.quiet : CallEnv where
  admission := .ok ()
  fault _ _ := none
  loadFault _ := none
  elapsed _ := ⟨0⟩
  outcome _ := .ok
  effect _ context := context
  compensation _ := .ok ()
  undo _ context := context

def Env.quiet (call : CallEnv) : Env where
  saga _ := call
  uuids := .successor
  now := 0
  findByIdFault _ := none
  markFault _ := none
  selectFault := none
  claimFault _ := none

/-- No column has a default but `version`. -/
def Schema.plain : Schema where
  version := some 0
  errorMessage := none
  traceParent := none

def World.empty : World := ⟨⟨.plain, [], [], List.nodup_nil, List.nodup_nil⟩, [], []⟩

end HodeiJobs.Sagas
