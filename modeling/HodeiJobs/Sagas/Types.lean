import Mathlib.Data.List.Basic

/-!
# Saga types

Transcription of `domain/src/saga/types.rs`, the step records of
`domain/src/saga/repository.rs` and the domain errors the saga code returns.
UUIDs are natural numbers: only equality and freshness of an id are ever used.
-/

namespace HodeiJobs.Sagas

/-! ## Durations and JSON values -/

/-- `std::time::Duration`, in nanoseconds. -/
structure Duration where
  nanos : Nat
  deriving DecidableEq, Repr

namespace Duration

def fromSecs (secs : Nat) : Duration := ⟨secs * 1000000000⟩

/-- Drop the trailing zeros of a fraction of `width` digits. -/
def fractionDigits : Nat → Nat → String
  | 0, _ => ""
  | width + 1, fraction =>
      if fraction % 10 = 0 then fractionDigits width (fraction / 10)
      else
        let digits := toString fraction
        String.ofList (List.replicate (width + 1 - digits.length) '0') ++ digits

def decimal (whole fraction width : Nat) (suffix : String) : String :=
  if fraction = 0 then toString whole ++ suffix
  else toString whole ++ "." ++ fractionDigits width fraction ++ suffix

/-- The `{:?}` text of a duration: seconds, milliseconds, microseconds or
nanoseconds, whichever is the largest unit that is not zero. -/
def debug (duration : Duration) : String :=
  let nanos := duration.nanos
  if 1000000000 ≤ nanos then decimal (nanos / 1000000000) (nanos % 1000000000) 9 "s"
  else if 1000000 ≤ nanos then decimal (nanos / 1000000) (nanos % 1000000) 6 "ms"
  else if 1000 ≤ nanos then decimal (nanos / 1000) (nanos % 1000) 3 "µs"
  else toString nanos ++ "ns"

end Duration

/-- A point in time, in microseconds since the epoch. -/
abbrev DateTime := Int

/-- `serde_json::Value`. A number that is not an integer keeps its text. -/
inductive Json where
  | null
  | bool (value : Bool)
  | integer (value : Int)
  | decimal (literal : String)
  | string (value : String)
  | array (items : List Json)
  | object (entries : List (String × Json))

/-- `HashMap<String, serde_json::Value>` as an association list. -/
abbrev JsonMap := List (String × Json)

namespace JsonMap

def get (map : JsonMap) (key : String) : Option Json :=
  (map.find? fun entry => entry.1 == key).map Prod.snd

def insert (map : JsonMap) (key : String) (value : Json) : JsonMap :=
  (key, value) :: map.filter fun entry => entry.1 != key

@[simp] theorem get_insert_self (map : JsonMap) (key : String) (value : Json) :
    (insert map key value).get key = some value := by
  simp [get, insert]

theorem get_insert_other (map : JsonMap) {key other : String} (value : Json)
    (different : other ≠ key) : (insert map key value).get other = map.get other := by
  have kept : (map.filter fun entry => entry.1 != key).find? (fun entry => entry.1 == other) =
      map.find? fun entry => entry.1 == other := by
    rw [List.find?_filter]
    congr 1
    funext entry
    by_cases found : entry.1 = other
    · simp [found, different]
    · simp [found]
  have headDiffers : (key == other) = false := by simp [Ne.symm different]
  simp only [get, insert, List.find?_cons, headDiffers, kept]

/-- `serde_json::to_value` of a map. -/
def toValue (map : JsonMap) : Json := .object map

/-- `serde_json::from_value::<HashMap<_, _>>`: only an object is accepted. -/
def fromValue : Json → Option JsonMap
  | .object entries => some entries
  | _ => none

@[simp] theorem from_value_to_value (map : JsonMap) : fromValue map.toValue = some map := rfl

end JsonMap

/-! ## Identifiers -/

abbrev Uuid := Nat

structure SagaId where
  uuid : Uuid
  deriving DecidableEq, Repr

structure SagaStepId where
  uuid : Uuid
  deriving DecidableEq, Repr

theorem SagaId.uuid_ne {left right : SagaId} (different : left ≠ right) :
    left.uuid ≠ right.uuid := by
  intro same
  cases left
  cases right
  exact different (congrArg SagaId.mk same)

/-- `Uuid::new_v4`: an id that no row uses yet. -/
structure UuidSource where
  newV4 : List Uuid → Uuid
  fresh : ∀ used, newV4 used ∉ used

theorem foldr_max_ge (used : List Uuid) : ∀ id ∈ used, id ≤ used.foldr max 0 := by
  induction used with
  | nil => simp
  | cons head rest ih =>
      intro id member
      rcases List.mem_cons.mp member with rfl | below
      · exact Nat.le_max_left _ _
      · exact Nat.le_trans (ih id below) (Nat.le_max_right _ _)

/-- One id source: the successor of the largest id in use. -/
def UuidSource.successor : UuidSource where
  newV4 used := used.foldr max 0 + 1
  fresh used member := by
    have bound : used.foldr max 0 + 1 ≤ used.foldr max 0 := foldr_max_ge used _ member
    exact Nat.not_succ_le_self _ bound

/-! ## Saga type and saga state -/

inductive SagaType where
  | provisioning
  | execution
  | recovery
  | cancellation
  | timeout
  | cleanup
  deriving DecidableEq, Repr

def SagaType.asStr : SagaType → String
  | .provisioning => "PROVISIONING"
  | .execution => "EXECUTION"
  | .recovery => "RECOVERY"
  | .cancellation => "CANCELLATION"
  | .timeout => "TIMEOUT"
  | .cleanup => "CLEANUP"

inductive SagaState where
  | pending
  | inProgress
  | compensating
  | completed
  | failed
  | cancelled
  deriving DecidableEq, Repr

namespace SagaState

/-- The documented state machine. No writer of the state column consults it. -/
def canTransitionTo : SagaState → SagaState → Bool
  | .pending, target => target == .inProgress
  | .inProgress, target => target == .completed || target == .compensating || target == .cancelled
  | .compensating, target => target == .completed || target == .failed
  | .completed, _ => false
  | .failed, _ => false
  | .cancelled, _ => false

def isTerminal : SagaState → Bool
  | .completed | .failed | .cancelled => true
  | _ => false

/-- `Display`, the text stored in the `state` column. -/
def display : SagaState → String
  | .pending => "PENDING"
  | .inProgress => "IN_PROGRESS"
  | .compensating => "COMPENSATING"
  | .completed => "COMPLETED"
  | .failed => "FAILED"
  | .cancelled => "CANCELLED"

/-- The `match row.state.as_str()` of `From<SagaDbRow>`. -/
def ofColumn (text : String) : SagaState :=
  match text with
  | "PENDING" => .pending
  | "IN_PROGRESS" => .inProgress
  | "COMPENSATING" => .compensating
  | "COMPLETED" => .completed
  | "FAILED" => .failed
  | "CANCELLED" => .cancelled
  | _ => .pending

@[simp] theorem of_column_display (state : SagaState) : ofColumn state.display = state := by
  cases state <;> rfl

end SagaState

inductive SagaStepState where
  | pending
  | inProgress
  | completed
  | failed
  | compensating
  | compensated
  deriving DecidableEq, Repr

namespace SagaStepState

def display : SagaStepState → String
  | .pending => "PENDING"
  | .inProgress => "IN_PROGRESS"
  | .completed => "COMPLETED"
  | .failed => "FAILED"
  | .compensating => "COMPENSATING"
  | .compensated => "COMPENSATED"

/-- The `match row.state.as_str()` of `From<SagaStepDbRow>`. -/
def ofColumn (text : String) : SagaStepState :=
  match text with
  | "PENDING" => .pending
  | "IN_PROGRESS" => .inProgress
  | "COMPLETED" => .completed
  | "FAILED" => .failed
  | "COMPENSATING" => .compensating
  | "COMPENSATED" => .compensated
  | _ => .pending

@[simp] theorem of_column_display (state : SagaStepState) : ofColumn state.display = state := by
  cases state <;> rfl

end SagaStepState

/-! ## Errors -/

inductive SagaError where
  | serializationError (message : String)
  | deserializationError (message : String)
  | stepFailed (step message : String) (willCompensate : Bool)
  | compensationFailed (step message : String)
  | timeout (duration : Duration)
  | cancelled
  | providerCapacityExceeded (providerId : String)
  | infrastructureCreationFailed (message : String)
  | persistenceError (message : String)
  deriving DecidableEq

def SagaError.display : SagaError → String
  | .serializationError message => "Serialization error: " ++ message
  | .deserializationError message => "Deserialization error: " ++ message
  | .stepFailed step message _ => "Step '" ++ step ++ "' failed: " ++ message
  | .compensationFailed step message =>
      "Compensation for step '" ++ step ++ "' failed: " ++ message
  | .timeout duration => "Saga timed out after " ++ duration.debug
  | .cancelled => "Saga was cancelled"
  | .providerCapacityExceeded providerId => "Provider capacity exceeded: " ++ providerId
  | .infrastructureCreationFailed message => "Infrastructure creation failed: " ++ message
  | .persistenceError message => "Persistence error: " ++ message

inductive OrchestratorError where
  | concurrencyLimitExceeded (current max : Nat)
  | rateLimitExceeded (remaining : Nat)
  deriving DecidableEq

/-- The `DomainError` variants that the saga code returns. -/
inductive DomainError where
  | infrastructureError (message : String)
  | sagaTimeout (duration : Duration)
  | sagaStepFailed (step error : String)
  | orchestratorError (error : OrchestratorError)
  deriving DecidableEq

def OrchestratorError.display : OrchestratorError → String
  | .concurrencyLimitExceeded current max =>
      "Concurrency limit exceeded: " ++ toString current ++ "/" ++ toString max
  | .rateLimitExceeded remaining =>
      "Rate limit exceeded: " ++ toString remaining ++ " permits remaining, try again later"

def DomainError.display : DomainError → String
  | .infrastructureError message => "Infrastructure error: " ++ message
  | .sagaTimeout duration => "Saga execution timeout after " ++ duration.debug
  | .sagaStepFailed step error => "Saga step '" ++ step ++ "' failed: " ++ error
  | .orchestratorError error => "Saga orchestrator error: " ++ error.display

/-- `From<sqlx::Error> for DomainError`; `error` is the driver's text. -/
def DomainError.ofSqlx (error : String) : DomainError :=
  .infrastructureError ("Database error: " ++ error)

/-! ## Context, steps and results -/

/-- Which optional services were injected. The services themselves are the
callee's state, not the context's. -/
structure SagaServices where
  hasJobRepository : Bool
  hasCommandBus : Bool
  deriving DecidableEq

structure SagaContext where
  sagaId : SagaId
  sagaType : SagaType
  correlationId : Option String
  actor : Option String
  startedAt : DateTime
  currentStep : Nat
  isCompensating : Bool
  metadata : JsonMap
  stepOutputs : JsonMap
  errorMessage : Option String
  services : Option SagaServices
  state : SagaState
  version : UInt64
  traceParent : Option String

namespace SagaContext

def new (sagaId : SagaId) (sagaType : SagaType) (correlationId actor : Option String)
    (now : DateTime) : SagaContext where
  sagaId := sagaId
  sagaType := sagaType
  correlationId := correlationId
  actor := actor
  startedAt := now
  currentStep := 0
  isCompensating := false
  metadata := []
  stepOutputs := []
  errorMessage := none
  services := none
  state := .pending
  version := 0
  traceParent := none

def fromPersistence (sagaId : SagaId) (sagaType : SagaType)
    (correlationId actor : Option String) (startedAt : DateTime) (currentStep : Nat)
    (isCompensating : Bool) (metadata : JsonMap) (errorMessage : Option String)
    (state : SagaState) (version : UInt64) (traceParent : Option String) : SagaContext where
  sagaId := sagaId
  sagaType := sagaType
  correlationId := correlationId
  actor := actor
  startedAt := startedAt
  currentStep := currentStep
  isCompensating := isCompensating
  metadata := metadata
  stepOutputs := []
  errorMessage := errorMessage
  services := none
  state := state
  version := version
  traceParent := traceParent

/-- Storing a `Json` value as its own JSON never fails. -/
def setStepOutput (context : SagaContext) (stepName : String) (output : Json) : SagaContext :=
  { context with stepOutputs := context.stepOutputs.insert stepName output }

def setError (context : SagaContext) (message : String) : SagaContext :=
  { context with errorMessage := some message }

def setMetadata (context : SagaContext) (key : String) (value : Json) : SagaContext :=
  { context with metadata := context.metadata.insert key value }

def getMetadata (context : SagaContext) (key : String) : Option Json :=
  context.metadata.get key

end SagaContext

/-- `SagaStepData`: one step record as the repository reads it. -/
structure SagaStepData where
  stepId : SagaStepId
  sagaId : SagaId
  stepName : String
  /-- The index of the step `as i32`, which is the index: a saga is taken to have at most
  2^31 steps. -/
  stepOrder : Int
  state : SagaStepState
  inputData : Option Json
  outputData : Option Json
  compensationData : Option Json
  startedAt : Option DateTime
  completedAt : Option DateTime
  errorMessage : Option String
  retryCount : Int
  createdAt : DateTime
  updatedAt : DateTime

def SagaStepData.newWithOrder (sagaId : SagaId) (stepName : String) (stepOrder : Int)
    (inputData : Option Json) (stepId : SagaStepId) (now : DateTime) : SagaStepData where
  stepId := stepId
  sagaId := sagaId
  stepName := stepName
  stepOrder := stepOrder
  state := .pending
  inputData := inputData
  outputData := none
  compensationData := none
  startedAt := none
  completedAt := none
  errorMessage := none
  retryCount := 0
  createdAt := now
  updatedAt := now

/-- The part of the `SagaStep` trait that does not act: its name and whether
it declares a compensation. What `execute()` and `compensate()` do in one call
is the environment's answer to that call. -/
structure SagaStep where
  name : String
  hasCompensation : Bool
  deriving DecidableEq

structure Saga where
  sagaType : SagaType
  steps : List SagaStep
  deriving DecidableEq

structure SagaExecutionResult where
  sagaId : SagaId
  sagaType : SagaType
  state : SagaState
  stepsExecuted : Nat
  compensationsExecuted : Nat
  duration : Duration
  errorMessage : Option String
  deriving DecidableEq

namespace SagaExecutionResult

def completedWithSteps (sagaId : SagaId) (sagaType : SagaType) (duration : Duration)
    (stepsExecuted : Nat) : SagaExecutionResult :=
  ⟨sagaId, sagaType, .completed, stepsExecuted, 0, duration, none⟩

def compensated (sagaId : SagaId) (sagaType : SagaType) (duration : Duration)
    (stepsExecuted compensationsExecuted : Nat) : SagaExecutionResult :=
  ⟨sagaId, sagaType, .compensating, stepsExecuted, compensationsExecuted, duration, none⟩

def failed (sagaId : SagaId) (sagaType : SagaType) (duration : Duration)
    (stepsExecuted compensationsExecuted : Nat) (errorMessage : String) : SagaExecutionResult :=
  ⟨sagaId, sagaType, .failed, stepsExecuted, compensationsExecuted, duration, some errorMessage⟩

end SagaExecutionResult

end HodeiJobs.Sagas
