import Mathlib.Algebra.Group.Nat.Defs
import Mathlib.Data.List.Chain
import Mathlib.Data.List.Sort
import HodeiJobs.Sagas.Types

/-!
# Event sourcing of sagas

The events of a saga, the in-memory event store that checks their sequence numbers,
and the fold that rebuilds a saga from them.
-/

namespace HodeiJobs.Sagas.EventSourcing

inductive SagaEventType where
  | created
  | stepStarted
  | stepCompleted
  | stepFailed
  | compensationStarted
  | compensationCompleted
  | compensationFailed
  | completed
  | failed
  | cancelled
  | persisted
  | resumed
  deriving DecidableEq, Repr

def sagaEventVersion : Nat := 1

/-- The fresh id of an event and the two clock readings of its constructor. -/
structure EventStamp where
  eventId : Uuid
  occurredAt : DateTime
  persistedAt : DateTime

structure SagaEvent where
  eventId : Uuid
  sagaId : SagaId
  sagaType : SagaType
  eventType : SagaEventType
  version : Nat
  stepName : Option String
  stepNumber : Option Nat
  payload : Json
  occurredAt : DateTime
  persistedAt : DateTime
  correlationId : Option String
  actor : Option String
  errorMessage : Option String
  sequenceNumber : Nat

namespace SagaEvent

/-- What all constructors fill in alike. -/
def stamped (eventType : SagaEventType) (sagaId : SagaId) (sagaType : SagaType) (payload : Json)
    (context : SagaContext) (stamp : EventStamp) (sequenceNumber : Nat) : SagaEvent where
  eventId := stamp.eventId
  sagaId := sagaId
  sagaType := sagaType
  eventType := eventType
  version := sagaEventVersion
  stepName := none
  stepNumber := none
  payload := payload
  occurredAt := stamp.occurredAt
  persistedAt := stamp.persistedAt
  correlationId := context.correlationId
  actor := context.actor
  errorMessage := none
  sequenceNumber := sequenceNumber

@[simp] theorem sequence_number_stamped (eventType : SagaEventType) (sagaId : SagaId)
    (sagaType : SagaType) (payload : Json) (context : SagaContext) (stamp : EventStamp)
    (number : Nat) :
    (stamped eventType sagaId sagaType payload context stamp number).sequenceNumber = number :=
  rfl

def created (sagaId : SagaId) (sagaType : SagaType) (context : SagaContext) (payload : Json)
    (stamp : EventStamp) : SagaEvent :=
  stamped .created sagaId sagaType payload context stamp 0

def stepStarted (sagaId : SagaId) (sagaType : SagaType) (stepName : String) (stepNumber : Nat)
    (context : SagaContext) (stamp : EventStamp) : SagaEvent :=
  { stamped .stepStarted sagaId sagaType (.object []) context stamp stepNumber with
    stepName := some stepName
    stepNumber := some stepNumber }

def stepCompleted (sagaId : SagaId) (sagaType : SagaType) (stepName : String) (stepNumber : Nat)
    (output : Json) (context : SagaContext) (stamp : EventStamp) : SagaEvent :=
  { stamped .stepCompleted sagaId sagaType output context stamp stepNumber with
    stepName := some stepName
    stepNumber := some stepNumber }

/-- The sequence number is `u64::MAX`. -/
def completed (sagaId : SagaId) (sagaType : SagaType) (stepsExecuted : Nat)
    (context : SagaContext) (stamp : EventStamp) : SagaEvent :=
  stamped .completed sagaId sagaType (.object [("steps_executed", .integer stepsExecuted)])
    context stamp (2 ^ 64 - 1)

def failed (sagaId : SagaId) (sagaType : SagaType) (stepsExecuted : Nat) (errorMessage : String)
    (context : SagaContext) (stamp : EventStamp) : SagaEvent :=
  { stamped .failed sagaId sagaType (.object [("steps_executed", .integer stepsExecuted)])
      context stamp (2 ^ 64 - 1) with
    errorMessage := some errorMessage }

def cancelled (sagaId : SagaId) (sagaType : SagaType) (stepsExecuted compensationsExecuted : Nat)
    (context : SagaContext) (stamp : EventStamp) : SagaEvent :=
  stamped .cancelled sagaId sagaType
    (.object [("steps_executed", .integer stepsExecuted),
      ("compensations_executed", .integer compensationsExecuted)])
    context stamp (2 ^ 64 - 1)

end SagaEvent

/-! ## The fold over the events -/

structure EventSourcedSagaState where
  sagaId : SagaId
  sagaType : SagaType
  state : SagaState
  currentStep : Nat
  isCompensating : Bool
  stepsExecuted : Nat
  compensationsExecuted : Nat
  startedAt : DateTime
  lastEventAt : DateTime
  correlationId : Option String
  actor : Option String
  errorMessage : Option String
  stepOutputs : JsonMap
  metadata : JsonMap
  version : Nat
  eventCount : Nat

namespace EventSourcedSagaState

/-- The counters are `u32`. -/
def applyType (state : EventSourcedSagaState) (event : SagaEvent) : EventSourcedSagaState :=
  match event.eventType with
  | .created =>
      { state with
        state := .pending, currentStep := 0, stepsExecuted := 0, compensationsExecuted := 0 }
  | .stepStarted =>
      { state with
        state := .inProgress
        currentStep := event.stepNumber.getD 0
        stepsExecuted := (state.stepsExecuted + 1) % 2 ^ 32 }
  | .stepCompleted =>
      { state with
        currentStep := (state.currentStep + 1) % 2 ^ 32
        stepOutputs := match event.stepName with
          | some stepName => state.stepOutputs.insert stepName event.payload
          | none => state.stepOutputs }
  | .stepFailed =>
      { state with
        state := .compensating, isCompensating := true, errorMessage := event.errorMessage }
  | .compensationStarted => { state with isCompensating := true }
  | .compensationCompleted =>
      { state with compensationsExecuted := (state.compensationsExecuted + 1) % 2 ^ 32 }
  | .compensationFailed => { state with state := .failed }
  | .completed => { state with state := .completed, isCompensating := false }
  | .failed => { state with state := .failed, isCompensating := false }
  | .cancelled => { state with state := .cancelled, isCompensating := false }
  | .persisted | .resumed => state

def apply (state : EventSourcedSagaState) (event : SagaEvent) : EventSourcedSagaState :=
  { state.applyType event with
    lastEventAt := event.occurredAt
    eventCount := (state.eventCount + 1) % 2 ^ 64
    version := (state.version + 1) % 2 ^ 64 }

def initial (event : SagaEvent) : EventSourcedSagaState where
  sagaId := event.sagaId
  sagaType := event.sagaType
  state := .pending
  currentStep := 0
  isCompensating := false
  stepsExecuted := 0
  compensationsExecuted := 0
  startedAt := event.occurredAt
  lastEventAt := event.occurredAt
  correlationId := event.correlationId
  actor := event.actor
  errorMessage := none
  stepOutputs := []
  metadata := []
  version := 0
  eventCount := 0

/-- `sort_by_key` on the sequence number, which is stable. -/
def sortBySequence (events : List SagaEvent) : List SagaEvent :=
  events.insertionSort (fun left right => left.sequenceNumber ≤ right.sequenceNumber)

def fromEvents (events : List SagaEvent) : Option EventSourcedSagaState :=
  match sortBySequence events with
  | [] => none
  | first :: rest => some ((first :: rest).foldl apply (initial first))

end EventSourcedSagaState

/-! ## The store and the layer -/

inductive SagaEventStoreError where
  | invalidSequence (expected actual : Nat)
  deriving DecidableEq, Repr

/-- A saga without an entry has no events. -/
structure InMemorySagaEventStore where
  events : SagaId → List SagaEvent

namespace InMemorySagaEventStore

def appendEvent (store : InMemorySagaEventStore) (event : SagaEvent) :
    Except SagaEventStoreError InMemorySagaEventStore :=
  let push : InMemorySagaEventStore :=
    ⟨Function.update store.events event.sagaId (store.events event.sagaId ++ [event])⟩
  match (store.events event.sagaId).getLast? with
  | some last =>
      if event.sequenceNumber ≤ last.sequenceNumber then
        .error (.invalidSequence ((last.sequenceNumber + 1) % 2 ^ 64) event.sequenceNumber)
      else .ok push
  | none => .ok push

def getEvents (store : InMemorySagaEventStore) (sagaId : SagaId) : List SagaEvent :=
  store.events sagaId

end InMemorySagaEventStore

structure EventSourcingLayer where
  eventStore : Option InMemorySagaEventStore

namespace EventSourcingLayer

/-- Without a store every record call succeeds and does nothing. -/
def record (layer : EventSourcingLayer) (event : SagaEvent) :
    Except SagaEventStoreError EventSourcingLayer :=
  match layer.eventStore with
  | none => .ok layer
  | some store => (store.appendEvent event).map fun store => ⟨some store⟩

def createdPayload (sagaType : SagaType) (context : SagaContext) : Json :=
  .object [("saga_type", .string sagaType.asStr),
    ("metadata_keys", .array (context.metadata.map fun entry => .string entry.1))]

def recordCreated (layer : EventSourcingLayer) (sagaId : SagaId) (sagaType : SagaType)
    (context : SagaContext) (stamp : EventStamp) : Except SagaEventStoreError EventSourcingLayer :=
  layer.record (.created sagaId sagaType context (createdPayload sagaType context) stamp)

def recordStepStarted (layer : EventSourcingLayer) (sagaId : SagaId) (sagaType : SagaType)
    (stepName : String) (stepNumber : Nat) (context : SagaContext) (stamp : EventStamp) :
    Except SagaEventStoreError EventSourcingLayer :=
  layer.record (.stepStarted sagaId sagaType stepName stepNumber context stamp)

def recordStepCompleted (layer : EventSourcingLayer) (sagaId : SagaId) (sagaType : SagaType)
    (stepName : String) (stepNumber : Nat) (output : Json) (context : SagaContext)
    (stamp : EventStamp) : Except SagaEventStoreError EventSourcingLayer :=
  layer.record (.stepCompleted sagaId sagaType stepName stepNumber output context stamp)

def recordCompleted (layer : EventSourcingLayer) (sagaId : SagaId) (sagaType : SagaType)
    (stepsExecuted : Nat) (context : SagaContext) (stamp : EventStamp) :
    Except SagaEventStoreError EventSourcingLayer :=
  layer.record (.completed sagaId sagaType stepsExecuted context stamp)

def reconstructState (layer : EventSourcingLayer) (sagaId : SagaId) :
    Option EventSourcedSagaState :=
  layer.eventStore.bind fun store => EventSourcedSagaState.fromEvents (store.getEvents sagaId)

end EventSourcingLayer

/-! ## The history of a saga that completes -/

structure RecordedStep where
  name : String
  output : Json
  started : EventStamp
  completed : EventStamp

/-- The saga whose history is recorded, and the stamps of its first and last event. -/
structure SagaHistory where
  sagaId : SagaId
  sagaType : SagaType
  context : SagaContext
  steps : List RecordedStep
  created : EventStamp
  completed : EventStamp

namespace SagaHistory

def recordSteps (history : SagaHistory) :
    EventSourcingLayer → Nat → List RecordedStep → Except SagaEventStoreError EventSourcingLayer
  | layer, _, [] => .ok layer
  | layer, index, step :: rest => do
      let layer ← layer.recordStepStarted history.sagaId history.sagaType step.name index
        history.context step.started
      let layer ← layer.recordStepCompleted history.sagaId history.sagaType step.name index
        step.output history.context step.completed
      history.recordSteps layer (index + 1) rest

/-- Every call of the history, up to the first that fails. -/
def record (history : SagaHistory) (layer : EventSourcingLayer) :
    Except SagaEventStoreError EventSourcingLayer := do
  let layer ← layer.recordCreated history.sagaId history.sagaType history.context history.created
  let layer ← history.recordSteps layer 0 history.steps
  layer.recordCompleted history.sagaId history.sagaType history.steps.length history.context
    history.completed

/-- The saga is completed, its steps are counted, and each name has one output. -/
structure Reconstructs (history : SagaHistory) (state : EventSourcedSagaState) : Prop where
  completed : state.state = .completed
  stepsExecuted : state.stepsExecuted = history.steps.length
  currentStep : state.currentStep = history.steps.length
  oneOutput : (state.stepOutputs.map Prod.fst).Nodup
  outputs : ∀ name, name ∈ state.stepOutputs.map Prod.fst ↔ name ∈ history.steps.map (·.name)

def Recorded (history : SagaHistory) (layer : EventSourcingLayer) : Prop :=
  ∃ after state, history.record layer = .ok after ∧
    after.reconstructState history.sagaId = some state ∧ history.Reconstructs state

end SagaHistory

/-! ## What the store accepts -/

namespace InMemorySagaEventStore

variable {store after : InMemorySagaEventStore} {sagaId : SagaId}

def push (store : InMemorySagaEventStore) (sagaId : SagaId) (events : List SagaEvent) :
    InMemorySagaEventStore :=
  ⟨Function.update store.events sagaId (store.events sagaId ++ events)⟩

def Follows (earlier later : SagaEvent) : Prop := earlier.sequenceNumber < later.sequenceNumber

theorem append_event_iff (event : SagaEvent) :
    store.appendEvent event = .ok after ↔
      ((store.events event.sagaId).getLast?.toList ++ [event]).IsChain Follows ∧
        after = store.push event.sagaId [event] := by
  unfold appendEvent
  cases newest : (store.events event.sagaId).getLast? with
  | none => simp [push, eq_comm]
  | some last =>
      by_cases late : event.sequenceNumber ≤ last.sequenceNumber
      · simp [late, Follows]
      · simp [late, Follows, push, eq_comm, Nat.lt_of_not_le late]

theorem push_push (sagaId : SagaId) (first rest : List SagaEvent) :
    (store.push sagaId first).push sagaId rest = store.push sagaId (first ++ rest) := by
  simp [push]

theorem append_then_iff (event : SagaEvent) (rest : List SagaEvent) :
    (event :: rest).foldlM appendEvent store = .ok after ↔
      ∃ next, store.appendEvent event = .ok next ∧ rest.foldlM appendEvent next = .ok after := by
  rw [List.foldlM_cons]
  cases store.appendEvent event with
  | error problem => simp [bind, Except.bind]
  | ok next => simp [bind, Except.bind]

/-- A saga's events are accepted exactly if their sequence numbers rise, also above
the last one stored. -/
theorem append_all_iff (events : List SagaEvent)
    (sameSaga : ∀ event ∈ events, event.sagaId = sagaId) :
    events.foldlM appendEvent store = .ok after ↔
      ((store.events sagaId).getLast?.toList ++ events).IsChain Follows ∧
        after = store.push sagaId events := by
  induction events generalizing store with
  | nil => cases (store.events sagaId).getLast? <;> simp [push, pure, Except.pure, eq_comm]
  | cons event rest ih =>
      have same := sameSaga event (List.mem_cons_self ..)
      have others : ∀ event ∈ rest, event.sagaId = sagaId := by
        intro other isOther
        exact sameSaga other (List.mem_cons_of_mem _ isOther)
      have newest : ((store.push sagaId [event]).events sagaId).getLast? = some event := by
        simp [push]
      rw [append_then_iff, List.isChain_split]
      constructor
      · intro ⟨next, first, later⟩
        rw [append_event_iff, same] at first
        obtain ⟨follows, pushed⟩ := first
        rw [ih others, pushed, newest, push_push] at later
        exact ⟨⟨follows, later.1⟩, later.2⟩
      · intro ⟨⟨follows, later⟩, pushed⟩
        refine ⟨store.push sagaId [event], ?_, ?_⟩
        · rw [append_event_iff, same]
          exact ⟨follows, rfl⟩
        · rw [ih others, newest, push_push]
          exact ⟨later, pushed⟩

end InMemorySagaEventStore

/-! ## The history as events -/

namespace SagaHistory

def createdEvent (history : SagaHistory) : SagaEvent :=
  .created history.sagaId history.sagaType history.context
    (EventSourcingLayer.createdPayload history.sagaType history.context) history.created

def stepEvents (history : SagaHistory) : Nat → List RecordedStep → List SagaEvent
  | _, [] => []
  | index, step :: rest =>
      .stepStarted history.sagaId history.sagaType step.name index history.context step.started ::
        .stepCompleted history.sagaId history.sagaType step.name index step.output history.context
          step.completed :: history.stepEvents (index + 1) rest

def completedEvent (history : SagaHistory) : SagaEvent :=
  .completed history.sagaId history.sagaType history.steps.length history.context history.completed

def events (history : SagaHistory) : List SagaEvent :=
  history.createdEvent :: history.stepEvents 0 history.steps ++ [history.completedEvent]

variable {history : SagaHistory}

theorem record_steps_eq (layer : EventSourcingLayer) (index : Nat) (steps : List RecordedStep) :
    history.recordSteps layer index steps =
      (history.stepEvents index steps).foldlM EventSourcingLayer.record layer := by
  induction steps generalizing layer index with
  | nil => rfl
  | cons step rest ih =>
      simp only [recordSteps, stepEvents, List.foldlM_cons, ih]
      rfl

theorem record_eq (layer : EventSourcingLayer) :
    history.record layer = history.events.foldlM EventSourcingLayer.record layer := by
  simp only [record, events, List.cons_append, List.foldlM_cons, List.foldlM_append,
    record_steps_eq, List.foldlM_nil, bind_pure]
  rfl

/-- The layer hands its events to the store. -/
theorem record_in_store (store : InMemorySagaEventStore) (events : List SagaEvent) :
    events.foldlM EventSourcingLayer.record ⟨some store⟩ =
      (events.foldlM InMemorySagaEventStore.appendEvent store).map fun store => ⟨some store⟩ := by
  induction events generalizing store with
  | nil => rfl
  | cons event rest ih =>
      rw [List.foldlM_cons, List.foldlM_cons]
      simp only [EventSourcingLayer.record]
      cases store.appendEvent event with
      | error problem => rfl
      | ok next => exact ih next

theorem step_events_saga (history : SagaHistory) (index : Nat) (steps : List RecordedStep) :
    ∀ event ∈ history.stepEvents index steps, event.sagaId = history.sagaId := by
  induction steps generalizing index with
  | nil => simp [stepEvents]
  | cons step rest ih =>
      simp only [stepEvents, List.forall_mem_cons]
      exact ⟨rfl, rfl, ih (index + 1)⟩

theorem step_events_bounds (history : SagaHistory) (index : Nat) (steps : List RecordedStep) :
    ∀ event ∈ history.stepEvents index steps,
      index ≤ event.sequenceNumber ∧ event.sequenceNumber < index + steps.length := by
  induction steps generalizing index with
  | nil => simp [stepEvents]
  | cons step rest ih =>
      simp only [stepEvents, List.forall_mem_cons, List.length_cons]
      refine ⟨?_, ?_, ?_⟩
      · simp only [SagaEvent.stepStarted, SagaEvent.sequence_number_stamped]
        omega
      · simp only [SagaEvent.stepCompleted, SagaEvent.sequence_number_stamped]
        omega
      · intro event isLater
        have bounds := ih (index + 1) event isLater
        omega

theorem step_events_sorted (index : Nat) (steps : List RecordedStep) :
    (history.stepEvents index steps).Pairwise
      (fun left right => left.sequenceNumber ≤ right.sequenceNumber) := by
  induction steps generalizing index with
  | nil => simp [stepEvents]
  | cons step rest ih =>
      have later := step_events_bounds history (index + 1) rest
      simp only [stepEvents, List.pairwise_cons, List.forall_mem_cons]
      refine ⟨⟨Nat.le_refl _, ?_⟩, ?_, ih (index + 1)⟩
      · intro event isLater
        exact Nat.le_of_succ_le (later event isLater).1
      · intro event isLater
        exact Nat.le_of_succ_le (later event isLater).1

theorem events_sorted (few : history.steps.length < 2 ^ 32) :
    history.events.Pairwise
      (fun left right => left.sequenceNumber ≤ right.sequenceNumber) := by
  have bounds := step_events_bounds history 0 history.steps
  simp only [events, List.cons_append, List.pairwise_cons, List.pairwise_append,
    List.mem_singleton]
  refine ⟨?_, step_events_sorted 0 history.steps, ?_, ?_⟩
  · intro event _
    exact Nat.zero_le _
  · simp
  · intro event isStep last isLast
    have bound := (bounds event isStep).2
    subst isLast
    simp only [completedEvent, SagaEvent.completed, SagaEvent.sequence_number_stamped]
    omega

/-! ## What the fold rebuilds -/

theorem insert_keys (outputs : JsonMap) (name : String) (output : Json)
    (distinct : (outputs.map Prod.fst).Nodup) :
    ((outputs.insert name output).map Prod.fst).Nodup ∧
      ∀ other, other ∈ (outputs.insert name output).map Prod.fst ↔
        other = name ∨ other ∈ outputs.map Prod.fst := by
  have others : (outputs.filter fun entry => entry.1 != name).map Prod.fst =
      (outputs.map Prod.fst).filter (· != name) := by
    rw [List.filter_map]
    rfl
  simp only [JsonMap.insert, List.map_cons, others]
  constructor
  · simp [distinct.filter]
  · intro other
    by_cases same : other = name
    · simp [same]
    · simp [same]

/-- A state at step `index`, as it is left by the steps before it. -/
structure Reached (index : Nat) (state : EventSourcedSagaState) : Prop where
  stepsExecuted : state.stepsExecuted = index
  currentStep : state.currentStep = index
  oneOutput : (state.stepOutputs.map Prod.fst).Nodup

theorem fold_steps (history : SagaHistory) (index : Nat) (steps : List RecordedStep)
    (state : EventSourcedSagaState) (reached : Reached index state)
    (few : index + steps.length < 2 ^ 32) :
    let after := (history.stepEvents index steps).foldl EventSourcedSagaState.apply state
    Reached (index + steps.length) after ∧
      ∀ name, name ∈ after.stepOutputs.map Prod.fst ↔
        name ∈ steps.map (·.name) ∨ name ∈ state.stepOutputs.map Prod.fst := by
  induction steps generalizing index state with
  | nil => simpa [stepEvents] using reached
  | cons step rest ih =>
      have small : (index + 1) % 2 ^ 32 = index + 1 := by
        rw [List.length_cons] at few
        exact Nat.mod_eq_of_lt (by omega)
      obtain ⟨distinct, keys⟩ := insert_keys state.stepOutputs step.name step.output
        reached.oneOutput
      have next : Reached (index + 1) ((history.stepEvents index [step]).foldl
          EventSourcedSagaState.apply state) := by
        constructor
        · rw [← small, ← reached.stepsExecuted]
          rfl
        · exact small
        · exact distinct
      obtain ⟨later, laterKeys⟩ := ih (index + 1) _ next (by rw [List.length_cons] at few; omega)
      constructor
      · rw [List.length_cons, Nat.add_comm rest.length 1, ← Nat.add_assoc]
        exact later
      · intro name
        have known := (laterKeys name).trans (or_congr_right (keys name))
        rw [List.map_cons, List.mem_cons, or_assoc, or_left_comm]
        exact known

/-- The events fold to the claimed state, whatever their number. -/
theorem from_events_history (history : SagaHistory) (few : history.steps.length < 2 ^ 32) :
    ∃ state, EventSourcedSagaState.fromEvents history.events = some state ∧
      history.Reconstructs state := by
  have sorted : EventSourcedSagaState.sortBySequence history.events = history.events :=
    (events_sorted few).insertionSort_eq
  have fresh : Reached 0 ((EventSourcedSagaState.initial history.createdEvent).apply
      history.createdEvent) := ⟨rfl, rfl, List.nodup_nil⟩
  obtain ⟨reached, keys⟩ := fold_steps history 0 history.steps _ fresh (by omega)
  rw [Nat.zero_add] at reached
  have folded : EventSourcedSagaState.fromEvents history.events =
      some (((history.stepEvents 0 history.steps).foldl EventSourcedSagaState.apply
        ((EventSourcedSagaState.initial history.createdEvent).apply history.createdEvent)).apply
          history.completedEvent) := by
    rw [EventSourcedSagaState.fromEvents, sorted]
    simp only [events, List.cons_append, List.foldl_cons, List.foldl_append, List.foldl_nil]
  refine ⟨_, folded, ?_⟩
  constructor
  · rfl
  · exact reached.stepsExecuted
  · exact reached.currentStep
  · exact reached.oneOutput
  · intro name
    exact (keys name).trans (or_iff_left List.not_mem_nil)

/-! ## When a history can be recorded -/

/-- The first step has the sequence number of the creation. -/
theorem events_follow_iff :
    history.events.IsChain InMemorySagaEventStore.Follows ↔ history.steps = [] := by
  unfold events
  cases history.steps with
  | nil => simp [stepEvents, InMemorySagaEventStore.Follows, createdEvent, completedEvent,
      SagaEvent.created, SagaEvent.completed]
  | cons step rest => simp [stepEvents, InMemorySagaEventStore.Follows, createdEvent,
      SagaEvent.created, SagaEvent.stepStarted]

theorem events_after_iff (last : SagaEvent) :
    ¬(last :: history.events).IsChain InMemorySagaEventStore.Follows := by
  simp [events, InMemorySagaEventStore.Follows, createdEvent, SagaEvent.created]

theorem events_saga : ∀ event ∈ history.events, event.sagaId = history.sagaId := by
  have steps := step_events_saga history 0 history.steps
  simp only [events, List.cons_append, List.forall_mem_cons, List.forall_mem_append]
  exact ⟨rfl, steps, rfl, fun _ => List.not_mem_nil.elim⟩

/-- The store takes the whole history, and gives the claimed state back, exactly if the
saga has no step and no earlier event. -/
theorem recorded_iff (history : SagaHistory) (store : InMemorySagaEventStore) :
    history.Recorded ⟨some store⟩ ↔ history.steps = [] ∧ store.events history.sagaId = [] := by
  unfold Recorded
  rw [record_eq, record_in_store]
  constructor
  · intro ⟨after, state, accepted, _⟩
    cases stored : history.events.foldlM InMemorySagaEventStore.appendEvent store with
    | error problem =>
        rw [stored] at accepted
        cases accepted
    | ok next =>
        have follows := ((InMemorySagaEventStore.append_all_iff _ events_saga).mp stored).1
        cases newest : (store.events history.sagaId).getLast? with
        | none =>
            rw [newest] at follows
            exact ⟨events_follow_iff.mp follows, List.getLast?_eq_none_iff.mp newest⟩
        | some last =>
            rw [newest] at follows
            exact absurd follows (events_after_iff last)
  · intro ⟨noSteps, noEvents⟩
    have accepted : history.events.foldlM InMemorySagaEventStore.appendEvent store =
        .ok (store.push history.sagaId history.events) := by
      rw [InMemorySagaEventStore.append_all_iff _ events_saga, noEvents]
      exact ⟨events_follow_iff.mpr noSteps, rfl⟩
    obtain ⟨state, folded, claimed⟩ := from_events_history history (by simp [noSteps])
    refine ⟨⟨some (store.push history.sagaId history.events)⟩, state, ?_, ?_, claimed⟩
    · rw [accepted]
      rfl
    · simpa [EventSourcingLayer.reconstructState, InMemorySagaEventStore.getEvents,
        InMemorySagaEventStore.push, noEvents] using folded

def oneStep : SagaHistory where
  sagaId := ⟨7⟩
  sagaType := .execution
  context := .new ⟨7⟩ .execution none none 0
  steps := [⟨"Step1", .object [], ⟨2, 1, 1⟩, ⟨3, 2, 2⟩⟩]
  created := ⟨1, 0, 0⟩
  completed := ⟨4, 3, 3⟩

theorem first_step_refused :
    oneStep.record ⟨some ⟨fun _ => []⟩⟩ = .error (.invalidSequence 1 0) ∧
      ¬oneStep.Recorded ⟨some ⟨fun _ => []⟩⟩ := by
  have refused : oneStep.record ⟨some ⟨fun _ => []⟩⟩ = .error (.invalidSequence 1 0) := rfl
  refine ⟨refused, ?_⟩
  intro ⟨after, _, accepted, _⟩
  rw [refused] at accepted
  cases accepted

end SagaHistory

end HodeiJobs.Sagas.EventSourcing
