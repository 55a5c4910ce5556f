import HodeiJobs.Library.Casts
import HodeiJobs.Outbox.Events

/-!
# The relays of the outbox

`OutboxRelay` and `NatsOutboxRelay` on one batch. The tasks of a batch run side by side; they
touch different rows, and are carried out here one after the other. Statements and messages
to the dead letter queue succeed; conversions, decodings and publications have any outcome.
-/

namespace HodeiJobs.Outbox

open HodeiJobs.Library
open HodeiJobs.Sagas (Json Uuid DateTime)

variable {Event : Type}

/-! ## `OutboxRelay` -/

structure OutboxRelayConfig where
  batchSize : Nat
  maxRetries : Int

/-- What a batch meets: the conversion of a row, and the answer of the bus. -/
structure BusAnswers (Event : Type) where
  now : DateTime
  convert : OutboxEventView → Except String Event
  publish : Uuid → Event → Option String

namespace OutboxRelay

def fetchPendingEvents (config : OutboxRelayConfig) (table : EventTable) : List OutboxEventView :=
  table.getPendingEvents config.batchSize config.maxRetries

def processSingleEvent (answers : BusAnswers Event) (table : EventTable)
    (event : OutboxEventView) : EventTable × Except String Unit :=
  match answers.convert event with
  | .error error => (table, .error error)
  | .ok domainEvent =>
      match answers.publish event.id domainEvent with
      | some error => (table.markFailed event.id error, .error error)
      | none => (table.markPublished answers.now [event.id], .ok ())

def processEventsBatch (answers : BusAnswers Event) (events : List OutboxEventView)
    (table : EventTable) : EventTable :=
  events.foldl (fun table event => (processSingleEvent answers table event).1) table

/-- One round of the loop of `run`. -/
def step (config : OutboxRelayConfig) (table : EventTable) (answers : BusAnswers Event) :
    EventTable :=
  processEventsBatch answers (fetchPendingEvents config table) table

/-- Every fetched event is not returned any more or has more retries. -/
def Advances (config : OutboxRelayConfig) (table : EventTable) (answers : BusAnswers Event) :
    Prop :=
  ∀ event ∈ fetchPendingEvents config table,
    (step config table answers).Advanced config.maxRetries event

def ConvertsAll (config : OutboxRelayConfig) (table : EventTable) (answers : BusAnswers Event) :
    Prop :=
  ∀ event ∈ fetchPendingEvents config table, (answers.convert event).isOk = true

/-- What the relay makes of an event. One that does not convert is left as it was. -/
def settlement (answers : BusAnswers Event) (event : OutboxEventView) : Settlement :=
  match answers.convert event with
  | .error _ => .untouched
  | .ok domainEvent =>
      match answers.publish event.id domainEvent with
      | some error => .failed error
      | none => .published

def pass (config : OutboxRelayConfig) (answers : BusAnswers Event) : Pass :=
  ⟨config.batchSize, config.maxRetries, answers.now, settlement answers⟩

theorem process_single_event_eq (answers : BusAnswers Event) (table : EventTable)
    (event : OutboxEventView) :
    (processSingleEvent answers table event).1 =
      table.settle answers.now event.id (settlement answers event) := by
  unfold processSingleEvent settlement
  cases answers.convert event with
  | error error => exact (EventTable.settle_untouched table answers.now event.id).symm
  | ok domainEvent =>
      dsimp only
      cases answers.publish event.id domainEvent <;> rfl

theorem step_eq (config : OutboxRelayConfig) (table : EventTable) (answers : BusAnswers Event) :
    step config table answers = (pass config answers).run table := by
  unfold step processEventsBatch
  simp only [process_single_event_eq]
  rfl

theorem settlement_untouched_iff (answers : BusAnswers Event) (event : OutboxEventView) :
    settlement answers event ≠ .untouched ↔ (answers.convert event).isOk = true := by
  unfold settlement
  cases answers.convert event with
  | error error => simp [Except.isOk, Except.toBool]
  | ok domainEvent =>
      dsimp only
      cases answers.publish event.id domainEvent <;> simp [Except.isOk, Except.toBool]

theorem advances_iff (config : OutboxRelayConfig) (table : EventTable)
    (answers : BusAnswers Event) :
    Advances config table answers ↔ ConvertsAll config table answers := by
  unfold Advances ConvertsAll
  rw [step_eq]
  apply forall₂_congr
  intro event member
  rw [← settlement_untouched_iff]
  exact Pass.advanced_iff member

end OutboxRelay

/-! ## `NatsOutboxRelay` -/

structure NatsOutboxRelayConfig where
  batchSize : Nat
  maxRetries : UInt32
  enableDlq : Bool

structure DeadLetterEntry where
  eventId : Uuid
  aggregateId : Uuid
  eventType : String
  payload : Json
  failedAt : DateTime
  failureReason : String
  retryCount : Nat

def DeadLetterEntry.fromOutboxEvent (now : DateTime) (event : OutboxEventView)
    (failureReason : String) (retryCount : Nat) : DeadLetterEntry where
  eventId := event.id
  aggregateId := event.aggregateId
  eventType := event.eventType
  payload := event.payload
  failedAt := now
  failureReason := failureReason
  retryCount := retryCount

/-- What a batch meets: the decoding of a payload, and the outcome of each attempt to publish,
the circuit breaker included. -/
structure NatsAnswers (Event : Type) where
  now : DateTime
  decode : Json → Except String Event
  publish : Uuid → Nat → Event → Option String

/-- The table and the messages in the dead letter queue. -/
structure NatsRun where
  table : EventTable
  deadLetters : List DeadLetterEntry

namespace NatsOutboxRelay

def fetchPendingEvents (config : NatsOutboxRelayConfig) (table : EventTable) :
    List OutboxEventView :=
  table.getPendingEvents config.batchSize (asI32 config.maxRetries.toNat)

def processEvent (answers : NatsAnswers Event) (event : OutboxEventView) (attempt : Nat)
    (table : EventTable) : EventTable × Except String Unit :=
  match answers.decode event.payload with
  | .error error => (table, .error error)
  | .ok domainEvent =>
      match answers.publish event.id attempt domainEvent with
      | some error => (table, .error error)
      | none => (table.markPublished answers.now [event.id], .ok ())

def sendToDlq (config : NatsOutboxRelayConfig) (entry : DeadLetterEntry) (run : NatsRun) :
    NatsRun :=
  if config.enableDlq then { run with deadLetters := run.deadLetters ++ [entry] } else run

/-- The loop of `process_event_with_retry` after `retryCount` failed attempts, when `left`
more of them may fail without being the last. -/
def attemptFrom (config : NatsOutboxRelayConfig) (answers : NatsAnswers Event)
    (event : OutboxEventView) : Nat → Nat → NatsRun → NatsRun
  | left, retryCount, run =>
      match processEvent answers event retryCount run.table with
      | (table, .ok ()) => { run with table := table }
      | (table, .error error) =>
          let run := { run with table := table }
          match left with
          | 0 => sendToDlq config
              (.fromOutboxEvent answers.now event error (retryCount + 1)) run
          | left + 1 => attemptFrom config answers event left (retryCount + 1) run

/-- The first attempt is made even if `max_retries` is 0. -/
def processEventWithRetry (config : NatsOutboxRelayConfig) (answers : NatsAnswers Event)
    (run : NatsRun) (event : OutboxEventView) : NatsRun :=
  attemptFrom config answers event (config.maxRetries.toNat - 1) 0 run

def processEventsBatch (config : NatsOutboxRelayConfig) (answers : NatsAnswers Event)
    (events : List OutboxEventView) (run : NatsRun) : NatsRun :=
  events.foldl (processEventWithRetry config answers) run

/-- One round of the loop of `run`. -/
def step (config : NatsOutboxRelayConfig) (run : NatsRun) (answers : NatsAnswers Event) :
    NatsRun :=
  processEventsBatch config answers (fetchPendingEvents config run.table) run

/-- Every fetched event is not returned any more or has more retries. -/
def Advances (config : NatsOutboxRelayConfig) (run : NatsRun) (answers : NatsAnswers Event) :
    Prop :=
  ∀ event ∈ fetchPendingEvents config run.table,
    (step config run answers).table.Advanced (asI32 config.maxRetries.toNat) event

/-- The event decodes, and one of the attempts made for it would publish it. -/
def Delivers (config : NatsOutboxRelayConfig) (answers : NatsAnswers Event)
    (event : OutboxEventView) : Prop :=
  ∃ domainEvent, answers.decode event.payload = .ok domainEvent ∧
    ∃ attempt ≤ config.maxRetries.toNat - 1, answers.publish event.id attempt domainEvent = none

def DeliversAll (config : NatsOutboxRelayConfig) (run : NatsRun) (answers : NatsAnswers Event) :
    Prop :=
  ∀ event ∈ fetchPendingEvents config run.table, Delivers config answers event

/-- Whether an attempt publishes the event. -/
def publishesAt (answers : NatsAnswers Event) (event : OutboxEventView) (attempt : Nat) : Bool :=
  match answers.decode event.payload with
  | .error _ => false
  | .ok domainEvent => (answers.publish event.id attempt domainEvent).isNone

/-- Whether one of the attempts from this one on publishes the event, if `left` more follow. -/
def delivered (answers : NatsAnswers Event) (event : OutboxEventView) (left retryCount : Nat) :
    Bool :=
  (List.range' retryCount (left + 1)).any (publishesAt answers event)

/-- What the relay makes of an event. It leaves one that it dead-letters as it was. -/
def settlement (config : NatsOutboxRelayConfig) (answers : NatsAnswers Event)
    (event : OutboxEventView) : Settlement :=
  if delivered answers event (config.maxRetries.toNat - 1) 0 then .published else .untouched

def pass (config : NatsOutboxRelayConfig) (answers : NatsAnswers Event) : Pass :=
  ⟨config.batchSize, asI32 config.maxRetries.toNat, answers.now, settlement config answers⟩

section

variable (config : NatsOutboxRelayConfig) (answers : NatsAnswers Event) (event : OutboxEventView)

theorem process_event_published {attempt : Nat}
    (published : publishesAt answers event attempt = true) (table : EventTable) :
    processEvent answers event attempt table =
      (table.markPublished answers.now [event.id], .ok ()) := by
  unfold publishesAt at published
  unfold processEvent
  cases decoded : answers.decode event.payload with
  | error error => simp [decoded] at published
  | ok domainEvent =>
      simp only [decoded, Option.isNone_iff_eq_none] at published
      simp only [published]

theorem process_event_failed {attempt : Nat} (failed : publishesAt answers event attempt = false)
    (table : EventTable) :
    ∃ error, processEvent answers event attempt table = (table, .error error) := by
  unfold publishesAt at failed
  unfold processEvent
  cases decoded : answers.decode event.payload with
  | error error => exact ⟨error, rfl⟩
  | ok domainEvent =>
      cases published : answers.publish event.id attempt domainEvent with
      | none => simp [decoded, published] at failed
      | some error => exact ⟨error, by simp only [published]⟩

/-- The loop marks the event published if one of its attempts publishes it, and otherwise
touches no row. -/
theorem attempt_from_cases (left retryCount : Nat) (run : NatsRun) :
    (delivered answers event left retryCount = true →
      attemptFrom config answers event left retryCount run =
        { run with table := run.table.markPublished answers.now [event.id] }) ∧
      (delivered answers event left retryCount = false →
        (attemptFrom config answers event left retryCount run).table = run.table) := by
  induction left generalizing retryCount with
  | zero =>
      have single : delivered answers event 0 retryCount =
          publishesAt answers event retryCount := by
        simp [delivered]
      rw [single]
      constructor
      · intro published
        rw [attemptFrom, process_event_published answers event published]
      · intro failed
        obtain ⟨error, result⟩ := process_event_failed answers event failed run.table
        rw [attemptFrom, result]
        dsimp only [sendToDlq]
        split_ifs <;> rfl
  | succ left ih =>
      have split : delivered answers event (left + 1) retryCount =
          (publishesAt answers event retryCount ||
            delivered answers event left (retryCount + 1)) := by
        rw [delivered, List.range'_succ, List.any_cons, delivered]
      rw [split, Bool.or_eq_true, Bool.or_eq_false_iff]
      cases attempt : publishesAt answers event retryCount with
      | true =>
          rw [attemptFrom, process_event_published answers event attempt]
          simp
      | false =>
          obtain ⟨error, result⟩ := process_event_failed answers event attempt run.table
          rw [attemptFrom, result]
          simpa using ih (retryCount + 1)

theorem process_event_with_retry_table (run : NatsRun) :
    (processEventWithRetry config answers run event).table =
      run.table.settle answers.now event.id (settlement config answers event) := by
  obtain ⟨published, untouched⟩ :=
    attempt_from_cases config answers event (config.maxRetries.toNat - 1) 0 run
  unfold processEventWithRetry settlement
  cases attempts : delivered answers event (config.maxRetries.toNat - 1) 0 with
  | true =>
      rw [published attempts, if_pos rfl]
      rfl
  | false =>
      rw [untouched attempts, if_neg Bool.false_ne_true, EventTable.settle_untouched]

theorem settlement_untouched_iff :
    settlement config answers event ≠ .untouched ↔ Delivers config answers event := by
  have attempts : delivered answers event (config.maxRetries.toNat - 1) 0 = true ↔
      Delivers config answers event := by
    simp only [delivered, List.any_eq_true, List.mem_range'_1, Nat.zero_le, true_and, Nat.zero_add]
    unfold publishesAt Delivers
    cases answers.decode event.payload with
    | error error => simp
    | ok domainEvent =>
        simp only [Option.isNone_iff_eq_none, Except.ok.injEq, exists_eq_left', Nat.lt_succ_iff]
  unfold settlement
  rw [← attempts]
  split_ifs with published <;> simp [published]

end

theorem batch_table (config : NatsOutboxRelayConfig) (answers : NatsAnswers Event)
    (events : List OutboxEventView) (run : NatsRun) :
    (processEventsBatch config answers events run).table =
      Pass.settleEach answers.now (settlement config answers) events run.table := by
  induction events generalizing run with
  | nil => rfl
  | cons event rest ih =>
      have first := process_event_with_retry_table config answers event run
      have rest := ih (processEventWithRetry config answers run event)
      rw [first] at rest
      exact rest

theorem step_table (config : NatsOutboxRelayConfig) (run : NatsRun)
    (answers : NatsAnswers Event) :
    (step config run answers).table = (pass config answers).run run.table :=
  batch_table config answers _ run

theorem advances_iff (config : NatsOutboxRelayConfig) (run : NatsRun)
    (answers : NatsAnswers Event) :
    Advances config run answers ↔ DeliversAll config run answers := by
  unfold Advances DeliversAll
  rw [step_table]
  apply forall₂_congr
  intro event member
  rw [← settlement_untouched_iff]
  exact Pass.advanced_iff member

/-- A batch that delivers every event dead-letters none. -/
theorem step_dead_letters {config : NatsOutboxRelayConfig} {run : NatsRun}
    {answers : NatsAnswers Event} (delivers : DeliversAll config run answers) :
    (step config run answers).deadLetters = run.deadLetters := by
  have batch : ∀ (events : List OutboxEventView) (start : NatsRun),
      (∀ event ∈ events, Delivers config answers event) →
        (processEventsBatch config answers events start).deadLetters = start.deadLetters := by
    intro events
    induction events with
    | nil => exact fun _ _ => rfl
    | cons event rest ih =>
        intro start delivers
        have attempts : delivered answers event (config.maxRetries.toNat - 1) 0 = true := by
          have touched := (settlement_untouched_iff config answers event).mpr
            (delivers event List.mem_cons_self)
          unfold settlement at touched
          by_contra failed
          rw [if_neg failed] at touched
          exact touched rfl
        have first := (attempt_from_cases config answers event (config.maxRetries.toNat - 1) 0
          start).1 attempts
        have later := ih (processEventWithRetry config answers start event)
          (fun other member => delivers other (List.mem_cons_of_mem event member))
        have same : (processEventWithRetry config answers start event).deadLetters =
            start.deadLetters := by
          unfold processEventWithRetry
          rw [first]
        exact later.trans same
  exact batch _ run delivers

end NatsOutboxRelay

/-! ## Poison messages -/

theorem OutboxRelay.pass_settles_all {config : OutboxRelayConfig} {table : EventTable}
    {answers : BusAnswers Event} (advances : OutboxRelay.Advances config table answers) :
    (OutboxRelay.pass config answers).SettlesAll table := by
  intro event member
  exact (OutboxRelay.settlement_untouched_iff answers event).mpr
    ((OutboxRelay.advances_iff config table answers).mp advances event member)

theorem NatsOutboxRelay.pass_settles_all {config : NatsOutboxRelayConfig} {run : NatsRun}
    {answers : NatsAnswers Event} (advances : NatsOutboxRelay.Advances config run answers) :
    (NatsOutboxRelay.pass config answers).SettlesAll run.table := by
  intro event member
  exact (NatsOutboxRelay.settlement_untouched_iff config answers event).mpr
    ((NatsOutboxRelay.advances_iff config run answers).mp advances event member)

theorem OutboxRelay.waits_behind_others (config : OutboxRelayConfig) (table : EventTable)
    (batches : List (BusAnswers Event)) {event : OutboxEventView}
    (found : table.find event.id = some event)
    (selects : EventTable.selected config.maxRetries event = true)
    (each : EachMove (OutboxRelay.step config) (fun table answers =>
      OutboxRelay.Advances config table answers ∧
        event.id ∉ (OutboxRelay.fetchPendingEvents config table).map OutboxEventView.id)
      table batches) :
    batches.length * config.batchSize <
      table.rows.countP (EventTable.selected config.maxRetries) := by
  have passes : EachMove (fun table (pass : Pass) => pass.run table)
      (fun table pass => pass.SettlesAll table ∧
        event.id ∉ (pass.fetched table).map OutboxEventView.id)
      table (batches.map (OutboxRelay.pass config)) :=
    each_move_of_simulates (OutboxRelay.step config) _ id _ (OutboxRelay.step_eq config)
      (fun _ _ both => ⟨OutboxRelay.pass_settles_all both.1, both.2⟩) batches table each
  have alike : ∀ pass ∈ batches.map (OutboxRelay.pass config),
      pass.batchSize = config.batchSize ∧ pass.maxRetries = config.maxRetries := by
    intro pass member
    obtain ⟨answers, -, rfl⟩ := List.mem_map.mp member
    exact ⟨rfl, rfl⟩
  have waits := Pass.waits_behind_others _ table alike found selects passes
  rw [List.length_map] at waits
  exact waits

theorem NatsOutboxRelay.waits_behind_others (config : NatsOutboxRelayConfig) (run : NatsRun)
    (batches : List (NatsAnswers Event)) {event : OutboxEventView}
    (found : run.table.find event.id = some event)
    (selects : EventTable.selected (asI32 config.maxRetries.toNat) event = true)
    (each : EachMove (NatsOutboxRelay.step config) (fun run answers =>
      NatsOutboxRelay.Advances config run answers ∧
        event.id ∉ (NatsOutboxRelay.fetchPendingEvents config run.table).map OutboxEventView.id)
      run batches) :
    batches.length * config.batchSize <
      run.table.rows.countP (EventTable.selected (asI32 config.maxRetries.toNat)) := by
  have passes : EachMove (fun table (pass : Pass) => pass.run table)
      (fun table pass => pass.SettlesAll table ∧
        event.id ∉ (pass.fetched table).map OutboxEventView.id)
      run.table (batches.map (NatsOutboxRelay.pass config)) :=
    each_move_of_simulates (NatsOutboxRelay.step config) _ NatsRun.table _
      (NatsOutboxRelay.step_table config)
      (fun _ _ both => ⟨NatsOutboxRelay.pass_settles_all both.1, both.2⟩) batches run each
  have alike : ∀ pass ∈ batches.map (NatsOutboxRelay.pass config),
      pass.batchSize = config.batchSize ∧
        pass.maxRetries = asI32 config.maxRetries.toNat := by
    intro pass member
    obtain ⟨answers, -, rfl⟩ := List.mem_map.mp member
    exact ⟨rfl, rfl⟩
  have waits := Pass.waits_behind_others _ run.table alike found selects passes
  rw [List.length_map] at waits
  exact waits

theorem NatsOutboxRelay.run_dead_letters (config : NatsOutboxRelayConfig) (run : NatsRun)
    (batches : List (NatsAnswers Event))
    (each : EachMove (NatsOutboxRelay.step config) (NatsOutboxRelay.Advances config) run batches) :
    (batches.foldl (NatsOutboxRelay.step config) run).deadLetters = run.deadLetters := by
  induction batches generalizing run with
  | nil => rfl
  | cons answers rest ih =>
      have delivers := (NatsOutboxRelay.advances_iff config run answers).mp each.1
      exact (ih _ each.2).trans (NatsOutboxRelay.step_dead_letters delivers)

/-- A batch lets every fetched event advance exactly if each of them converts (`OutboxRelay`)
or is published by one of its attempts (`NatsOutboxRelay`). Where every batch does so, nothing
is dead-lettered, and an event waits for at most as many batches as the others fill. -/
theorem batches_advance_iff (Event : Type) :
    (∀ config table (answers : BusAnswers Event), OutboxRelay.Advances config table answers ↔
      OutboxRelay.ConvertsAll config table answers) ∧
    (∀ config run (answers : NatsAnswers Event), NatsOutboxRelay.Advances config run answers ↔
      NatsOutboxRelay.DeliversAll config run answers) ∧
    (∀ config run (batches : List (NatsAnswers Event)),
      EachMove (NatsOutboxRelay.step config) (NatsOutboxRelay.Advances config) run batches →
        (batches.foldl (NatsOutboxRelay.step config) run).deadLetters = run.deadLetters) ∧
    (∀ config table (batches : List (BusAnswers Event)) (event : OutboxEventView),
      table.find event.id = some event → EventTable.selected config.maxRetries event = true →
        EachMove (OutboxRelay.step config) (fun table answers =>
          OutboxRelay.Advances config table answers ∧
            event.id ∉ (OutboxRelay.fetchPendingEvents config table).map OutboxEventView.id)
          table batches →
        batches.length * config.batchSize <
          table.rows.countP (EventTable.selected config.maxRetries)) ∧
    (∀ config (run : NatsRun) (batches : List (NatsAnswers Event)) (event : OutboxEventView),
      run.table.find event.id = some event →
        EventTable.selected (asI32 config.maxRetries.toNat) event = true →
        EachMove (NatsOutboxRelay.step config) (fun run answers =>
          NatsOutboxRelay.Advances config run answers ∧ event.id ∉
            (NatsOutboxRelay.fetchPendingEvents config run.table).map OutboxEventView.id)
          run batches →
        batches.length * config.batchSize <
          run.table.rows.countP (EventTable.selected (asI32 config.maxRetries.toNat))) := by
  refine ⟨OutboxRelay.advances_iff, NatsOutboxRelay.advances_iff,
    NatsOutboxRelay.run_dead_letters, ?_, ?_⟩
  · intro config table batches event found selects each
    exact OutboxRelay.waits_behind_others config table batches found selects each
  · intro config run batches event found selects each
    exact NatsOutboxRelay.waits_behind_others config run batches found selects each

def poison : OutboxEventInsert := ⟨7, .job, "Unknown", .null, none, none⟩

/-- One event, of which nothing can be made. -/
def poisonedTable : EventTable := EventTable.insertEvent ⟨[], List.nodup_nil⟩ 1 0 poison

def undecodable (now : DateTime) : NatsAnswers Unit :=
  ⟨now, fun _ => .error "missing field", fun _ _ _ => none⟩

/-- Neither relay lets it advance, and one of them dead-letters it in every batch. -/
theorem poison_does_not_advance :
    ¬OutboxRelay.Advances ⟨10, 5⟩ poisonedTable
        (⟨1, fun _ => .error "Unknown event type", fun _ _ => none⟩ : BusAnswers Unit) ∧
      ¬NatsOutboxRelay.Advances ⟨10, 5, true⟩ ⟨poisonedTable, []⟩ (undecodable 1) ∧
      ([undecodable 1, undecodable 2].foldl (NatsOutboxRelay.step ⟨10, 5, true⟩)
        ⟨poisonedTable, []⟩).deadLetters.map DeadLetterEntry.eventId = [1, 1] := by
  have fetched : EventTable.getPendingEvents poisonedTable 10 5 =
      [EventTable.insertedEvent 1 0 poison] := rfl
  refine ⟨?_, ?_, by decide⟩
  · rw [OutboxRelay.advances_iff]
    intro converts
    have member : EventTable.insertedEvent 1 0 poison ∈
        OutboxRelay.fetchPendingEvents ⟨10, 5⟩ poisonedTable := by
      rw [OutboxRelay.fetchPendingEvents, fetched]
      exact List.mem_cons_self
    cases converts _ member
  · rw [NatsOutboxRelay.advances_iff]
    intro delivers
    have member : EventTable.insertedEvent 1 0 poison ∈
        NatsOutboxRelay.fetchPendingEvents ⟨10, 5, true⟩ poisonedTable := by
      have retries : asI32 (5 : UInt32).toNat = 5 := by decide
      rw [NatsOutboxRelay.fetchPendingEvents, retries, fetched]
      exact List.mem_cons_self
    obtain ⟨event, decoded, -⟩ := delivers _ member
    cases decoded

end HodeiJobs.Outbox
