import HodeiJobs.Library.Query
import HodeiJobs.Library.Runs
import HodeiJobs.Sagas.Types

/-!
# The outbox of domain events

The records of `domain/src/outbox/model.rs`, the statements with which
`PostgresOutboxRepository` reads and writes `outbox_events`, and what a pass over the events
that it returns does to the table.
-/

namespace HodeiJobs.Outbox

open HodeiJobs.Library
open HodeiJobs.Sagas (Json Uuid DateTime)

inductive OutboxStatus where
  | pending
  | published
  | failed
  deriving DecidableEq

inductive AggregateType where
  | job
  | worker
  | provider
  deriving DecidableEq

structure OutboxEventInsert where
  aggregateId : Uuid
  aggregateType : AggregateType
  eventType : String
  payload : Json
  metadata : Option Json
  idempotencyKey : Option String

structure OutboxEventView where
  id : Uuid
  aggregateId : Uuid
  aggregateType : AggregateType
  eventType : String
  eventVersion : Int
  payload : Json
  metadata : Option Json
  idempotencyKey : Option String
  createdAt : DateTime
  publishedAt : Option DateTime
  status : OutboxStatus
  retryCount : Int
  lastError : Option String

abbrev EventTable := Table OutboxEventView.id

namespace EventTable

/-- The row that `insert_events` writes for an event. The columns it does not name keep their
defaults. -/
def insertedEvent (id : Uuid) (now : DateTime) (event : OutboxEventInsert) : OutboxEventView where
  id := id
  aggregateId := event.aggregateId
  aggregateType := event.aggregateType
  eventType := event.eventType
  eventVersion := 1
  payload := event.payload
  metadata := event.metadata
  idempotencyKey := event.idempotencyKey
  createdAt := now
  publishedAt := none
  status := .pending
  retryCount := 0
  lastError := none

/-- No row has the id or, `idempotency_key` being unique, the key of the event. -/
def accepts (table : EventTable) (id : Uuid) (event : OutboxEventInsert) : Bool :=
  (table.find id).isNone &&
    (table.findWhere fun row =>
      decide (row.idempotencyKey = event.idempotencyKey ∧ event.idempotencyKey ≠ none)).isNone

/-- `insert_events` of one event, with the id that the database draws. -/
def insertEvent (table : EventTable) (id : Uuid) (now : DateTime) (event : OutboxEventInsert) :
    EventTable :=
  if table.accepts id event then table.upsert (insertedEvent id now event) else table

/-- The `WHERE` clause of `get_pending_events`. -/
def selected (maxRetries : Int) (event : OutboxEventView) : Bool :=
  decide (event.status = .pending ∧ event.retryCount < maxRetries)

/-- `ORDER BY created_at ASC`. -/
def olderEvent (event other : OutboxEventView) : Prop := event.createdAt ≤ other.createdAt

instance : DecidableRel olderEvent := fun event other =>
  inferInstanceAs (Decidable (event.createdAt ≤ other.createdAt))

/-- A lock of `FOR UPDATE SKIP LOCKED` ends with the statement. -/
def getPendingEvents (table : EventTable) (limit : Nat) (maxRetries : Int) :
    List OutboxEventView :=
  table.query (selected maxRetries) olderEvent limit

def publishedEvent (now : DateTime) (event : OutboxEventView) : OutboxEventView :=
  { event with status := .published, publishedAt := some now }

def failedEvent (error : String) (event : OutboxEventView) : OutboxEventView :=
  { event with
    status := .failed, retryCount := event.retryCount + 1, lastError := some error }

theorem published_event_id (now : DateTime) (event : OutboxEventView) :
    (publishedEvent now event).id = event.id :=
  rfl

theorem failed_event_id (error : String) (event : OutboxEventView) :
    (failedEvent error event).id = event.id :=
  rfl

def markPublished (table : EventTable) (now : DateTime) (ids : List Uuid) : EventTable :=
  table.updateEach ids (fun _ => publishedEvent now) fun _ => published_event_id now

def markFailed (table : EventTable) (id : Uuid) (error : String) : EventTable :=
  table.update id (failedEvent error) (failed_event_id error)

end EventTable

/-- The event is not returned any more, however many are asked for, or it has more retries. -/
def EventTable.Advanced (after : EventTable) (maxRetries : Int) (event : OutboxEventView) : Prop :=
  (∀ limit, event.id ∉ (after.getPendingEvents limit maxRetries).map OutboxEventView.id) ∨
    ∃ row, after.find event.id = some row ∧ event.retryCount < row.retryCount

/-! ## Passes -/

/-- What becomes of a returned event: one of the two marks, or none. -/
inductive Settlement where
  | published
  | failed (error : String)
  | untouched
  deriving DecidableEq

def Settlement.apply (now : DateTime) : Settlement → OutboxEventView → OutboxEventView
  | .published => EventTable.publishedEvent now
  | .failed error => EventTable.failedEvent error
  | .untouched => id

@[simp] theorem Settlement.apply_id (now : DateTime) (settlement : Settlement)
    (event : OutboxEventView) : (settlement.apply now event).id = event.id := by
  cases settlement <;> rfl

def EventTable.settle (table : EventTable) (now : DateTime) (id : Uuid)
    (settlement : Settlement) : EventTable :=
  table.update id (settlement.apply now) (settlement.apply_id now)

theorem EventTable.settle_untouched (table : EventTable) (now : DateTime) (id : Uuid) :
    table.settle now id .untouched = table :=
  Table.update_of_fixed table id _ _ fun _ => rfl

/-- A pass over the events that the table returns: what it asks for, and what becomes of
each. -/
structure Pass where
  batchSize : Nat
  maxRetries : Int
  now : DateTime
  settlement : OutboxEventView → Settlement

namespace Pass

def fetched (pass : Pass) (table : EventTable) : List OutboxEventView :=
  table.getPendingEvents pass.batchSize pass.maxRetries

def settleEach (now : DateTime) (settlement : OutboxEventView → Settlement)
    (events : List OutboxEventView) (table : EventTable) : EventTable :=
  events.foldl (fun table event => table.settle now event.id (settlement event)) table

def run (pass : Pass) (table : EventTable) : EventTable :=
  settleEach pass.now pass.settlement (pass.fetched table) table

variable {pass : Pass} {table : EventTable}

theorem fetched_selected {event : OutboxEventView} (member : event ∈ pass.fetched table) :
    table.find event.id = some event ∧ event.status = .pending ∧
      event.retryCount < pass.maxRetries :=
  ⟨Table.find_of_mem_query member, of_decide_eq_true (Table.of_mem_query member).2⟩

theorem nodup_fetched (pass : Pass) (table : EventTable) :
    ((pass.fetched table).map OutboxEventView.id).Nodup :=
  Table.nodup_query table _ _ _

/-- Settling events that differ in their ids touches the row of each once. -/
theorem find_settle_each (now : DateTime) (settlement : OutboxEventView → Settlement)
    (events : List OutboxEventView) (table : EventTable)
    (distinct : (events.map OutboxEventView.id).Nodup) :
    (∀ event ∈ events, (settleEach now settlement events table).find event.id =
        (table.find event.id).map ((settlement event).apply now)) ∧
      ∀ id, id ∉ events.map OutboxEventView.id →
        (settleEach now settlement events table).find id = table.find id := by
  induction events generalizing table with
  | nil =>
      constructor
      · intro event member
        cases member
      · intro id _
        rfl
  | cons first rest ih =>
      obtain ⟨apart, distinctRest⟩ := List.nodup_cons.mp distinct
      obtain ⟨settled, others⟩ := ih (table.settle now first.id (settlement first)) distinctRest
      have find : ∀ id, (table.settle now first.id (settlement first)).find id =
          if id = first.id then (table.find id).map ((settlement first).apply now)
          else table.find id := Table.find_update table first.id _ _
      have folded : settleEach now settlement (first :: rest) table =
          settleEach now settlement rest (table.settle now first.id (settlement first)) := rfl
      constructor
      · intro event member
        rw [folded]
        rcases List.mem_cons.mp member with same | later
        · subst same
          rw [others event.id apart, find, if_pos rfl]
        · have different : event.id ≠ first.id := by
            intro same
            exact apart (List.mem_map.mpr ⟨event, later, same⟩)
          rw [settled event later, find, if_neg different]
      · intro id absent
        rw [List.map_cons, List.mem_cons, not_or] at absent
        rw [folded, others id absent.2, find, if_neg absent.1]

theorem find_run {event : OutboxEventView} (member : event ∈ pass.fetched table) :
    (pass.run table).find event.id = some ((pass.settlement event).apply pass.now event) := by
  have settled := (find_settle_each pass.now pass.settlement (pass.fetched table) table
    (nodup_fetched pass table)).1 event member
  rw [(fetched_selected member).1] at settled
  exact settled

theorem find_run_of_not_fetched {id : Uuid}
    (other : id ∉ (pass.fetched table).map OutboxEventView.id) :
    (pass.run table).find id = table.find id :=
  (find_settle_each pass.now pass.settlement (pass.fetched table) table
    (nodup_fetched pass table)).2 id other

/-- An event advances exactly if the pass does not leave it as it was. -/
theorem advanced_iff {event : OutboxEventView} (member : event ∈ pass.fetched table) :
    (pass.run table).Advanced pass.maxRetries event ↔ pass.settlement event ≠ .untouched := by
  have after := find_run member
  obtain ⟨-, pending, retries⟩ := fetched_selected member
  constructor
  · intro advanced untouched
    rw [untouched] at after
    rcases advanced with gone | ⟨row, found, more⟩
    · have selects : EventTable.selected pass.maxRetries event = true :=
        decide_eq_true ⟨pending, retries⟩
      have stored := List.mem_of_find?_eq_some after
      have returned : event ∈ (pass.run table).getPendingEvents
          ((pass.run table).rows.countP (EventTable.selected pass.maxRetries)) pass.maxRetries :=
        Table.mem_query_of_room stored selects (Nat.le_refl _)
      exact gone _ (List.mem_map.mpr ⟨event, returned, rfl⟩)
    · rw [after] at found
      cases found
      exact absurd more (by simp [Settlement.apply])
  · intro touched
    left
    intro limit returned
    obtain ⟨row, isRow, same⟩ := List.mem_map.mp returned
    have found : (pass.run table).find row.id = some row := Table.find_of_mem_query isRow
    have stillPending := (of_decide_eq_true (Table.of_mem_query isRow).2).1
    rw [same, after] at found
    cases Option.some.inj found
    cases settles : pass.settlement event with
    | published => rw [settles] at stillPending; cases stillPending
    | failed error => rw [settles] at stillPending; cases stillPending
    | untouched => exact touched settles

/-! ## Passes that settle all that they fetch -/

def SettlesAll (pass : Pass) (table : EventTable) : Prop :=
  ∀ event ∈ pass.fetched table, pass.settlement event ≠ .untouched

theorem not_selected_of_settled {maxRetries : Int} {now : DateTime} {settlement : Settlement}
    (settled : settlement ≠ .untouched) (event : OutboxEventView) :
    EventTable.selected maxRetries (settlement.apply now event) = false := by
  apply decide_eq_false
  intro ⟨pending, _⟩
  cases settlement with
  | published => cases pending
  | failed error => cases pending
  | untouched => exact settled rfl

/-- Each settled event leaves the events that wait. -/
theorem count_settle_each {maxRetries : Int} (now : DateTime)
    (settlement : OutboxEventView → Settlement) (events : List OutboxEventView)
    (table : EventTable) (distinct : (events.map OutboxEventView.id).Nodup)
    (waiting : ∀ event ∈ events, table.find event.id = some event ∧
      EventTable.selected maxRetries event = true)
    (settled : ∀ event ∈ events, settlement event ≠ .untouched) :
    (settleEach now settlement events table).rows.countP (EventTable.selected maxRetries) +
        events.length = table.rows.countP (EventTable.selected maxRetries) := by
  induction events generalizing table with
  | nil => rfl
  | cons first rest ih =>
      obtain ⟨apart, distinctRest⟩ := List.nodup_cons.mp distinct
      obtain ⟨found, selects⟩ := waiting first List.mem_cons_self
      have one : (table.settle now first.id (settlement first)).rows.countP
          (EventTable.selected maxRetries) + 1 =
            table.rows.countP (EventTable.selected maxRetries) :=
        Table.count_update_of_leaves table _ _ _ found selects
          (not_selected_of_settled (settled first List.mem_cons_self) first)
      have others := ih (table.settle now first.id (settlement first)) distinctRest
        (by
          intro event later
          obtain ⟨foundEvent, selectsEvent⟩ := waiting event (List.mem_cons_of_mem first later)
          have different : event.id ≠ first.id := by
            intro same
            exact apart (List.mem_map.mpr ⟨event, later, same⟩)
          refine ⟨?_, selectsEvent⟩
          rw [EventTable.settle, Table.find_update, if_neg different]
          exact foundEvent)
        (fun event later => settled event (List.mem_cons_of_mem first later))
      have folded : settleEach now settlement (first :: rest) table =
          settleEach now settlement rest (table.settle now first.id (settlement first)) := rfl
      rw [folded, List.length_cons]
      omega

/-- An event that waits while passes of one size settle all that they fetch waits for at most
as many passes as the other waiting events fill. -/
theorem waits_behind_others {batchSize : Nat} {maxRetries : Int} (passes : List Pass)
    (table : EventTable)
    (alike : ∀ pass ∈ passes, pass.batchSize = batchSize ∧ pass.maxRetries = maxRetries)
    {event : OutboxEventView} (found : table.find event.id = some event)
    (selects : EventTable.selected maxRetries event = true)
    (settling : EachMove (fun table pass => pass.run table)
      (fun table pass => pass.SettlesAll table ∧
        event.id ∉ (pass.fetched table).map OutboxEventView.id) table passes) :
    passes.length * batchSize < table.rows.countP (EventTable.selected maxRetries) := by
  induction passes generalizing table with
  | nil =>
      rw [List.length_nil, Nat.zero_mul, List.countP_pos_iff]
      exact ⟨event, List.mem_of_find?_eq_some found, selects⟩
  | cons pass rest ih =>
      obtain ⟨⟨settles, notFetched⟩, later⟩ := settling
      obtain ⟨rfl, rfl⟩ := alike pass List.mem_cons_self
      have stays : (pass.run table).find event.id = some event := by
        rw [find_run_of_not_fetched notFetched]
        exact found
      have after := ih (pass.run table)
        (fun other member => alike other (List.mem_cons_of_mem pass member)) stays later
      have full : (pass.fetched table).length = pass.batchSize := by
        have size : (pass.fetched table).length =
            min pass.batchSize (table.rows.countP (EventTable.selected pass.maxRetries)) :=
          Table.length_query table _ _ _
        by_contra short
        have room : table.rows.countP (EventTable.selected pass.maxRetries) ≤ pass.batchSize := by
          omega
        have fetched : event ∈ pass.fetched table :=
          Table.mem_query_of_room (List.mem_of_find?_eq_some found) selects room
        exact notFetched (List.mem_map.mpr ⟨event, fetched, rfl⟩)
      have count : (pass.run table).rows.countP (EventTable.selected pass.maxRetries) +
          (pass.fetched table).length =
            table.rows.countP (EventTable.selected pass.maxRetries) := by
        apply count_settle_each pass.now pass.settlement (pass.fetched table) table
          (nodup_fetched pass table)
        · intro other member
          exact ⟨(fetched_selected member).1, (Table.of_mem_query member).2⟩
        · exact settles
      rw [List.length_cons, Nat.succ_mul]
      omega

end Pass

end HodeiJobs.Outbox
