import Mathlib.Data.List.Count
import HodeiJobs.Outbox.Events

/-!
# The poller of the outbox and its dead letter queue

`OutboxPoller::process_batch` with a `DlqHandler`, over `PostgresOutboxRepository`. Repository
calls succeed; payloads decode and events are published or not, as the run has it.
-/

namespace HodeiJobs.Outbox

open HodeiJobs.Library
open HodeiJobs.Sagas (Json Uuid DateTime)

variable {Event : Type}

/-! ## The dead letter queue -/

structure DlqHandlerConfig where
  maxRetries : Int
  logOnDlq : Bool

def AggregateType.toString : AggregateType → String
  | .job => "JOB"
  | .worker => "WORKER"
  | .provider => "PROVIDER"

structure DlqEntry where
  id : Uuid
  originalEventId : Uuid
  aggregateId : Uuid
  aggregateType : String
  eventType : String
  payload : Json
  metadata : Option Json
  errorMessage : String
  retryCount : Int
  originalCreatedAt : DateTime
  movedAt : DateTime
  resolvedAt : Option DateTime
  resolutionNotes : Option String
  resolvedBy : Option String

def DlqEntry.fromOutboxEvent (id : Uuid) (now : DateTime) (event : OutboxEventView)
    (errorMessage : String) : DlqEntry where
  id := id
  originalEventId := event.id
  aggregateId := event.aggregateId
  aggregateType := event.aggregateType.toString
  eventType := event.eventType
  payload := event.payload
  metadata := event.metadata
  errorMessage := errorMessage
  retryCount := event.retryCount
  originalCreatedAt := event.createdAt
  movedAt := now
  resolvedAt := none
  resolutionNotes := none
  resolvedBy := none

/-- `handle_failed_event`, with the id of the entry. -/
def DlqHandlerConfig.handleFailedEvent (config : DlqHandlerConfig) (id : Uuid) (now : DateTime)
    (event : OutboxEventView) (errorMessage : String) (dlq : List DlqEntry) : List DlqEntry :=
  if event.retryCount < config.maxRetries then dlq
  else dlq ++ [.fromOutboxEvent id now event errorMessage]

/-! ## The poller -/

structure OutboxPoller where
  dlqHandler : Option DlqHandlerConfig
  batchSize : Nat
  maxRetries : Int

/-- What a pass meets. -/
structure PollAnswers (Event : Type) where
  now : DateTime
  decode : Json → Except String Event
  publish : Uuid → Event → Option String
  entryId : Uuid → Uuid

/-- `publish_event`, with the text of its error. -/
def publishEvent (answers : PollAnswers Event) (event : OutboxEventView) : Except String Unit :=
  match answers.decode event.payload with
  | .error error =>
      .error ("Failed to serialize domain event: Failed to deserialize event " ++
        event.eventType ++ ": " ++ error)
  | .ok domainEvent =>
      match answers.publish event.id domainEvent with
      | some error => .error ("Infrastructure error: Failed to publish event: " ++ error)
      | none => .ok ()

/-- The tables, and the events published and failed so far, once for each attempt. -/
structure PollerRun where
  table : EventTable
  dlq : List DlqEntry
  published : List Uuid
  failed : List Uuid

namespace OutboxPoller

def fetched (poller : OutboxPoller) (table : EventTable) : List OutboxEventView :=
  table.getPendingEvents poller.batchSize poller.maxRetries

def publishedIds (answers : PollAnswers Event) (events : List OutboxEventView) : List Uuid :=
  (events.filter fun event => (publishEvent answers event).isOk).map OutboxEventView.id

/-- The failed events with their errors; `find` of an id in the batch gives the event back. -/
def failedEvents (answers : PollAnswers Event) (events : List OutboxEventView) :
    List (OutboxEventView × String) :=
  events.filterMap fun event =>
    match publishEvent answers event with
    | .ok () => none
    | .error error => some (event, error)

def handleFailed (poller : OutboxPoller) (answers : PollAnswers Event) (run : PollerRun)
    (failure : OutboxEventView × String) : PollerRun :=
  let (event, errorMessage) := failure
  if poller.maxRetries ≤ event.retryCount then
    match poller.dlqHandler with
    | some handler =>
        { run with
          dlq := handler.handleFailedEvent (answers.entryId event.id) answers.now event
            errorMessage run.dlq }
    | none => { run with table := run.table.markFailed event.id errorMessage }
  else { run with table := run.table.markFailed event.id errorMessage }

/-- `process_batch`. -/
def processBatch (poller : OutboxPoller) (answers : PollAnswers Event) (run : PollerRun) :
    PollerRun :=
  let events := poller.fetched run.table
  let published := publishedIds answers events
  let failed := failedEvents answers events
  let run :=
    { run with
      table := run.table.markPublished answers.now published
      published := run.published ++ published
      failed := run.failed ++ failed.map fun failure => failure.1.id }
  failed.foldl (poller.handleFailed answers) run

end OutboxPoller

/-! ## What a pass does -/

namespace OutboxPoller

section

variable (poller : OutboxPoller) (answers : PollAnswers Event)

theorem fetched_selected {poller : OutboxPoller} {table : EventTable} {event : OutboxEventView}
    (member : event ∈ poller.fetched table) :
    table.find event.id = some event ∧ event.status = .pending ∧
      event.retryCount < poller.maxRetries :=
  ⟨Table.find_of_mem_query member, of_decide_eq_true (Table.of_mem_query member).2⟩

theorem nodup_fetched (table : EventTable) :
    ((poller.fetched table).map OutboxEventView.id).Nodup :=
  Table.nodup_query table _ _ _

theorem failed_events_eq (events : List OutboxEventView) :
    (failedEvents answers events).map Prod.fst =
      events.filter fun event => !(publishEvent answers event).isOk := by
  induction events with
  | nil => rfl
  | cons event rest ih =>
      unfold failedEvents at ih ⊢
      rw [List.filterMap_cons, List.filter_cons]
      cases publishEvent answers event with
      | ok value => exact ih
      | error error => exact congrArg (List.cons event) ih

/-- What the poller makes of an event, by the outcome of its publication. -/
def settlement (event : OutboxEventView) : Settlement :=
  match publishEvent answers event with
  | .ok () => .published
  | .error error => .failed error

theorem settle_published (events : List OutboxEventView) (table : EventTable)
    (succeed : ∀ event ∈ events, (publishEvent answers event).isOk = true) :
    Pass.settleEach answers.now (settlement answers) events table =
      table.markPublished answers.now (events.map OutboxEventView.id) := by
  induction events generalizing table with
  | nil => rfl
  | cons event rest ih =>
      have publishes : settlement answers event = .published := by
        have succeeds := succeed event List.mem_cons_self
        unfold settlement
        cases result : publishEvent answers event with
        | ok value => rfl
        | error error => rw [result] at succeeds; cases succeeds
      have first : Pass.settleEach answers.now (settlement answers) (event :: rest) table =
          Pass.settleEach answers.now (settlement answers) rest
            (table.settle answers.now event.id (settlement answers event)) := rfl
      have succeedRest := fun other member => succeed other (List.mem_cons_of_mem event member)
      rw [first, publishes, ih _ succeedRest]
      rfl

/-- The poller hands no event to the dead letter queue: those that it fetches all have retries
left. -/
theorem handle_failed_events (events : List OutboxEventView) (run : PollerRun)
    (left : ∀ event ∈ events, event.retryCount < poller.maxRetries) :
    (failedEvents answers events).foldl (poller.handleFailed answers) run =
      { run with
        table := Pass.settleEach answers.now (settlement answers)
          (events.filter fun event => !(publishEvent answers event).isOk) run.table } := by
  induction events generalizing run with
  | nil => rfl
  | cons event rest ih =>
      have leftRest := fun other member => left other (List.mem_cons_of_mem event member)
      unfold failedEvents at ih ⊢
      rw [List.filterMap_cons, List.filter_cons]
      cases result : publishEvent answers event with
      | ok value => exact ih run leftRest
      | error error =>
          have retries := left event List.mem_cons_self
          have handled : poller.handleFailed answers run (event, error) =
              { run with table := run.table.markFailed event.id error } := by
            rw [handleFailed, if_neg (by omega)]
          have fails : settlement answers event = .failed error := by
            rw [settlement, result]
          have kept : (!(Except.error error : Except String Unit).isOk) = true := rfl
          dsimp only
          rw [List.foldl_cons, handled, ih _ leftRest]
          unfold Pass.settleEach
          rw [if_pos kept, List.foldl_cons, fails]
          rfl

/-- A pass marks the published events and fails the others. -/
theorem process_batch_eq (run : PollerRun) :
    poller.processBatch answers run =
      { table := Pass.settleEach answers.now (settlement answers)
          ((poller.fetched run.table).filter (fun event => (publishEvent answers event).isOk) ++
            (poller.fetched run.table).filter fun event => !(publishEvent answers event).isOk)
          run.table
        dlq := run.dlq
        published := run.published ++ publishedIds answers (poller.fetched run.table)
        failed := run.failed ++ ((poller.fetched run.table).filter fun event =>
          !(publishEvent answers event).isOk).map OutboxEventView.id } := by
  have succeed : ∀ event ∈ (poller.fetched run.table).filter fun event =>
      (publishEvent answers event).isOk, (publishEvent answers event).isOk = true :=
    fun event member => (List.mem_filter.mp member).2
  have appended : Pass.settleEach answers.now (settlement answers)
      ((poller.fetched run.table).filter (fun event => (publishEvent answers event).isOk) ++
        (poller.fetched run.table).filter fun event => !(publishEvent answers event).isOk)
      run.table =
    Pass.settleEach answers.now (settlement answers)
      ((poller.fetched run.table).filter fun event => !(publishEvent answers event).isOk)
      (Pass.settleEach answers.now (settlement answers)
        ((poller.fetched run.table).filter fun event => (publishEvent answers event).isOk)
        run.table) := List.foldl_append
  unfold processBatch
  dsimp only
  rw [handle_failed_events poller answers _ _ fun event member => (fetched_selected member).2.2,
    appended, settle_published answers _ _ succeed, ← failed_events_eq, List.map_map]
  rfl

/-- The two halves of a batch hold each fetched event once. -/
theorem perm_halves (events : List OutboxEventView) :
    List.Perm (events.filter (fun event => (publishEvent answers event).isOk) ++
      events.filter fun event => !(publishEvent answers event).isOk) events :=
  List.filter_append_perm _ events

theorem find_process_batch (run : PollerRun) :
    (∀ event ∈ poller.fetched run.table,
        (poller.processBatch answers run).table.find event.id =
          some ((settlement answers event).apply answers.now event)) ∧
      ∀ id, id ∉ (poller.fetched run.table).map OutboxEventView.id →
        (poller.processBatch answers run).table.find id = run.table.find id := by
  have perm := perm_halves answers (poller.fetched run.table)
  have distinct := (perm.map OutboxEventView.id).nodup_iff.mpr (nodup_fetched poller run.table)
  obtain ⟨settled, others⟩ :=
    Pass.find_settle_each answers.now (settlement answers) _ run.table distinct
  rw [process_batch_eq]
  constructor
  · intro event member
    have after := settled event (perm.symm.subset member)
    rw [(fetched_selected member).1] at after
    exact after
  · intro id absent
    exact others id fun member => absent ((perm.map OutboxEventView.id).subset member)

end

end OutboxPoller

/-! ## Passes of the poller -/

theorem EventTable.find_insert_event (table : EventTable) (id : Uuid) (now : DateTime)
    (event : OutboxEventInsert) (wanted : Uuid) :
    (table.insertEvent id now event).find wanted = table.find wanted ∨
      wanted = id ∧ table.accepts id event = true ∧ table.find id = none ∧
        (table.insertEvent id now event).find wanted = some (insertedEvent id now event) := by
  unfold insertEvent
  split
  · next accepts =>
      have fresh : table.find id = none :=
        Option.isNone_iff_eq_none.mp (Bool.and_eq_true_iff.mp accepts).1
      by_cases same : id = wanted
      · subst same
        exact .inr ⟨rfl, accepts, fresh, Table.find_upsert_self table (insertedEvent id now event)⟩
      · exact .inl (Table.find_upsert_other table (insertedEvent id now event) same)
  · exact .inl rfl

inductive PollMove (Event : Type) where
  | insert (id : Uuid) (now : DateTime) (event : OutboxEventInsert)
  | pass (answers : PollAnswers Event)

namespace PollerRun

def start : PollerRun where
  table := ⟨[], List.nodup_nil⟩
  dlq := []
  published := []
  failed := []

def step (poller : OutboxPoller) (run : PollerRun) : PollMove Event → PollerRun
  | .insert id now event => { run with table := run.table.insertEvent id now event }
  | .pass answers => poller.processBatch answers run

/-- A large enough batch returns the event. -/
def WillBeReturned (run : PollerRun) (maxRetries : Int) (id : Uuid) : Prop :=
  ∃ limit, id ∈ (run.table.getPendingEvents limit maxRetries).map OutboxEventView.id

def DeadLettered (run : PollerRun) (id : Uuid) : Prop :=
  ∃ entry ∈ run.dlq, entry.originalEventId = id

/-- No event is lost, and the dead letters are the events with `max_retries` failed attempts. -/
def Lossless (poller : OutboxPoller) (run : PollerRun) : Prop :=
  ∀ id, run.table.find id ≠ none →
    (id ∈ run.published ∨ run.WillBeReturned poller.maxRetries id ∨ run.DeadLettered id) ∧
      (run.DeadLettered id ↔ poller.maxRetries ≤ run.failed.count id)

/-- What the runs of the poller meet: an event has a retry left when it is stored, and no
attempt to publish one fails. -/
def Publishes (poller : OutboxPoller) (run : PollerRun) : PollMove Event → Prop
  | .insert id _ event => run.table.accepts id event = true → 0 < poller.maxRetries
  | .pass answers =>
      ∀ event ∈ poller.fetched run.table, (publishEvent answers event).isOk = true

/-- What every move keeps. -/
structure Counted (run : PollerRun) : Prop where
  noDeadLetters : run.dlq = []
  pending : ∀ id row, run.table.find id = some row → row.status = .pending →
    id ∉ run.published ∧ id ∉ run.failed
  stored : ∀ id, id ∈ run.published ∨ id ∈ run.failed → run.table.find id ≠ none

theorem start_counted : start.Counted where
  noDeadLetters := rfl
  pending _ _ found := nomatch found
  stored _ marked := by rcases marked with marked | marked <;> cases marked

variable {poller : OutboxPoller} {run : PollerRun}

theorem will_be_returned_iff {maxRetries : Int} {id : Uuid} {row : OutboxEventView}
    (found : run.table.find id = some row) :
    run.WillBeReturned maxRetries id ↔ EventTable.selected maxRetries row = true := by
  constructor
  · intro ⟨limit, returned⟩
    obtain ⟨event, member, same⟩ := List.mem_map.mp returned
    have isEvent : run.table.find event.id = some event := Table.find_of_mem_query member
    rw [same, found] at isEvent
    cases isEvent
    exact (Table.of_mem_query member).2
  · intro selects
    have stored := List.mem_of_find?_eq_some found
    exact ⟨_, List.mem_map.mpr
      ⟨row, Table.mem_query_of_room stored selects (Nat.le_refl _), Table.find_some_key found⟩⟩

/-- Without dead letters no event may fail for the last time. -/
theorem lossless_iff (counted : run.Counted) :
    run.Lossless poller ↔
      ∀ id row, run.table.find id = some row →
        (id ∈ run.published ∨ EventTable.selected poller.maxRetries row = true) ∧
          (run.failed.count id : Int) < poller.maxRetries := by
  have alive : ∀ id, ¬run.DeadLettered id := by
    intro id ⟨entry, member, _⟩
    rw [counted.noDeadLetters] at member
    cases member
  constructor
  · intro lossless id row found
    obtain ⟨kept, exactly⟩ := lossless id (by rw [found]; exact Option.some_ne_none row)
    refine ⟨?_, not_le.mp fun reached => alive id (exactly.mpr reached)⟩
    rcases kept with published | returned | dead
    · exact .inl published
    · exact .inr ((will_be_returned_iff found).mp returned)
    · exact absurd dead (alive id)
  · intro kept id stored
    obtain ⟨row, found⟩ := Option.ne_none_iff_exists'.mp stored
    obtain ⟨safe, retries⟩ := kept id row found
    refine ⟨?_, iff_of_false (alive id) (not_le.mpr retries)⟩
    rcases safe with published | selects
    · exact .inl published
    · exact .inr (.inl ((will_be_returned_iff found).mpr selects))

theorem counted_insert (counted : run.Counted) (id : Uuid) (now : DateTime)
    (event : OutboxEventInsert) :
    (run.step poller (.insert id now event : PollMove Event)).Counted := by
  have find := EventTable.find_insert_event run.table id now event
  constructor
  · exact counted.noDeadLetters
  · intro wanted row found pending
    rcases find wanted with same | ⟨isNew, -, fresh, -⟩
    · exact counted.pending wanted row (same.symm.trans found) pending
    · have unmarked : ¬(wanted ∈ run.published ∨ wanted ∈ run.failed) := by
        intro marked
        exact counted.stored wanted marked (isNew ▸ fresh)
      exact ⟨fun published => unmarked (.inl published), fun failed => unmarked (.inr failed)⟩
  · intro wanted marked
    have stored := counted.stored wanted marked
    rcases find wanted with same | ⟨isNew, -, fresh, -⟩
    · exact fun missing => stored (same.symm.trans missing)
    · exact absurd (isNew ▸ fresh) stored

section

variable (answers : PollAnswers Event)

/-- The ids that a pass counts, of the events published or of those failed, are fetched. -/
theorem fetched_of_counted {id : Uuid} {outcome : OutboxEventView → Bool}
    (member : id ∈ ((poller.fetched run.table).filter outcome).map OutboxEventView.id) :
    ∃ event ∈ poller.fetched run.table, event.id = id ∧ outcome event = true := by
  obtain ⟨event, filtered, same⟩ := List.mem_map.mp member
  obtain ⟨fetched, has⟩ := List.mem_filter.mp filtered
  exact ⟨event, fetched, same, has⟩

theorem counted_pass (counted : run.Counted) : (run.step poller (.pass answers)).Counted := by
  have eq := OutboxPoller.process_batch_eq poller answers run
  obtain ⟨settled, others⟩ := OutboxPoller.find_process_batch poller answers run
  constructor
  · rw [step, eq]
    exact counted.noDeadLetters
  · intro id row found pending
    rw [step] at found ⊢
    by_cases fetched : id ∈ (poller.fetched run.table).map OutboxEventView.id
    · obtain ⟨event, member, same⟩ := List.mem_map.mp fetched
      rw [← same, settled event member] at found
      cases Option.some.inj found
      unfold OutboxPoller.settlement at pending
      split at pending <;> cases pending
    · rw [others id fetched] at found
      obtain ⟨unpublished, unfailed⟩ := counted.pending id row found pending
      have uncounted : ∀ outcome : OutboxEventView → Bool,
          id ∉ ((poller.fetched run.table).filter outcome).map OutboxEventView.id := by
        intro outcome member
        obtain ⟨event, isFetched, same, -⟩ := fetched_of_counted member
        exact fetched (List.mem_map.mpr ⟨event, isFetched, same⟩)
      rw [eq]
      exact ⟨List.not_mem_append unpublished (uncounted _),
        List.not_mem_append unfailed (uncounted _)⟩
  · intro id marked
    rw [step] at marked ⊢
    by_cases fetched : id ∈ (poller.fetched run.table).map OutboxEventView.id
    · obtain ⟨event, member, same⟩ := List.mem_map.mp fetched
      rw [← same, settled event member]
      exact Option.some_ne_none _
    · rw [others id fetched]
      apply counted.stored id
      rw [eq] at marked
      have before : ∀ {ids : List Uuid} {outcome : OutboxEventView → Bool},
          id ∈ ids ++ ((poller.fetched run.table).filter outcome).map OutboxEventView.id →
            id ∈ ids := by
        intro ids outcome member
        refine (List.mem_append.mp member).resolve_right ?_
        intro added
        obtain ⟨event, isFetched, same, -⟩ := fetched_of_counted added
        exact fetched (List.mem_map.mpr ⟨event, isFetched, same⟩)
      exact marked.imp before before

/-- A pass keeps every event exactly if it publishes all that it fetches. -/
theorem lossless_pass (counted : run.Counted) (lossless : run.Lossless poller) :
    (run.step poller (.pass answers)).Lossless poller ↔ run.Publishes poller (.pass answers) := by
  rw [lossless_iff (counted_pass answers counted)]
  rw [lossless_iff counted] at lossless
  have eq := OutboxPoller.process_batch_eq poller answers run
  obtain ⟨settled, others⟩ := OutboxPoller.find_process_batch poller answers run
  constructor
  · intro kept event member
    obtain ⟨found, pending, -⟩ := OutboxPoller.fetched_selected member
    obtain ⟨unpublished, -⟩ := counted.pending event.id event found pending
    rcases (kept event.id _ (settled event member)).1 with published | selects
    · rw [step, eq] at published
      have added := (List.mem_append.mp published).resolve_left unpublished
      obtain ⟨other, isFetched, same, succeeds⟩ := fetched_of_counted added
      have one := List.inj_on_of_nodup_map (OutboxPoller.nodup_fetched poller run.table)
        isFetched member same
      rw [← one]
      exact succeeds
    · have waits := (of_decide_eq_true selects).1
      unfold OutboxPoller.settlement at waits
      split at waits <;> cases waits
  · intro publishes id row found
    have noFailure : ((poller.fetched run.table).filter fun event =>
        !(publishEvent answers event).isOk) = [] := by
      rw [List.filter_eq_nil_iff]
      intro event member
      rw [publishes event member]
      exact Bool.false_ne_true
    rw [step] at found ⊢
    have failed : (poller.processBatch answers run).failed = run.failed := by
      rw [eq, noFailure]
      exact List.append_nil run.failed
    have published : (poller.processBatch answers run).published =
        run.published ++ OutboxPoller.publishedIds answers (poller.fetched run.table) := by
      rw [eq]
    rw [failed, published]
    by_cases fetched : id ∈ (poller.fetched run.table).map OutboxEventView.id
    · obtain ⟨event, member, same⟩ := List.mem_map.mp fetched
      subst same
      obtain ⟨isEvent, -⟩ := OutboxPoller.fetched_selected member
      have now : event.id ∈ OutboxPoller.publishedIds answers (poller.fetched run.table) :=
        List.mem_map.mpr ⟨event, List.mem_filter.mpr ⟨member, publishes event member⟩, rfl⟩
      exact ⟨.inl (List.mem_append_right _ now), (lossless event.id event isEvent).2⟩
    · rw [others id fetched] at found
      obtain ⟨safe, retries⟩ := lossless id row found
      exact ⟨safe.imp (List.mem_append_left _) fun selects => selects, retries⟩

end

/-- A stored event is kept exactly if it may be published at all. -/
theorem lossless_insert (counted : run.Counted) (lossless : run.Lossless poller) (id : Uuid)
    (now : DateTime) (event : OutboxEventInsert) :
    (run.step poller (.insert id now event : PollMove Event)).Lossless poller ↔
      run.Publishes poller (.insert id now event : PollMove Event) := by
  rw [lossless_iff (counted_insert counted id now event)]
  rw [lossless_iff counted] at lossless
  have find := EventTable.find_insert_event run.table id now event
  have unfailed : run.table.find id = none → run.failed.count id = 0 := by
    intro fresh
    exact List.count_eq_zero_of_not_mem fun failed => counted.stored id (.inr failed) fresh
  constructor
  · intro kept accepts
    have fresh : run.table.find id = none :=
      Option.isNone_iff_eq_none.mp (Bool.and_eq_true_iff.mp accepts).1
    have added : (run.table.insertEvent id now event).find id =
        some (EventTable.insertedEvent id now event) := by
      rw [EventTable.insertEvent, if_pos accepts]
      exact Table.find_upsert_self run.table (EventTable.insertedEvent id now event)
    have retries : (run.failed.count id : Int) < poller.maxRetries := (kept id _ added).2
    rw [unfailed fresh] at retries
    exact retries
  · intro publishes wanted row found
    rcases find wanted with same | ⟨isNew, accepts, fresh, added⟩
    · exact lossless wanted row (same.symm.trans found)
    · subst isNew
      cases Option.some.inj (added.symm.trans found)
      have positive := publishes accepts
      refine ⟨.inr (decide_eq_true ⟨rfl, positive⟩), ?_⟩
      change (run.failed.count wanted : Int) < poller.maxRetries
      rw [unfailed fresh]
      exact positive

/-- No event is lost in exactly the runs in which events are stored with retries left and no
attempt to publish one fails. -/
theorem lossless_iff_publishes (poller : OutboxPoller) (moves : List (PollMove Event)) :
    Always (step poller) (Lossless poller) start moves ↔
      EachMove (step poller) (Publishes poller) start moves := by
  apply always_iff_each_move_within (step poller) Counted (Lossless poller)
  · intro run move counted
    cases move with
    | insert id now event => exact counted_insert counted id now event
    | pass answers => exact counted_pass answers counted
  · intro run move counted lossless
    cases move with
    | insert id now event => exact lossless_insert counted lossless id now event
    | pass answers => exact lossless_pass answers counted lossless
  · exact start_counted
  · intro id stored
    exact absurd rfl stored

/-- Whatever fails, the dead letter queue stays empty. -/
theorem never_dead_lettered (poller : OutboxPoller) (moves : List (PollMove Event)) :
    Always (step poller) (fun run => run.dlq = []) start moves := by
  apply always_imp (step poller) fun _ => Counted.noDeadLetters
  apply always_of_preserved (step poller) Counted _ moves start start_counted
  intro run move counted
  cases move with
  | insert id now event => exact counted_insert counted id now event
  | pass answers => exact counted_pass answers counted

def fiveRetries : OutboxPoller where
  dlqHandler := some { maxRetries := 5, logOnDlq := true }
  batchSize := 100
  maxRetries := 5

/-- One event, and one pass in which the bus refuses it. -/
def refusedOnce : List (PollMove Unit) :=
  [.insert 1 0 ⟨7, .job, "JobCreated", .null, none, none⟩,
    .pass ⟨1, fun _ => .ok (), fun _ _ => some "bus unavailable", fun id => id + 100⟩]

theorem refused_once_lost :
    ¬Always (step fiveRetries) (Lossless fiveRetries) start refusedOnce := by
  intro always
  have counted : (refusedOnce.foldl (step fiveRetries) start).Counted :=
    counted_pass _ (counted_insert start_counted 1 0 ⟨7, .job, "JobCreated", .null, none, none⟩)
  have lossless := always_final (step fiveRetries) refusedOnce start always
  rw [lossless_iff counted] at lossless
  obtain ⟨published | selects, -⟩ := lossless 1
    (EventTable.failedEvent
      "Infrastructure error: Failed to publish event: bus unavailable"
      (EventTable.insertedEvent 1 0 ⟨7, .job, "JobCreated", .null, none, none⟩))
    rfl
  · exact absurd published (by decide)
  · exact absurd selects (by decide)

end PollerRun

end HodeiJobs.Outbox
