import HodeiJobs.Jobs.JobSpec
import HodeiJobs.Messaging.Deduplication
import HodeiJobs.Outbox.Emission
import HodeiJobs.Outbox.ReadBack

/-!
# What the hasher sees of an event

`EventHasher::hash` feeds sixteen variants field by field, and every other one as its `{:?}`
text. The texts are parameters without laws: that of a command is all a specification shows.
-/

namespace HodeiJobs.Messaging

open HodeiJobs.Library
open HodeiJobs.Commands (zerosText)
open HodeiJobs.Dispatch (ProviderId)
open HodeiJobs.Execution (JobId UuidText WorkerId)
open HodeiJobs.Jobs (CommandType)
open HodeiJobs.Outbox (DomainEvent FieldTypes TerminationReason textTypes timestamp)
open HodeiJobs.Sagas (Uuid)
open HodeiJobs.Shared (JobState WorkerState)

/-! ## The hasher -/

/-- A value that is fed to the hasher. -/
inductive Fed where
  | str (text : String)
  | i64 (value : Int)
  | u32 (value : UInt32)
  | bool (value : Bool)
  deriving DecidableEq

/-- The command of a specification, and texts of ids and of values under `{:?}`. -/
structure EventTexts (types : FieldTypes) where
  uuids : UuidText
  command : types.JobSpec → CommandType
  terminationReason : TerminationReason → String
  jobFailureReason : types.JobFailureReason → String
  event : DomainEvent types → String

variable {types : FieldTypes}

namespace EventHasher

/-- The two values that are fed for a command. -/
def hashCommand : CommandType → List Fed
  | .shell cmd args => [.str cmd, .str (" ".intercalate args)]
  | .script interpreter content => [.str interpreter, .str content]

def hash (texts : EventTexts types) (event : DomainEvent types) : List Fed :=
  let id := texts.uuids.display
  match event.details with
  | .jobCreated jobId spec =>
      [.str "JobCreated", .str (id jobId.uuid)] ++ hashCommand (texts.command spec) ++
        [.i64 (timestamp event.occurredAt)]
  | .jobStatusChanged jobId _ newState =>
      [.str "JobStatusChanged", .str (id jobId.uuid), .str newState.debug,
        .i64 (timestamp event.occurredAt)]
  | .jobCancelled jobId _ =>
      [.str "JobCancelled", .str (id jobId.uuid), .i64 (timestamp event.occurredAt)]
  | .jobRetried jobId attempt _ => [.str "JobRetried", .str (id jobId.uuid), .u32 attempt]
  | .jobQueued jobId preferredProvider _ =>
      [.str "JobQueued", .str (id jobId.uuid), .bool preferredProvider.isSome]
  | .jobAssigned jobId workerId =>
      [.str "JobAssigned", .str (id jobId.uuid), .str (id workerId.uuid)]
  | .workerRegistered workerId providerId =>
      [.str "WorkerRegistered", .str (id workerId.uuid), .str (id providerId.uuid)]
  | .workerTerminated workerId _ reason =>
      [.str "WorkerTerminated", .str (id workerId.uuid), .str (texts.terminationReason reason)]
  | .workerReady workerId _ => [.str "WorkerReady", .str (id workerId.uuid)]
  | .workerStatusChanged workerId _ newStatus =>
      [.str "WorkerStatusChanged", .str (id workerId.uuid), .str newStatus.debug]
  | .jobAccepted jobId workerId =>
      [.str "JobAccepted", .str (id jobId.uuid), .str (id workerId.uuid)]
  | .jobExecutionError jobId _ failureReason _ _ _ _ _ _ =>
      [.str "JobExecutionError", .str (id jobId.uuid),
        .str (texts.jobFailureReason failureReason)]
  | .jobDispatchAcknowledged jobId workerId =>
      [.str "JobDispatchAcknowledged", .str (id jobId.uuid), .str (id workerId.uuid)]
  | .runJobReceived jobId workerId =>
      [.str "RunJobReceived", .str (id jobId.uuid), .str (id workerId.uuid)]
  | .workerDisconnected workerId _ => [.str "WorkerDisconnected", .str (id workerId.uuid)]
  | .workerProvisioned workerId providerId _ =>
      [.str "WorkerProvisioned", .str (id workerId.uuid), .str (id providerId.uuid)]
  | _ => [.str (texts.event event)]

end EventHasher

/-- The hash of an event, over what the hasher makes of the sequence. -/
def EventDeduplicator.hashEvent (texts : EventTexts types) (finish : List Fed → UInt64)
    (event : DomainEvent types) : UInt64 := finish (EventHasher.hash texts event)

/-! ## The content of an event -/

/-- The fields of an event that the hasher distinguishes. -/
inductive HashedContent where
  | jobCreated (jobId : JobId) (program arguments : String) (seconds : Int)
  | jobStatusChanged (jobId : JobId) (newState : JobState) (seconds : Int)
  | jobCancelled (jobId : JobId) (seconds : Int)
  | jobRetried (jobId : JobId) (attempt : UInt32)
  | jobQueued (jobId : JobId) (preferred : Bool)
  | jobAssigned (jobId : JobId) (workerId : WorkerId)
  | workerRegistered (workerId : WorkerId) (providerId : ProviderId)
  | workerTerminated (workerId : WorkerId) (reason : String)
  | workerReady (workerId : WorkerId)
  | workerStatusChanged (workerId : WorkerId) (newStatus : WorkerState)
  | jobAccepted (jobId : JobId) (workerId : WorkerId)
  | jobExecutionError (jobId : JobId) (failureReason : String)
  | jobDispatchAcknowledged (jobId : JobId) (workerId : WorkerId)
  | runJobReceived (jobId : JobId) (workerId : WorkerId)
  | workerDisconnected (workerId : WorkerId)
  | workerProvisioned (workerId : WorkerId) (providerId : ProviderId)
  | other (text : String)
  deriving DecidableEq

namespace HashedContent

/-- A shell command and a script look alike: two texts, the arguments joined with blanks. -/
def commandTexts : CommandType → String × String
  | .shell cmd args => (cmd, " ".intercalate args)
  | .script interpreter content => (interpreter, content)

def ofEvent (texts : EventTexts types) (event : DomainEvent types) : HashedContent :=
  match event.details with
  | .jobCreated jobId spec =>
      let (program, arguments) := commandTexts (texts.command spec)
      .jobCreated jobId program arguments (timestamp event.occurredAt)
  | .jobStatusChanged jobId _ newState =>
      .jobStatusChanged jobId newState (timestamp event.occurredAt)
  | .jobCancelled jobId _ => .jobCancelled jobId (timestamp event.occurredAt)
  | .jobRetried jobId attempt _ => .jobRetried jobId attempt
  | .jobQueued jobId preferredProvider _ => .jobQueued jobId preferredProvider.isSome
  | .jobAssigned jobId workerId => .jobAssigned jobId workerId
  | .workerRegistered workerId providerId => .workerRegistered workerId providerId
  | .workerTerminated workerId _ reason =>
      .workerTerminated workerId (texts.terminationReason reason)
  | .workerReady workerId _ => .workerReady workerId
  | .workerStatusChanged workerId _ newStatus => .workerStatusChanged workerId newStatus
  | .jobAccepted jobId workerId => .jobAccepted jobId workerId
  | .jobExecutionError jobId _ failureReason _ _ _ _ _ _ =>
      .jobExecutionError jobId (texts.jobFailureReason failureReason)
  | .jobDispatchAcknowledged jobId workerId => .jobDispatchAcknowledged jobId workerId
  | .runJobReceived jobId workerId => .runJobReceived jobId workerId
  | .workerDisconnected workerId _ => .workerDisconnected workerId
  | .workerProvisioned workerId providerId _ => .workerProvisioned workerId providerId
  | _ => .other (texts.event event)

/-- The values that are fed for a content. -/
def toFed (uuids : UuidText) : HashedContent → List Fed
  | .jobCreated jobId program arguments seconds =>
      [.str "JobCreated", .str (uuids.display jobId.uuid), .str program, .str arguments,
        .i64 seconds]
  | .jobStatusChanged jobId newState seconds =>
      [.str "JobStatusChanged", .str (uuids.display jobId.uuid), .str newState.debug, .i64 seconds]
  | .jobCancelled jobId seconds =>
      [.str "JobCancelled", .str (uuids.display jobId.uuid), .i64 seconds]
  | .jobRetried jobId attempt =>
      [.str "JobRetried", .str (uuids.display jobId.uuid), .u32 attempt]
  | .jobQueued jobId preferred =>
      [.str "JobQueued", .str (uuids.display jobId.uuid), .bool preferred]
  | .jobAssigned jobId workerId =>
      [.str "JobAssigned", .str (uuids.display jobId.uuid), .str (uuids.display workerId.uuid)]
  | .workerRegistered workerId providerId =>
      [.str "WorkerRegistered", .str (uuids.display workerId.uuid),
        .str (uuids.display providerId.uuid)]
  | .workerTerminated workerId reason =>
      [.str "WorkerTerminated", .str (uuids.display workerId.uuid), .str reason]
  | .workerReady workerId => [.str "WorkerReady", .str (uuids.display workerId.uuid)]
  | .workerStatusChanged workerId newStatus =>
      [.str "WorkerStatusChanged", .str (uuids.display workerId.uuid), .str newStatus.debug]
  | .jobAccepted jobId workerId =>
      [.str "JobAccepted", .str (uuids.display jobId.uuid), .str (uuids.display workerId.uuid)]
  | .jobExecutionError jobId failureReason =>
      [.str "JobExecutionError", .str (uuids.display jobId.uuid), .str failureReason]
  | .jobDispatchAcknowledged jobId workerId =>
      [.str "JobDispatchAcknowledged", .str (uuids.display jobId.uuid),
        .str (uuids.display workerId.uuid)]
  | .runJobReceived jobId workerId =>
      [.str "RunJobReceived", .str (uuids.display jobId.uuid), .str (uuids.display workerId.uuid)]
  | .workerDisconnected workerId =>
      [.str "WorkerDisconnected", .str (uuids.display workerId.uuid)]
  | .workerProvisioned workerId providerId =>
      [.str "WorkerProvisioned", .str (uuids.display workerId.uuid),
        .str (uuids.display providerId.uuid)]
  | .other text => [.str text]

/-- The content that the fed values stand for. -/
def ofFed (uuids : UuidText) : List Fed → Option HashedContent
  | [.str text] => some (.other text)
  | .str "JobCreated" :: .str jobId :: .str program :: .str arguments :: [.i64 seconds] => do
      return .jobCreated ⟨← uuids.parse jobId⟩ program arguments seconds
  | .str "JobStatusChanged" :: .str jobId :: .str newState :: [.i64 seconds] => do
      return .jobStatusChanged ⟨← uuids.parse jobId⟩
        (← Outbox.jobState.fromValue (.string newState)) seconds
  | .str "JobCancelled" :: .str jobId :: [.i64 seconds] => do
      return .jobCancelled ⟨← uuids.parse jobId⟩ seconds
  | .str "JobRetried" :: .str jobId :: [.u32 attempt] => do
      return .jobRetried ⟨← uuids.parse jobId⟩ attempt
  | .str "JobQueued" :: .str jobId :: [.bool preferred] => do
      return .jobQueued ⟨← uuids.parse jobId⟩ preferred
  | .str "WorkerReady" :: [.str workerId] => do return .workerReady ⟨← uuids.parse workerId⟩
  | .str "WorkerDisconnected" :: [.str workerId] => do
      return .workerDisconnected ⟨← uuids.parse workerId⟩
  | .str "JobAssigned" :: .str jobId :: [.str workerId] => do
      return .jobAssigned ⟨← uuids.parse jobId⟩ ⟨← uuids.parse workerId⟩
  | .str "WorkerRegistered" :: .str workerId :: [.str providerId] => do
      return .workerRegistered ⟨← uuids.parse workerId⟩ ⟨← uuids.parse providerId⟩
  | .str "WorkerTerminated" :: .str workerId :: [.str reason] => do
      return .workerTerminated ⟨← uuids.parse workerId⟩ reason
  | .str "WorkerStatusChanged" :: .str workerId :: [.str newStatus] => do
      return .workerStatusChanged ⟨← uuids.parse workerId⟩
        (← Outbox.workerState.fromValue (.string newStatus))
  | .str "JobAccepted" :: .str jobId :: [.str workerId] => do
      return .jobAccepted ⟨← uuids.parse jobId⟩ ⟨← uuids.parse workerId⟩
  | .str "JobExecutionError" :: .str jobId :: [.str failureReason] => do
      return .jobExecutionError ⟨← uuids.parse jobId⟩ failureReason
  | .str "JobDispatchAcknowledged" :: .str jobId :: [.str workerId] => do
      return .jobDispatchAcknowledged ⟨← uuids.parse jobId⟩ ⟨← uuids.parse workerId⟩
  | .str "RunJobReceived" :: .str jobId :: [.str workerId] => do
      return .runJobReceived ⟨← uuids.parse jobId⟩ ⟨← uuids.parse workerId⟩
  | .str "WorkerProvisioned" :: .str workerId :: [.str providerId] => do
      return .workerProvisioned ⟨← uuids.parse workerId⟩ ⟨← uuids.parse providerId⟩
  | _ => none

theorem of_fed_to_fed (uuids : UuidText) (content : HashedContent) :
    ofFed uuids (content.toFed uuids) = some content := by
  have parsed := uuids.parse_display
  have jobState : ∀ state, Outbox.jobState.fromValue (.string (JobState.debug state)) = some state :=
    Outbox.jobState.from_to_value
  have workerState : ∀ state,
      Outbox.workerState.fromValue (.string (WorkerState.debug state)) = some state :=
    Outbox.workerState.from_to_value
  cases content <;> simp [toFed, ofFed, parsed, jobState, workerState]

theorem hash_eq_to_fed (texts : EventTexts types) (event : DomainEvent types) :
    EventHasher.hash texts event = (ofEvent texts event).toFed texts.uuids := by
  obtain ⟨details, occurredAt, correlationId, actor, agentless⟩ := event
  cases details with
  | jobCreated jobId spec =>
      cases command : texts.command spec <;>
        simp [EventHasher.hash, EventHasher.hashCommand, ofEvent, commandTexts, toFed, command]
  | _ => rfl

/-- The hasher tells two events apart exactly if their contents differ. -/
theorem hash_eq_iff (texts : EventTexts types) (one other : DomainEvent types) :
    EventHasher.hash texts one = EventHasher.hash texts other ↔
      ofEvent texts one = ofEvent texts other := by
  rw [hash_eq_to_fed, hash_eq_to_fed]
  constructor
  · intro same
    have read := congrArg (ofFed texts.uuids) same
    simpa [of_fed_to_fed] using read
  · intro same
    rw [same]

end HashedContent

/-! ## What becomes of the entries -/

namespace DeduplicationCache

/-- The entries are among those of an earlier cache, with their times. -/
def Keeps (after before : DeduplicationCache) : Prop :=
  ∀ key row, after.entries.find key = some row →
    ∃ old, before.entries.find key = some old ∧ row.2.expiresAt = old.2.expiresAt

theorem keeps_trans {last middle first : DeduplicationCache} (later : last.Keeps middle)
    (earlier : middle.Keeps first) : last.Keeps first := by
  intro key row found
  obtain ⟨kept, foundKept, sameTime⟩ := later key row found
  obtain ⟨old, foundOld, time⟩ := earlier key kept foundKept
  exact ⟨old, foundOld, sameTime.trans time⟩

theorem keeps_remove_expired (cache : DeduplicationCache) (now : Int) :
    (cache.removeExpired now).Keeps cache := by
  intro key row found
  rw [find_remove_expired] at found
  exact ⟨row, (Option.filter_eq_some_iff.mp found).1, rfl⟩

theorem keeps_accessed (cache : DeduplicationCache) (key : UInt64) :
    (cache.accessed key).Keeps cache := by
  intro other row found
  rw [(accessed_kept cache key).1] at found
  exact ⟨row, found, rfl⟩

theorem keeps_get_mut (cache : DeduplicationCache) (key : UInt64)
    {change : DeduplicationEntry → DeduplicationEntry}
    (sameTime : ∀ entry, (change entry).expiresAt = entry.expiresAt) :
    (cache.getMut key change).Keeps cache := by
  apply keeps_trans _ (keeps_accessed cache key)
  intro other row found
  unfold getMut at found
  rw [Table.find_update] at found
  split_ifs at found
  · obtain ⟨old, foundOld, changed⟩ := Option.map_eq_some_iff.mp found
    exact ⟨old, foundOld, by rw [← changed, sameTime]⟩
  · exact ⟨row, found, rfl⟩

theorem keeps_evict (cache : DeduplicationCache) : cache.evict.Keeps cache := by
  intro key row found
  cases evicts : cache.oldestKey with
  | none =>
      rw [evict_of_none evicts] at found
      exact ⟨row, found, rfl⟩
  | some oldest =>
      rw [evict_of_some evicts, remove, Table.find_delete] at found
      split_ifs at found
      exact ⟨row, found, rfl⟩

theorem find_insert {cache : DeduplicationCache} {key other : UInt64} {entry : DeduplicationEntry}
    {row : UInt64 × DeduplicationEntry}
    (found : (cache.insert key entry).entries.find other = some row) :
    (other = key ∧ row.2 = entry) ∨
      ∃ old, cache.entries.find other = some old ∧ row.2.expiresAt = old.2.expiresAt := by
  by_cases same : key = other
  · subst same
    have inserted := Table.find_upsert_self cache.evict.entries (key, entry)
    cases found.symm.trans inserted
    exact .inl ⟨rfl, rfl⟩
  · have kept := Table.find_upsert_other cache.evict.entries (key, entry) same
    exact .inr (keeps_evict cache other row (kept.symm.trans found))

end DeduplicationCache

/-- The clock read with which the entry of a check is made. -/
def ClockReads.last (reads : ClockReads) : DeduplicationResult → Int
  | .expired => reads.third
  | .new | .duplicate => reads.second

namespace EventDeduplicator

variable {service : EventDeduplicator} {eventHash : UInt64} {reads : ClockReads}

theorem check_config (service : EventDeduplicator) (eventHash : UInt64) (reads : ClockReads) :
    (service.check eventHash reads).1.config = service.config := by
  unfold check
  split
  · rfl
  · dsimp only
    split
    · split <;> rfl
    · rfl

theorem keeps_found (service : EventDeduplicator) (eventHash : UInt64) (reads : ClockReads) :
    ((service.swept reads).accessed eventHash).Keeps service.cache :=
  DeduplicationCache.keeps_trans (DeduplicationCache.keeps_accessed _ eventHash)
    (DeduplicationCache.keeps_remove_expired service.cache reads.expiry)

/-- Only an entry that has not expired makes an event a duplicate. -/
theorem found_of_duplicate (answer : (service.check eventHash reads).2 = .duplicate) :
    ∃ row, service.cache.entries.find eventHash = some row ∧
      reads.second ≤ row.2.expiresAt := by
  cases on : service.config.enabled with
  | false => simp [check, on] at answer
  | true =>
      cases found : (service.swept reads).entries.find eventHash with
      | none =>
          unfold swept at found
          simp [check, on, DeduplicationCache.get, found] at answer
      | some row =>
          have stored := DeduplicationCache.keeps_remove_expired service.cache reads.expiry
            eventHash row found
          unfold swept at found
          by_cases past : row.2.expiresAt < reads.second
          · simp [check, on, DeduplicationCache.get, found, DeduplicationEntry.isExpired, past]
              at answer
          · obtain ⟨old, foundOld, sameTime⟩ := stored
            exact ⟨old, foundOld, by omega⟩

/-- An entry was there before the check, or the check has made it. -/
theorem entry_of_check {hash : UInt64} {row : UInt64 × DeduplicationEntry}
    (found : (service.check eventHash reads).1.cache.entries.find hash = some row) :
    (∃ old, service.cache.entries.find hash = some old ∧
        row.2.expiresAt = old.2.expiresAt) ∨
      (hash = eventHash ∧
        row.2.expiresAt = reads.last (service.check eventHash reads).2 +
          windowOf service.config.windowDuration) := by
  have keeps := keeps_found service eventHash reads
  have inserted : ∀ time,
      (((service.swept reads).accessed eventHash).insert eventHash
        (.new eventHash (windowOf service.config.windowDuration) time)).entries.find hash =
          some row →
      (∃ old, service.cache.entries.find hash = some old ∧
          row.2.expiresAt = old.2.expiresAt) ∨
        (hash = eventHash ∧
          row.2.expiresAt = time + windowOf service.config.windowDuration) := by
    intro time found
    rcases DeduplicationCache.find_insert found with ⟨own, made⟩ | ⟨old, kept, sameTime⟩
    · exact .inr ⟨own, by rw [made]; rfl⟩
    · obtain ⟨first, foundFirst, firstTime⟩ := keeps hash old kept
      exact .inl ⟨first, foundFirst, sameTime.trans firstTime⟩
  cases on : service.config.enabled with
  | false =>
      simp only [check, on] at found
      exact .inl ⟨row, found, rfl⟩
  | true =>
      cases sought : (service.cache.removeExpired reads.expiry).entries.find eventHash with
      | none =>
          simp only [check, on, DeduplicationCache.get, sought] at found ⊢
          exact inserted reads.second found
      | some entry =>
          by_cases past : entry.2.expiresAt < reads.second
          · simp only [check, on, DeduplicationCache.get, sought, DeduplicationEntry.isExpired,
              past, Option.map_some] at found ⊢
            exact inserted reads.third found
          · simp only [check, on, DeduplicationCache.get, sought, DeduplicationEntry.isExpired,
              past, Option.map_some, Bool.not_true, Bool.false_eq_true, decide_false, if_false]
              at found
            apply Or.inl
            apply DeduplicationCache.keeps_trans _ keeps hash row found
            apply DeduplicationCache.keeps_get_mut
            intro counted
            rfl

end EventDeduplicator

/-! ## Runs of checks -/

/-- A check that was made, and the last time at which it read the clock. -/
structure PastCheck (Event : Type) where
  event : Event
  checkedAt : Int

structure CheckRun (Event : Type) where
  service : EventDeduplicator
  checks : List (PastCheck Event)

namespace CheckRun

variable {Event : Type} (hashEvent : Event → UInt64)

def start (config : EventDeduplicationConfig) : CheckRun Event := ⟨.withConfig (some config), []⟩

def step (run : CheckRun Event) : DeduplicationMove Event → CheckRun Event
  | .check event reads =>
      let (service, result) := run.service.check (hashEvent event) reads
      ⟨service, run.checks ++ [⟨event, reads.last result⟩]⟩
  | .clear => { run with service := run.service.clear }

/-- A check of an event that satisfies a condition was made within the window. -/
def Checked (run : CheckRun Event) (condition : Event → Prop) (now : Int) : Prop :=
  ∃ past ∈ run.checks, condition past.event ∧
    now ≤ past.checkedAt + windowOf run.service.config.windowDuration

/-- A duplicate repeats an event that was checked within the window. -/
def RepeatsEvent (run : CheckRun Event) : DeduplicationMove Event → Prop
  | .check event reads =>
      (run.service.check (hashEvent event) reads).2 = .duplicate →
        run.Checked (fun past => past = event) reads.second
  | .clear => True

/-- Every entry was made by a check of an event with its hash. -/
structure Remembers (run : CheckRun Event) : Prop where
  made : ∀ hash row, run.service.cache.entries.find hash = some row →
    ∃ past ∈ run.checks, hashEvent past.event = hash ∧
      row.2.expiresAt = past.checkedAt + windowOf run.service.config.windowDuration

variable {hashEvent} {run : CheckRun Event}

theorem remembers_step (remembers : run.Remembers hashEvent) (move : DeduplicationMove Event) :
    (run.step hashEvent move).Remembers hashEvent := by
  constructor
  intro hash row found
  cases move with
  | clear => cases found
  | check event reads =>
      simp only [step, EventDeduplicator.check_config, List.mem_append, List.mem_singleton]
      rcases EventDeduplicator.entry_of_check found with ⟨old, stored, sameTime⟩ | ⟨own, time⟩
      · obtain ⟨past, isCheck, sameHash, pastTime⟩ := remembers.made hash old stored
        exact ⟨past, .inl isCheck, sameHash, sameTime.trans pastTime⟩
      · exact ⟨_, .inr rfl, own.symm, time⟩

/-- A duplicate has the hash of an event that was checked within the window. -/
theorem checked_of_duplicate (remembers : run.Remembers hashEvent) {event : Event}
    {reads : ClockReads}
    (answer : (run.service.check (hashEvent event) reads).2 = .duplicate) :
    run.Checked (fun past => hashEvent past = hashEvent event) reads.second := by
  obtain ⟨row, found, alive⟩ := EventDeduplicator.found_of_duplicate answer
  obtain ⟨past, isCheck, sameHash, time⟩ := remembers.made (hashEvent event) row found
  exact ⟨past, isCheck, sameHash, by omega⟩

/-- The events that a run checks. -/
def checkedEvents (moves : List (DeduplicationMove Event)) : List Event :=
  moves.filterMap fun
    | .check event _ => some event
    | .clear => none

/-- When different events of a set have different hashes, duplicates among them repeat. -/
theorem repeats_of_distinct {events : Set Event}
    (distinct : ∀ one ∈ events, ∀ other ∈ events, hashEvent one = hashEvent other → one = other)
    (moves : List (DeduplicationMove Event)) (run : CheckRun Event)
    (remembers : run.Remembers hashEvent) (before : ∀ past ∈ run.checks, past.event ∈ events)
    (later : ∀ event ∈ checkedEvents moves, event ∈ events) :
    EachMove (step hashEvent) (RepeatsEvent hashEvent) run moves := by
  induction moves generalizing run with
  | nil => trivial
  | cons move rest ih =>
      have next := remembers_step remembers move
      cases move with
      | clear => exact ⟨trivial, ih _ next before later⟩
      | check event reads =>
          simp only [checkedEvents, List.filterMap_cons, List.forall_mem_cons] at later
          obtain ⟨member, others⟩ := later
          constructor
          · intro answer
            obtain ⟨past, isCheck, sameHash, time⟩ := checked_of_duplicate remembers answer
            exact ⟨past, isCheck, distinct past.event (before past isCheck) event member sameHash,
              time⟩
          · apply ih _ next _ others
            intro past isCheck
            rcases List.mem_append.mp isCheck with earlier | last
            · exact before past earlier
            · rw [List.mem_singleton.mp last]
              exact member

/-- The hasher keeps apart the sequences that a run feeds it. -/
def Separates (texts : EventTexts types) (finish : List Fed → UInt64)
    (moves : List (DeduplicationMove (DomainEvent types))) : Prop :=
  ∀ one ∈ checkedEvents moves, ∀ other ∈ checkedEvents moves,
    finish (EventHasher.hash texts one) = finish (EventHasher.hash texts other) →
      EventHasher.hash texts one = EventHasher.hash texts other

/-- Duplicates repeat events in all runs over a set of events exactly if no two different
events of the set agree in all that the hasher is fed. -/
theorem duplicates_repeat_iff_contents_differ (texts : EventTexts types)
    (events : Set (DomainEvent types)) :
    (∀ config finish moves, (∀ event ∈ checkedEvents moves, event ∈ events) →
      Separates texts finish moves →
        EachMove (step (EventDeduplicator.hashEvent texts finish))
          (RepeatsEvent (EventDeduplicator.hashEvent texts finish)) (start config) moves) ↔
      ∀ one ∈ events, ∀ other ∈ events,
        HashedContent.ofEvent texts one = HashedContent.ofEvent texts other → one = other := by
  constructor
  · intro repeats one isOne other isOther sameContent
    have sameHash := (HashedContent.hash_eq_iff texts one other).mpr sameContent
    have each := repeats .default (fun _ => 0) [.check one ⟨0, 0, 0⟩, .check other ⟨0, 0, 0⟩]
      (by simp [checkedEvents, isOne, isOther]) (by simp [checkedEvents, Separates, sameHash])
    obtain ⟨past, isCheck, same, -⟩ := each.2.1 rfl
    rw [List.mem_singleton.mp isCheck] at same
    exact same
  · intro distinct config finish moves within separates
    have apart : ∀ one ∈ {event | event ∈ checkedEvents moves},
        ∀ other ∈ {event | event ∈ checkedEvents moves},
          EventDeduplicator.hashEvent texts finish one =
            EventDeduplicator.hashEvent texts finish other → one = other := by
      intro one isOne other isOther sameHash
      apply distinct one (within one isOne) other (within other isOther)
      rw [← HashedContent.hash_eq_iff]
      exact separates one isOne other isOther sameHash
    apply repeats_of_distinct apart moves
    · constructor
      intro hash row found
      cases found
    · intro past isCheck
      cases isCheck
    · exact fun event member => member

def zerosEventTexts : EventTexts textTypes where
  uuids := zerosText
  command := fun spec => .shell spec []
  terminationReason := fun _ => ""
  jobFailureReason := id
  event := fun _ => ""

/-- A job that waits, preferably for the provider. -/
def queuedFor (provider : Uuid) : DomainEvent textTypes where
  details := .jobQueued ⟨1⟩ (some ⟨provider⟩) "{}"
  occurredAt := 0
  correlationId := none
  actor := none
  agentless isSaga := by cases isSaga

def queuedTwice : List (DeduplicationMove (DomainEvent textTypes)) :=
  [.check (queuedFor 2) ⟨0, 0, 0⟩, .check (queuedFor 3) ⟨0, 0, 0⟩]

theorem other_provider_is_a_duplicate :
    Separates zerosEventTexts (fun _ => 0) queuedTwice ∧
      ¬EachMove (step (EventDeduplicator.hashEvent zerosEventTexts fun _ => 0))
        (RepeatsEvent (EventDeduplicator.hashEvent zerosEventTexts fun _ => 0)) (start .default)
        queuedTwice := by
  constructor
  · have same : EventHasher.hash zerosEventTexts (queuedFor 2) =
        EventHasher.hash zerosEventTexts (queuedFor 3) := rfl
    simp [Separates, checkedEvents, queuedTwice, same]
  · intro each
    obtain ⟨past, isCheck, same, -⟩ := each.2.1 rfl
    rw [List.mem_singleton.mp isCheck] at same
    have details := congrArg DomainEvent.details same
    cases details

end CheckRun

end HodeiJobs.Messaging
