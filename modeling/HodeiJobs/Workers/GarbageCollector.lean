import HodeiJobs.Library.History
import HodeiJobs.Outbox.Emitters
import HodeiJobs.Provisioning.WorkerProvisioning
import HodeiJobs.Workers.Aggregate

/-!
# The worker garbage collector

`WorkerGarbageCollector::cleanup` as a program: the registry, the providers, the outbox, the event
bus and the clock answer its calls, each in whatever way.
-/

namespace HodeiJobs.Workers

open HodeiJobs.Dispatch (ProviderId)
open HodeiJobs.Execution (WorkerId)
open HodeiJobs.Library HodeiJobs.Library.Program
open HodeiJobs.Outbox (DomainEvent FieldTypes OutboxEventInsert RowTexts textTypes)
open HodeiJobs.Sagas (DateTime Duration)
open HodeiJobs.Shared (WorkerState)

/-- A worker as the registry keeps it, with all of its handle. -/
structure StoredWorker extends Worker where
  providerResourceId : String
  providerId : ProviderId

namespace StoredWorker

def providerHandle (worker : StoredWorker) : Provisioning.WorkerHandle where
  workerId := worker.handle.workerId
  providerResourceId := worker.providerResourceId
  providerType := worker.handle.providerType
  providerId := worker.providerId

/-- `as_secs` of a `Duration`, which has no more than `u64` of them. -/
def idleTimeoutSecs (worker : StoredWorker) : UInt64 :=
  .ofNat (worker.spec.idleTimeout.nanos / 1000000000)

end StoredWorker

/-- The reason as the events carry it. -/
def Worker.TerminationReason.toEvent : Worker.TerminationReason → Outbox.TerminationReason
  | .lifetimeExceeded => .lifetimeExceeded
  | .idleTimeout => .idleTimeout
  | .jobCompleted => .jobCompleted
  | .unregistered => .unregistered

namespace GarbageCollector

structure CleanupResult where
  terminated : List WorkerId
  failed : List WorkerId

structure GarbageCollectorConfig where
  maxDestroyRetries : Nat
  retryBaseDelay : Duration

/-- Errors are told by their texts. -/
inductive Call (types : FieldTypes) where
  | find
  | now
  | insertEvents (events : List OutboxEventInsert)
  | updateState (workerId : WorkerId) (state : WorkerState)
  | getProvider (providerId : ProviderId)
  | destroyWorker (providerId : ProviderId) (handle : Provisioning.WorkerHandle)
  | sleep (backoff : Duration)
  | publish (event : DomainEvent types)
  | unregister (workerId : WorkerId)

def Call.Reply {types : FieldTypes} : Call types → Type
  | .find => Except String (List StoredWorker)
  | .now => DateTime
  | .getProvider _ => Bool
  | .sleep _ => Unit
  | .insertEvents _ | .updateState .. | .destroyWorker .. | .publish _ | .unregister _ =>
      Except String Unit

section Cleanup

variable {types : FieldTypes}

abbrev CleanupM (types : FieldTypes) := Program (Call types) Call.Reply

def findAll : CleanupM types (Except String (List StoredWorker)) := request Call.find

def updateState (workerId : WorkerId) (state : WorkerState) :
    CleanupM types (Except String Unit) :=
  request (Call.updateState workerId state)

def getProvider (providerId : ProviderId) : CleanupM types Bool :=
  request (Call.getProvider providerId)

def destroyWorker (providerId : ProviderId) (handle : Provisioning.WorkerHandle) :
    CleanupM types (Except String Unit) :=
  request (Call.destroyWorker providerId handle)

def sleep (backoff : Duration) : CleanupM types Unit := request (Call.sleep backoff)

/-- A question about a worker, with a clock reading of its own. -/
def asks {Answer : Type} (question : Worker → DateTime → Answer) (worker : StoredWorker) :
    CleanupM types Answer := do
  let now ← request Call.now
  return question worker.toWorker now

/-- `||`, which asks the second question only if it has to. -/
def either (first second : CleanupM types Bool) : CleanupM types Bool := do
  if ← first then return true
  else second

/-- Busy (ephemeral mode), or left over from a cleanup that failed, or out of time. -/
def mustTerminate (worker : StoredWorker) : CleanupM types Bool :=
  either (pure (worker.state = .busy || worker.state = .terminated))
    (either (asks Worker.isIdleTimeout worker)
      (either (asks Worker.isLifetimeExceeded worker)
        (asks Worker.isTtlAfterCompletionExceeded worker)))

def workersToTerminate : List StoredWorker → CleanupM types (List StoredWorker)
  | [] => return []
  | worker :: rest => do
      let selected ← mustTerminate worker
      let others ← workersToTerminate rest
      return if selected then worker :: others else others

/-- A row that the outbox refuses is only logged. -/
def emitWorkerIdleEvent (texts : RowTexts) (worker : StoredWorker) : CleanupM types Unit := do
  let _ ← request (.insertEvents
    [Outbox.WorkerGarbageCollector.emitWorkerIdleEvent texts worker.id worker.providerId
      worker.lastHeartbeat worker.idleTimeoutSecs worker.currentJobId])

def emitIdleEvents (texts : RowTexts) : List StoredWorker → CleanupM types Unit
  | [] => return ()
  | worker :: rest => do
      if ← asks Worker.isIdleTimeout worker then emitWorkerIdleEvent texts worker
      emitIdleEvents texts rest

def workerEphemeralTerminating (worker : StoredWorker) (reason : Worker.TerminationReason)
    (now : DateTime) : DomainEvent types where
  details := .workerEphemeralTerminating worker.id worker.providerId reason.toEvent
  occurredAt := now
  correlationId := none
  actor := some "garbage-collector"
  agentless isSaga := nomatch isSaga

def workerTerminated (worker : StoredWorker) (reason : Worker.TerminationReason)
    (now : DateTime) : DomainEvent types where
  details := .workerTerminated worker.id worker.providerId reason.toEvent
  occurredAt := now
  correlationId := none
  actor := some "garbage-collector"
  agentless isSaga := nomatch isSaga

/-- An event that the bus refuses is only logged. -/
def emitTerminationEvents (worker : StoredWorker) : CleanupM types Unit := do
  let reason ← asks Worker.terminationReason worker
  let terminatingAt ← request Call.now
  let _ ← request (.publish (workerEphemeralTerminating worker reason terminatingAt))
  let terminatedAt ← request Call.now
  let _ ← request (.publish (workerTerminated worker reason terminatedAt))

/-- Why a worker could not be destroyed; this only goes into the log. -/
inductive DestroyFailure where
  | providerNotFound (providerId : ProviderId)
  | gaveUp (workerId : WorkerId) (attempts : Nat) (lastError : Option String)

/-- There is no wait after the last attempt. -/
def backOff (config : GarbageCollectorConfig) (attempt : Nat) : CleanupM types Unit :=
  if attempt < config.maxDestroyRetries then
    sleep ⟨config.retryBaseDelay.nanos * attempt⟩
  else return ()

/-- The attempts that are left, the first of them being number `attempt`. -/
def destroyAttempts (config : GarbageCollectorConfig) (worker : StoredWorker) :
    (left attempt : Nat) → Option String → CleanupM types (Except DestroyFailure Unit)
  | 0, _, lastError => return .error (.gaveUp worker.id config.maxDestroyRetries lastError)
  | left + 1, attempt, _ => do
      match ← destroyWorker worker.providerId worker.providerHandle with
      | .ok () => do
          emitTerminationEvents worker
          return .ok ()
      | .error error => do
          backOff config attempt
          destroyAttempts config worker left (attempt + 1) (some error)

def destroyWorkerWithRetry (config : GarbageCollectorConfig) (worker : StoredWorker) :
    CleanupM types (Except DestroyFailure Unit) := do
  if ← getProvider worker.providerId then
    destroyAttempts config worker config.maxDestroyRetries 1 none
  else return .error (.providerNotFound worker.providerId)

def markTerminated (worker : StoredWorker) : CleanupM types (Except String Unit) :=
  if worker.state = .terminated then return .ok ()
  else updateState worker.id .terminated

/-- One worker of the last loop. -/
def terminate (config : GarbageCollectorConfig) (worker : StoredWorker)
    (result : CleanupResult) : CleanupM types CleanupResult := do
  match ← markTerminated worker with
  | .error _ => return result
  | .ok () => do
      match ← destroyWorkerWithRetry config worker with
      | .ok () => do
          let _ ← request (.unregister worker.id)
          return { result with terminated := result.terminated ++ [worker.id] }
      | .error _ => return { result with failed := result.failed ++ [worker.id] }

def terminateAll (config : GarbageCollectorConfig) :
    List StoredWorker → CleanupResult → CleanupM types CleanupResult
  | [], result => return result
  | worker :: rest, result => do
      terminateAll config rest (← terminate config worker result)

def cleanup (texts : RowTexts) (config : GarbageCollectorConfig) :
    CleanupM types (Except String CleanupResult) := do
  match ← findAll with
  | .error error => return .error ("Failed to find workers: " ++ error)
  | .ok allWorkers => do
      let selected ← workersToTerminate allWorkers
      emitIdleEvents texts selected
      return .ok (← terminateAll config selected ⟨[], []⟩)

end Cleanup

/-! ## Which calls are right -/

section Allowed

variable {types : FieldTypes}

abbrev Past (types : FieldTypes) := History (Call types) Call.Reply

/-- The registry has named the worker. -/
def Found (past : Past types) (worker : StoredWorker) : Prop :=
  ∃ workers, ⟨.find, .ok workers⟩ ∈ past ∧ worker ∈ workers

/-- A clock reading was taken at which the answer is yes. -/
def Answered (past : Past types) (question : Worker → DateTime → Bool) (worker : StoredWorker) :
    Prop :=
  ∃ now, ⟨.now, now⟩ ∈ past ∧ question worker.toWorker now = true

/-- The provider of the worker has destroyed it. -/
def Destroyed (past : Past types) (worker : StoredWorker) : Prop :=
  ⟨.destroyWorker worker.providerId worker.providerHandle, .ok ()⟩ ∈ past

/-- What is destroyed is a worker with a reason to be, and what is unregistered is destroyed. -/
def Allowed (reason : Past types → StoredWorker → Prop) (past : Past types) : Call types → Prop
  | .destroyWorker providerId handle =>
      ∃ worker, Found past worker ∧ worker.providerId = providerId ∧
        worker.providerHandle = handle ∧ reason past worker
  | .unregister workerId => ∃ worker, Found past worker ∧ worker.id = workerId ∧
      Destroyed past worker
  | _ => True

/-- Terminated, or out of one of its times; of a ready worker also that it has no job. -/
def OutOfTime (past : Past types) (worker : StoredWorker) : Prop :=
  worker.state = .terminated ∨ Answered past Worker.isLifetimeExceeded worker ∨
    Answered past Worker.isTtlAfterCompletionExceeded worker ∨
    worker.currentJobId = none ∧ Answered past Worker.isIdleTimeout worker

/-- What the collector takes for a reason. -/
def HasReason (past : Past types) (worker : StoredWorker) : Prop :=
  worker.state = .busy ∨ worker.state = .terminated ∨
    Answered past Worker.isLifetimeExceeded worker ∨
    Answered past Worker.isTtlAfterCompletionExceeded worker ∨
    Answered past Worker.isIdleTimeout worker

end Allowed

/-! ## What stays true while more is called -/

section Past

variable {types : FieldTypes} {past later : Past types} {worker : StoredWorker}

theorem found_later (found : Found past worker) (grown : past <+: later) :
    Found later worker := by
  obtain ⟨workers, named, member⟩ := found
  exact ⟨workers, grown.subset named, member⟩

theorem answered_later {question : Worker → DateTime → Bool}
    (answered : Answered past question worker) (grown : past <+: later) :
    Answered later question worker := by
  obtain ⟨now, reading, yes⟩ := answered
  exact ⟨now, grown.subset reading, yes⟩

theorem has_reason_later (reason : HasReason past worker) (grown : past <+: later) :
    HasReason later worker := by
  rcases reason with busy | terminated | lifetime | completion | idle
  · exact .inl busy
  · exact .inr (.inl terminated)
  · exact .inr (.inr (.inl (answered_later lifetime grown)))
  · exact .inr (.inr (.inr (.inl (answered_later completion grown))))
  · exact .inr (.inr (.inr (.inr (answered_later idle grown))))

end Past

/-! ## The parts of a cleanup -/

section Parts

variable {types : FieldTypes} {past : Past types} {worker : StoredWorker}

theorem asks_answered (question : Worker → DateTime → Bool) :
    Obeys (recording (Allowed HasReason))
      (fun later answer => answer = true → Answered later question worker)
      (asks question worker) past := by
  refine obeys_then (obeys_ask trivial) ?_
  rintro _ now rfl - yes
  exact ⟨now, List.mem_append_right past (List.mem_singleton_self _), yes⟩

/-- Two questions that can each give a worker its reason. -/
theorem either_reason {first second : CleanupM types Bool}
    (asked : Obeys (recording (Allowed HasReason))
      (fun later answer => answer = true → HasReason later worker) first past)
    (askedNext : ∀ later, Obeys (recording (Allowed HasReason))
      (fun later answer => answer = true → HasReason later worker) second later) :
    Obeys (recording (Allowed HasReason))
      (fun later answer => answer = true → HasReason later worker) (either first second) past := by
  refine obeys_then asked ?_
  intro later answer reason _
  cases answer with
  | true => exact reason
  | false => exact askedNext later

theorem asks_reason {question : Worker → DateTime → Bool}
    (isReason : ∀ later : Past types, Answered later question worker → HasReason later worker) :
    Obeys (recording (Allowed HasReason))
      (fun later answer => answer = true → HasReason later worker)
      (asks question worker) past := by
  apply obeys_imp _ _ _ _ (asks_answered question)
  exact fun later answer answered yes => isReason later (answered yes)

theorem must_terminate_reason :
    Obeys (recording (Allowed HasReason))
      (fun later answer => answer = true → HasReason later worker)
      (mustTerminate worker) past := by
  have byState : Obeys (recording (Allowed HasReason))
      (fun later answer => answer = true → HasReason later worker)
      (pure (worker.state = .busy || worker.state = .terminated)) past := by
    rw [obeys_pure, Bool.or_eq_true, decide_eq_true_eq, decide_eq_true_eq]
    rintro (busy | terminated)
    · exact .inl busy
    · exact .inr (.inl terminated)
  refine either_reason byState fun _ => either_reason (asks_reason ?_) fun _ =>
    either_reason (asks_reason ?_) fun _ => asks_reason ?_
  · exact fun _ idle => .inr (.inr (.inr (.inr idle)))
  · exact fun _ lifetime => .inr (.inr (.inl lifetime))
  · exact fun _ completion => .inr (.inr (.inr (.inl completion)))

/-- Whoever is found and has a reason. -/
def Selected (past : Past types) (worker : StoredWorker) : Prop :=
  Found past worker ∧ HasReason past worker

theorem selected_later {later : Past types} (selected : Selected past worker)
    (grown : past <+: later) : Selected later worker :=
  ⟨found_later selected.1 grown, has_reason_later selected.2 grown⟩

theorem workers_to_terminate_selected (workers : List StoredWorker)
    (found : ∀ worker ∈ workers, Found past worker) :
    Obeys (recording (Allowed HasReason))
      (fun later selected => ∀ worker ∈ selected, Selected later worker)
      (workersToTerminate workers) past := by
  induction workers generalizing past with
  | nil => exact fun _ member => absurd member List.not_mem_nil
  | cons worker rest ih =>
      refine obeys_then must_terminate_reason ?_
      intro asked answer reason grown
      have restFound : ∀ other ∈ rest, Found asked other := fun other member =>
        found_later (found other (List.mem_cons_of_mem worker member)) grown
      refine obeys_then (ih restFound) ?_
      intro later others selected grownAsked
      cases answer with
      | false => exact selected
      | true =>
          have head : Selected asked worker :=
            ⟨found_later (found worker List.mem_cons_self) grown, reason rfl⟩
          intro other member
          rcases List.mem_cons.mp member with rfl | member
          · exact selected_later head grownAsked
          · exact selected other member

/-- A call that is always right, and what comes after it. -/
theorem obeys_free_then {Result : Type} {ends : Past types → Result → Prop} {call : Call types}
    {next : call.Reply → CleanupM types Result} (free : ∀ past, Allowed HasReason past call)
    (rest : ∀ later reply, past <+: later →
      Obeys (recording (Allowed HasReason)) ends (next reply) later) :
    Obeys (recording (Allowed HasReason)) ends (request call >>= next) past :=
  ⟨free past, fun reply _ => rest _ reply (List.prefix_append past _)⟩

theorem emit_idle_events_obeys (texts : RowTexts) (workers : List StoredWorker) :
    Obeys (recording (Allowed HasReason)) (fun _ _ => True) (emitIdleEvents texts workers)
      past := by
  induction workers generalizing past with
  | nil => trivial
  | cons worker rest ih =>
      refine obeys_then (asks_answered Worker.isIdleTimeout) ?_
      intro later answer _ _
      cases answer with
      | true => exact obeys_free_then (fun _ => trivial) fun _ _ _ => ih
      | false => exact ih

theorem emit_termination_events_obeys :
    Obeys (recording (Allowed HasReason)) (fun _ _ => True) (emitTerminationEvents worker)
      past := by
  refine obeys_free_then (fun _ => trivial) fun _ now _ => ?_
  refine obeys_free_then (fun _ => trivial) fun _ terminatingAt _ => ?_
  refine obeys_free_then (fun _ => trivial) fun _ _ _ => ?_
  refine obeys_free_then (fun _ => trivial) fun _ terminatedAt _ => ?_
  exact obeys_free_then (fun _ => trivial) fun _ _ _ => trivial

theorem back_off_obeys (config : GarbageCollectorConfig) (attempt : Nat) :
    Obeys (recording (Allowed HasReason)) (fun _ _ => True) (backOff config attempt) past := by
  unfold backOff
  by_cases waits : attempt < config.maxDestroyRetries
  · rw [if_pos waits]
    exact obeys_free_then (fun _ => trivial) fun _ _ _ => trivial
  · rw [if_neg waits]
    trivial

theorem destroy_attempts_destroyed (config : GarbageCollectorConfig) (left attempt : Nat)
    (lastError : Option String) (selected : Selected past worker) :
    Obeys (recording (Allowed HasReason))
      (fun later outcome => outcome = .ok () → Destroyed later worker)
      (destroyAttempts config worker left attempt lastError) past := by
  induction left generalizing attempt lastError past with
  | zero => exact fun failed => nomatch failed
  | succ left ih =>
      have mayDestroy : Allowed HasReason past
          (.destroyWorker worker.providerId worker.providerHandle) :=
        ⟨worker, selected.1, rfl, rfl, selected.2⟩
      refine obeys_then (obeys_ask mayDestroy) ?_
      rintro _ reply rfl grown
      cases reply with
      | ok done =>
          refine obeys_then emit_termination_events_obeys ?_
          intro later _ _ grownDestroyed _
          exact grownDestroyed.subset
            (List.mem_append_right past (List.mem_singleton_self _))
      | error error =>
          refine obeys_then (back_off_obeys config attempt) ?_
          intro later _ _ grownFailed
          exact ih (attempt + 1) (some error)
            (selected_later selected (grown.trans grownFailed))

theorem destroy_with_retry_destroyed (config : GarbageCollectorConfig)
    (selected : Selected past worker) :
    Obeys (recording (Allowed HasReason))
      (fun later outcome => outcome = .ok () → Destroyed later worker)
      (destroyWorkerWithRetry config worker) past := by
  refine obeys_free_then (fun _ => trivial) fun later found grown => ?_
  cases found with
  | true =>
      exact destroy_attempts_destroyed config _ 1 none (selected_later selected grown)
  | false => exact fun failed => nomatch failed

theorem mark_terminated_obeys :
    Obeys (recording (Allowed HasReason)) (fun _ _ => True) (markTerminated worker) past := by
  unfold markTerminated
  by_cases already : worker.state = .terminated
  · rw [if_pos already]
    trivial
  · rw [if_neg already]
    exact obeys_free_then (fun _ => trivial) fun _ _ _ => trivial

theorem terminate_obeys (config : GarbageCollectorConfig) (result : CleanupResult)
    (selected : Selected past worker) :
    Obeys (recording (Allowed HasReason)) (fun _ _ => True) (terminate config worker result)
      past := by
  refine obeys_then mark_terminated_obeys ?_
  intro later marked _ grown
  cases marked with
  | error error => trivial
  | ok done =>
      refine obeys_then
        (destroy_with_retry_destroyed config (selected_later selected grown)) ?_
      intro last outcome destroyed grownMarked
      cases outcome with
      | error failure => trivial
      | ok gone =>
          have found := found_later selected.1 (grown.trans grownMarked)
          have mayUnregister : Allowed HasReason last (.unregister worker.id) :=
            ⟨worker, found, rfl, destroyed rfl⟩
          exact obeys_then (obeys_ask mayUnregister) fun _ _ _ _ => trivial

theorem terminate_all_obeys (config : GarbageCollectorConfig) (workers : List StoredWorker)
    (result : CleanupResult) (selected : ∀ worker ∈ workers, Selected past worker) :
    Obeys (recording (Allowed HasReason)) (fun _ _ => True) (terminateAll config workers result)
      past := by
  induction workers generalizing past result with
  | nil => trivial
  | cons worker rest ih =>
      refine obeys_then (terminate_obeys config result (selected worker List.mem_cons_self)) ?_
      intro later result _ grown
      exact ih result fun other member =>
        selected_later (selected other (List.mem_cons_of_mem worker member)) grown

theorem cleanup_obeys (texts : RowTexts) (config : GarbageCollectorConfig) :
    Obeys (recording (Allowed HasReason)) (fun _ _ => True) (cleanup texts config)
      ([] : Past types) := by
  refine obeys_then (obeys_ask trivial) ?_
  rintro _ reply rfl -
  cases reply with
  | error error => trivial
  | ok allWorkers =>
      refine obeys_then (workers_to_terminate_selected allWorkers fun worker member =>
        ⟨allWorkers, List.mem_singleton_self _, member⟩) ?_
      intro later selected reasons _
      refine obeys_then (emit_idle_events_obeys texts selected) ?_
      intro last _ _ grown
      exact obeys_then (terminate_all_obeys config selected ⟨[], []⟩ fun worker member =>
        selected_later (reasons worker member) grown) fun _ _ _ _ => trivial

end Parts

/-- Whatever the services answer, and whatever the clock shows: only a worker that was found and
has a reason is destroyed, and only one that its provider has destroyed is unregistered. -/
theorem cleanup_destroys_with_reason {types : FieldTypes} {World : Type} (texts : RowTexts)
    (config : GarbageCollectorConfig)
    (handle : (call : Call types) → World → call.Reply × World) (world : World) :
    EachCall (Allowed HasReason) (trace handle (cleanup texts config) world) :=
  each_call_of_obeys handle world (cleanup_obeys texts config)

/-! A busy worker in the first second of its life, and a ready one that has a job. -/

def noTexts : RowTexts := ⟨Commands.zerosText, fun _ => ""⟩

def aWorker (state : WorkerState) : StoredWorker where
  id := ⟨1⟩
  handle := ⟨⟨1⟩, .docker⟩
  state := state
  spec := .new
  currentJobId := some ⟨1⟩
  jobsExecuted := 0
  jobCompletedAt := none
  lastHeartbeat := 0
  createdAt := 0
  updatedAt := 0
  providerResourceId := "container"
  providerId := ⟨1⟩

/-- Everything succeeds, and the clock shows one time. -/
def calm (workers : List StoredWorker) (now : DateTime) :
    (call : Call textTypes) → Unit → call.Reply × Unit
  | .find, _ => (.ok workers, ())
  | .now, _ => (now, ())
  | .getProvider _, _ => (true, ())
  | .sleep _, _ => ((), ())
  | .insertEvents _, _ | .updateState .., _ | .destroyWorker .., _ | .publish _, _
  | .unregister _, _ => (.ok (), ())

/-- What a cleanup calls at the given time if it finds the worker. -/
def cleanupOf (worker : StoredWorker) (now : DateTime) : Past textTypes :=
  trace (calm [worker] now) (cleanup noTexts ⟨3, .fromSecs 1⟩) ()

section CleanupOf

variable {worker other : StoredWorker} {now time : DateTime} {past after : Past textTypes}
  {call : Sigma (@Call.Reply textTypes)}

theorem found_in_cleanup (split : cleanupOf worker now = past ++ call :: after)
    (found : Found past other) : other = worker := by
  obtain ⟨workers, named, member⟩ := found
  have called : (⟨.find, .ok workers⟩ : Sigma _) ∈ cleanupOf worker now := by
    rw [split]
    exact List.mem_append_left _ named
  obtain ⟨_, reply⟩ := answered_of_mem_trace _ called
  cases reply
  exact List.mem_singleton.mp member

theorem read_in_cleanup (split : cleanupOf worker now = past ++ call :: after)
    (read : ⟨.now, time⟩ ∈ past) : time = now := by
  have called : (⟨.now, time⟩ : Sigma _) ∈ cleanupOf worker now := by
    rw [split]
    exact List.mem_append_left _ read
  obtain ⟨_, reply⟩ := answered_of_mem_trace _ called
  exact reply

/-- By its times alone, a cleanup destroys a worker that is active, has a job and has
completed none only past its lifetime. -/
theorem lifetime_in_cleanup {providerId : ProviderId} {handle : Provisioning.WorkerHandle}
    {reply : Except String Unit} (each : EachCall (Allowed OutOfTime) (cleanupOf worker now))
    (split : cleanupOf worker now = past ++ ⟨.destroyWorker providerId handle, reply⟩ :: after)
    (active : worker.state ≠ .terminated) (employed : worker.currentJobId ≠ none)
    (running : ∀ time, worker.toWorker.isTtlAfterCompletionExceeded time = false) :
    worker.toWorker.isLifetimeExceeded now = true := by
  obtain ⟨other, found, -, -, reason⟩ := each _ _ _ split
  obtain rfl := found_in_cleanup split found
  rcases reason with terminated | ⟨time, read, yes⟩ | ⟨time, read, yes⟩ | ⟨jobless, -⟩
  · exact absurd terminated active
  · obtain rfl := read_in_cleanup split read
    exact yes
  · rw [running] at yes
    cases yes
  · exact absurd jobless employed

end CleanupOf

theorem cleanup_destroys_workers_with_jobs :
    ¬EachCall (Allowed OutOfTime) (cleanupOf (aWorker .busy) 0) ∧
    ¬EachCall (Allowed OutOfTime) (cleanupOf (aWorker .ready) 301000000) := by
  constructor
  · intro each
    have split : cleanupOf (aWorker .busy) 0 =
        (cleanupOf (aWorker .busy) 0).take 4 ++ ⟨.destroyWorker _ _, _⟩ :: _ := rfl
    have exceeded := lifetime_in_cleanup each split (by decide) (by decide) fun _ => rfl
    exact absurd exceeded (by decide)
  · intro each
    have split : cleanupOf (aWorker .ready) 301000000 =
        (cleanupOf (aWorker .ready) 301000000).take 6 ++ ⟨.destroyWorker _ _, _⟩ :: _ := rfl
    have exceeded := lifetime_in_cleanup each split (by decide) (by decide) fun _ => rfl
    exact absurd exceeded (by decide)

end GarbageCollector

end HodeiJobs.Workers
