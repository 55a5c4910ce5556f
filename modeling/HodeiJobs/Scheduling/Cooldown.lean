import HodeiJobs.Scheduling.JobDispatcher

/-!
# The cooldown of provisioning

Of the three places that provision a worker only one looks at `recently_provisioned`. What
it writes there keeps its own provisionings apart, and those of the other two are kept
apart by nothing.
-/

namespace HodeiJobs.Scheduling

open HodeiJobs.Library
open HodeiJobs.Execution (JobId)
open HodeiJobs.Persistence (JobTables Serde plainJob plainSerde)

variable {serde : Serde}

/-! ## Which place a call provisions from -/

/-- A call of `trigger_provisioning`. -/
structure Trigger where
  path : ProvisioningPath
  job : Job
  dispatcher : JobDispatcher
  answers : ProvisioningAnswers

/-- The worker that it provisions. -/
def Trigger.worker (trigger : Trigger) (text : TextTables) (now : Nat) : List Provisioning :=
  provisioned trigger.path now trigger.job.id
    (provision text trigger.answers trigger.dispatcher trigger.job).1

section

variable (text : TextTables) (view : JobView serde) (now : Nat)

def noWorkersTrigger (answers : DispatchAnswers) (job : Job) (dispatcher : JobDispatcher) :
    Option Trigger :=
  let consulted := shouldProvision now job.id dispatcher
  if consulted.1 then some ⟨.noWorkers, job, consulted.2, answers.provisioning⟩ else none

def decidedTrigger (answers : DispatchAnswers) (job : Persistence.Job serde)
    (workers : List Workers.Worker) (dispatcher : JobDispatcher) : Option Trigger :=
  let decided := makeSchedulingDecision text answers (view.job job) workers dispatcher.scheduler
  match decided.1 with
  | .ok (.provisionWorker _ providerId) =>
      some ⟨.decided, view.job (view.prefer text.uuids providerId job),
        { dispatcher with scheduler := decided.2 }, answers.provisioning⟩
  | _ => none

def dispatchOnceTrigger (answers : DispatchAnswers) (world : DispatchWorld) : Option Trigger :=
  match answers.dequeueFailure,
    (Persistence.JobQueue.dequeue serde world.tables answers.dequeueChoice).1 with
  | none, .ok (some job) =>
      match queryHealthyWorkers answers world.dispatcher with
      | .error _ => none
      | .ok workers =>
          if workers.isEmpty then noWorkersTrigger now answers (view.job job) world.dispatcher
          else decidedTrigger text view answers job workers world.dispatcher
  | _, _ => none

def requestTrigger (answers : QueuedAnswers serde) (job : Persistence.Job serde)
    (world : DispatchWorld) : Option Trigger :=
  let selected := selectedJob text view answers.request world.dispatcher.scheduler job
  match selected.1 with
  | none => none
  | some job =>
      match (updateJob answers.request job world.tables).1 with
      | .error _ => none
      | .ok () =>
          some ⟨.requested, view.job job, { world.dispatcher with scheduler := selected.2 },
            answers.dispatch.provisioning⟩

def queuedTrigger (answers : QueuedAnswers serde) (jobId : JobId) (job : Persistence.Job serde)
    (workers : List Workers.Worker) (world : DispatchWorld) : Option Trigger :=
  let decided := makeSchedulingDecision text answers.dispatch (view.job job) workers
    world.dispatcher.scheduler
  let world := { world with dispatcher := { world.dispatcher with scheduler := decided.2 } }
  match decided.1 with
  | .ok (.provisionWorker _ _) => requestTrigger text view answers job world
  | .ok (.enqueue _ _) | .ok (.reject _ _) =>
      match answers.foundAgain jobId with
      | .ok (some _) => dispatchOnceTrigger text view now answers.nested world
      | _ => none
  | _ => none

def handleJobQueuedTrigger (answers : QueuedAnswers serde) (jobId : JobId)
    (world : DispatchWorld) : Option Trigger :=
  match answers.found jobId, (answers.associatedWorker jobId).toOption.join with
  | .ok (some job), none =>
      match queryHealthyWorkers answers.dispatch world.dispatcher with
      | .error _ => none
      | .ok workers =>
          if workers.isEmpty then requestTrigger text view answers job world
          else queuedTrigger text view now answers jobId job workers world
  | _, _ => none

end

/-! ## What a call does to the table and to the provisionings -/

/-- What the cooldown depends on. -/
def JobDispatcher.memory (dispatcher : JobDispatcher) :
    Sagas.Duration × Table RecentlyProvisioned.jobId :=
  (dispatcher.provisioningCooldown, dispatcher.recentlyProvisioned)

/-- The effect of a call; only `handle_no_available_workers` writes to the table, and only
where the table lets it provision does it change the entry of a job. -/
inductive Effect (text : TextTables) (now : Nat) (before after : DispatchWorld) :
    Option Trigger → Prop
  | quiet : after.provisionings = before.provisionings →
      after.dispatcher.memory = before.dispatcher.memory → Effect text now before after none
  | cleaned (jobId : JobId) : after.provisionings = before.provisionings →
      after.dispatcher.memory = (shouldProvision now jobId before.dispatcher).2.memory →
      (shouldProvision now jobId before.dispatcher).1 = false →
      Effect text now before after none
  | unguarded (trigger : Trigger) : trigger.path ≠ .noWorkers →
      after.provisionings = before.provisionings ++ trigger.worker text now →
      after.dispatcher.memory = before.dispatcher.memory →
      Effect text now before after (some trigger)
  | guarded (trigger : Trigger) : trigger.path = .noWorkers →
      (shouldProvision now trigger.job.id before.dispatcher).1 = true →
      after.provisionings = before.provisionings ++ trigger.worker text now →
      (after.dispatcher.memory =
          (shouldProvision now trigger.job.id before.dispatcher).2.memory ∨
        trigger.worker text now = [] ∧ after.dispatcher.memory =
          (before.dispatcher.provisioningCooldown,
            (shouldProvision now trigger.job.id before.dispatcher).2.recentlyProvisioned.delete
              trigger.job.id)) →
      Effect text now before after (some trigger)

section

variable {text : TextTables} {view : JobView serde} {now : Nat} {world : DispatchWorld}

theorem enqueue_frame (answers : DispatchAnswers) (jobId : JobId) (world : DispatchWorld) :
    (enqueue answers jobId world).2.dispatcher = world.dispatcher ∧
      (enqueue answers jobId world).2.provisionings = world.provisionings := by
  unfold enqueue
  cases answers.enqueueFailure with
  | none => exact ⟨rfl, rfl⟩
  | some error => exact ⟨rfl, rfl⟩

theorem dispatch_to_worker_frame (answers : DispatchAnswers) (jobId : JobId)
    (workerId : Execution.WorkerId) (world : DispatchWorld) :
    (dispatchJobToWorker answers jobId workerId world).2.dispatcher = world.dispatcher ∧
      (dispatchJobToWorker answers jobId workerId world).2.provisionings =
        world.provisionings := by
  unfold dispatchJobToWorker
  cases world.dispatcher.hasExecutionSagaDispatcher with
  | false => exact ⟨rfl, rfl⟩
  | true =>
      simp only [if_true]
      rcases answers.executionSaga jobId workerId world.tables with ⟨_ | _, tables⟩
      · exact ⟨rfl, rfl⟩
      · exact ⟨rfl, rfl⟩

/-- A failed provisioning provisions no worker. -/
theorem no_worker_of_error {path : ProvisioningPath} {answers : ProvisioningAnswers} {job : Job}
    {stop : Stop}
    (failed : (triggerProvisioning text path now answers job world).1 = .error stop) :
    provisioned path now job.id (provision text answers world.dispatcher job).1 = [] := by
  simp only [triggerProvisioning] at failed
  cases outcome : (provision text answers world.dispatcher job).1 with
  | error problem => rfl
  | ok worker => simp [outcome, Except.map] at failed

/-- The entries that `retain` keeps. -/
def isRecent (now : Nat) (dispatcher : JobDispatcher) (entry : RecentlyProvisioned) : Bool :=
  now - entry.time < dispatcher.provisioningCooldown.nanos

/-- Either the job has a recent entry, and the table is only cleaned, or it has none, and
gets one. -/
theorem should_provision_cases (jobId : JobId) (dispatcher : JobDispatcher) :
    (∃ entry, dispatcher.recentlyProvisioned.find jobId = some entry ∧
        isRecent now dispatcher entry = true ∧
        shouldProvision now jobId dispatcher = (false, { dispatcher with
          recentlyProvisioned :=
            dispatcher.recentlyProvisioned.retain (isRecent now dispatcher) })) ∨
      ((∀ entry, dispatcher.recentlyProvisioned.find jobId = some entry →
          isRecent now dispatcher entry = false) ∧
        shouldProvision now jobId dispatcher = (true, { dispatcher with
          recentlyProvisioned := (dispatcher.recentlyProvisioned.retain
            (isRecent now dispatcher)).upsert ⟨jobId, now⟩ })) := by
  have retained := Table.find_retain dispatcher.recentlyProvisioned (isRecent now dispatcher) jobId
  cases kept : (dispatcher.recentlyProvisioned.retain (isRecent now dispatcher)).find jobId with
  | none =>
      right
      rw [kept] at retained
      constructor
      · intro entry found
        rw [found, Option.filter_some] at retained
        split_ifs at retained with recent
        exact eq_false_of_ne_true recent
      · unfold shouldProvision
        unfold isRecent at kept
        simp only [kept]
        rfl
  | some entry =>
      left
      rw [kept] at retained
      obtain ⟨found, recent⟩ := Option.filter_eq_some_iff.mp retained.symm
      refine ⟨entry, found, recent, ?_⟩
      unfold shouldProvision
      unfold isRecent at kept recent
      simp only [kept, of_decide_eq_true recent, if_true]
      rfl

theorem should_provision_passed {jobId : JobId} {dispatcher : JobDispatcher}
    (passed : (shouldProvision now jobId dispatcher).1 = true) :
    (∀ entry, dispatcher.recentlyProvisioned.find jobId = some entry →
        isRecent now dispatcher entry = false) ∧
      (shouldProvision now jobId dispatcher).2.recentlyProvisioned =
        (dispatcher.recentlyProvisioned.retain (isRecent now dispatcher)).upsert
          ⟨jobId, now⟩ := by
  rcases should_provision_cases jobId dispatcher with ⟨_, -, -, looked⟩ | ⟨stale, looked⟩
  · rw [looked] at passed
    cases passed
  · rw [looked]
    exact ⟨stale, rfl⟩

theorem should_provision_refused {jobId : JobId} {dispatcher : JobDispatcher}
    (refused : (shouldProvision now jobId dispatcher).1 = false) :
    (shouldProvision now jobId dispatcher).2.recentlyProvisioned =
      dispatcher.recentlyProvisioned.retain (isRecent now dispatcher) := by
  rcases should_provision_cases jobId dispatcher with ⟨_, -, -, looked⟩ | ⟨-, looked⟩
  · rw [looked]
  · rw [looked] at refused
    cases refused

/-- The lookup keeps the cooldown. -/
theorem should_provision_cooldown (jobId : JobId) (dispatcher : JobDispatcher) :
    (shouldProvision now jobId dispatcher).2.provisioningCooldown =
      dispatcher.provisioningCooldown := by
  rcases should_provision_cases jobId dispatcher with ⟨_, -, -, looked⟩ | ⟨-, looked⟩
  · rw [looked]
  · rw [looked]

/-- Of the dispatcher only the table and the cooldown decide. -/
theorem should_provision_congr {dispatcher other : JobDispatcher}
    (same : other.memory = dispatcher.memory) (jobId : JobId) :
    (shouldProvision now jobId other).1 = (shouldProvision now jobId dispatcher).1 ∧
      (shouldProvision now jobId other).2.memory =
        (shouldProvision now jobId dispatcher).2.memory := by
  obtain ⟨cooldown, table⟩ := Prod.mk.inj same
  constructor
  · simp only [shouldProvision, table, cooldown]
    split
    · split_ifs
      · rfl
      · rfl
    · rfl
  · apply Prod.ext
    · simp only [JobDispatcher.memory, should_provision_cooldown, cooldown]
    · simp only [JobDispatcher.memory, shouldProvision, table, cooldown]
      split
      · split_ifs
        · rfl
        · rfl
      · rfl

theorem effect_congr {before other after : DispatchWorld} {trigger : Option Trigger}
    (effect : Effect text now other after trigger)
    (provisionings : other.provisionings = before.provisionings)
    (memory : other.dispatcher.memory = before.dispatcher.memory) :
    Effect text now before after trigger := by
  cases effect with
  | quiet log kept => exact .quiet (log.trans provisionings) (kept.trans memory)
  | cleaned jobId log written refused =>
      obtain ⟨decision, retained⟩ := should_provision_congr memory jobId
      exact .cleaned jobId (log.trans provisionings) (written.trans retained)
        (decision.symm.trans refused)
  | unguarded trigger path log kept =>
      rw [provisionings] at log
      exact .unguarded trigger path log (kept.trans memory)
  | guarded trigger path passed log written =>
      obtain ⟨decision, retained⟩ := should_provision_congr memory trigger.job.id
      rw [provisionings] at log
      rw [decision] at passed
      rw [retained, (Prod.mk.inj memory).1, (Prod.mk.inj retained).2] at written
      exact .guarded trigger path passed log written

theorem effect_of_frame {before after : DispatchWorld}
    (frame : after.dispatcher = before.dispatcher ∧ after.provisionings = before.provisionings) :
    Effect text now before after none :=
  .quiet frame.2 (congrArg JobDispatcher.memory frame.1)

theorem no_workers_effect (answers : DispatchAnswers) (job : Job) :
    Effect text now world (handleNoAvailableWorkers text now answers job world).2
      (noWorkersTrigger now answers job world.dispatcher) := by
  unfold handleNoAvailableWorkers noWorkersTrigger
  cases consulted : (shouldProvision now job.id world.dispatcher).1 with
  | false =>
      simp only [consulted, Bool.false_eq_true, if_false]
      obtain ⟨dispatcher, provisionings⟩ := enqueue_frame answers job.id
        { world with dispatcher := (shouldProvision now job.id world.dispatcher).2 }
      exact .cleaned job.id provisionings (by rw [dispatcher]) consulted
  | true =>
      simp only [consulted, if_true]
      apply Effect.guarded _ rfl consulted
      · split
        · exact (enqueue_frame answers job.id _).2
        · exact (enqueue_frame answers job.id _).2
      · split
        · left
          simp only [(enqueue_frame answers job.id _).1]
          rfl
        · rename_i stop failed
          right
          constructor
          · exact no_worker_of_error failed
          · simp only [(enqueue_frame answers job.id _).1]
            exact Prod.ext (should_provision_cooldown job.id world.dispatcher) rfl

theorem decide_effect (answers : DispatchAnswers) (job : Persistence.Job serde)
    (workers : List Workers.Worker) :
    Effect text now world (decideAndExecute text view now answers job workers world).2
      (decidedTrigger text view answers job workers world.dispatcher) := by
  unfold decideAndExecute decidedTrigger
  rcases makeSchedulingDecision text answers (view.job job) workers world.dispatcher.scheduler
    with ⟨stop | decision, scheduler⟩
  · exact .quiet rfl rfl
  · cases decision with
    | assignToWorker jobId workerId =>
        exact effect_congr (effect_of_frame (dispatch_to_worker_frame answers job.id workerId _))
          rfl rfl
    | provisionWorker jobId providerId =>
        apply Effect.unguarded
        · simp
        · exact (enqueue_frame answers _ _).2
        · simp only [(enqueue_frame answers _ _).1]
          rfl
    | enqueue jobId reason | reject jobId reason =>
        exact effect_congr (effect_of_frame (enqueue_frame answers job.id _)) rfl rfl

theorem dispatch_once_effect (answers : DispatchAnswers) :
    Effect text now world (dispatchOnce text view now answers world).2
      (dispatchOnceTrigger text view now answers world) := by
  unfold dispatchOnce dispatchOnceTrigger
  cases answers.dequeueFailure with
  | some error => exact .quiet rfl rfl
  | none =>
      rcases Persistence.JobQueue.dequeue serde world.tables answers.dequeueChoice
        with ⟨problem | _ | job, tables⟩
      · exact .quiet rfl rfl
      · exact .quiet rfl rfl
      · simp only [dispatchDequeued]
        cases queryHealthyWorkers answers world.dispatcher with
        | error stop => exact .quiet rfl rfl
        | ok workers =>
            simp only
            split
            · exact effect_congr (no_workers_effect answers (view.job job)) rfl rfl
            · exact effect_congr (decide_effect answers job workers) rfl rfl

theorem request_effect (answers : QueuedAnswers serde) (job : Persistence.Job serde) :
    Effect text now world (requestWorkerProvisioning text view now answers job world)
      (requestTrigger text view answers job world) := by
  unfold requestWorkerProvisioning requestTrigger
  rcases selectedJob text view answers.request world.dispatcher.scheduler job
    with ⟨_ | selected, scheduler⟩
  · exact .quiet rfl rfl
  · rcases updated : updateJob answers.request selected world.tables with ⟨error | _, tables⟩
    · simp only [updated]
      exact .quiet rfl rfl
    · simp only [updated]
      exact .unguarded _ (by simp) rfl rfl

theorem queued_effect (answers : QueuedAnswers serde) (jobId : JobId)
    (job : Persistence.Job serde) (workers : List Workers.Worker) :
    Effect text now world (dispatchQueued text view now answers jobId job workers world).2
      (queuedTrigger text view now answers jobId job workers world) := by
  unfold dispatchQueued queuedTrigger
  rcases makeSchedulingDecision text answers.dispatch (view.job job) workers
    world.dispatcher.scheduler with ⟨stop | decision, scheduler⟩
  · exact .quiet rfl rfl
  · cases decision with
    | assignToWorker _ workerId =>
        simp only
        split
        · rename_i again _
          exact effect_congr
            (effect_of_frame
              (dispatch_to_worker_frame answers.dispatch again.id workerId _)) rfl rfl
        · exact .quiet rfl rfl
        · exact .quiet rfl rfl
    | provisionWorker _ providerId =>
        simp only
        exact effect_congr (request_effect answers job) rfl rfl
    | enqueue _ reason | reject _ reason =>
        simp only
        cases answers.foundAgain jobId with
        | error error => exact .quiet rfl rfl
        | ok again =>
            cases again with
            | none => exact .quiet rfl rfl
            | some _ =>
                exact effect_congr (dispatch_once_effect answers.nested) rfl rfl

theorem handle_job_queued_effect (answers : QueuedAnswers serde) (jobId : JobId) :
    Effect text now world (handleJobQueued text view now answers jobId world).2
      (handleJobQueuedTrigger text view now answers jobId world) := by
  unfold handleJobQueued handleJobQueuedTrigger
  rcases answers.found jobId with error | _ | job
  · exact .quiet rfl rfl
  · exact .quiet rfl rfl
  · cases (answers.associatedWorker jobId).toOption.join with
    | some worker =>
        simp only
        rcases answers.foundAgain jobId with error | _ | again
        · exact .quiet rfl rfl
        · exact .quiet rfl rfl
        · exact effect_of_frame (dispatch_to_worker_frame answers.dispatch again.id worker.id world)
    | none =>
        simp only
        cases queryHealthyWorkers answers.dispatch world.dispatcher with
        | error stop => exact .quiet rfl rfl
        | ok workers =>
            simp only
            split
            · exact request_effect answers job
            · exact queued_effect answers jobId job workers

end

/-! ## Runs -/

inductive DispatcherCall (serde : Serde) where
  | dispatchOnce (answers : DispatchAnswers)
  | handleJobQueued (jobId : JobId) (answers : QueuedAnswers serde)

/-- A call, how long after the last one it is made, and what others have done to the
tables in between. -/
structure DispatcherMove (serde : Serde) where
  wait : Nat
  others : JobTables → JobTables
  call : DispatcherCall serde

structure DispatcherState where
  now : Nat
  world : DispatchWorld

section

variable (text : TextTables) (view : JobView serde)

/-- The world that the call finds. -/
def DispatcherMove.found (move : DispatcherMove serde) (state : DispatcherState) : DispatchWorld :=
  { state.world with tables := move.others state.world.tables }

def DispatcherState.step (state : DispatcherState) (move : DispatcherMove serde) :
    DispatcherState where
  now := state.now + move.wait
  world :=
    match move.call with
    | .dispatchOnce answers =>
        (dispatchOnce text view (state.now + move.wait) answers (move.found state)).2
    | .handleJobQueued jobId answers =>
        (handleJobQueued text view (state.now + move.wait) answers jobId (move.found state)).2

def DispatcherMove.trigger (move : DispatcherMove serde) (state : DispatcherState) :
    Option Trigger :=
  match move.call with
  | .dispatchOnce answers =>
      dispatchOnceTrigger text view (state.now + move.wait) answers (move.found state)
  | .handleJobQueued jobId answers =>
      handleJobQueuedTrigger text view (state.now + move.wait) answers jobId (move.found state)

def DispatcherState.cooldown (state : DispatcherState) : Nat :=
  state.world.dispatcher.provisioningCooldown.nanos

/-- Two workers for one job are provisioned at least the cooldown apart. -/
def Spaced (state : DispatcherState) : Prop :=
  state.world.provisionings.Pairwise fun earlier later =>
    earlier.jobId = later.jobId → earlier.time + state.cooldown ≤ later.time

/-- A worker is only provisioned within the cooldown of an earlier one for the job if both
times the table of recent provisionings was looked at. -/
def Unhurried (state : DispatcherState) (move : DispatcherMove serde) : Prop :=
  ∀ trigger, move.trigger text view state = some trigger →
    trigger.worker text (state.now + move.wait) ≠ [] →
      ∀ earlier ∈ state.world.provisionings, earlier.jobId = trigger.job.id →
        state.now + move.wait < earlier.time + state.cooldown →
          trigger.path = .noWorkers ∧ earlier.path = .noWorkers

end

/-! ## The invariant of the table -/

/-- What the table has let through is in the past, and in the table as long as it counts. -/
structure Remembered (now : Nat) (world : DispatchWorld) : Prop where
  past : ∀ earlier ∈ world.provisionings, earlier.time ≤ now
  recorded : ∀ earlier ∈ world.provisionings, earlier.path = .noWorkers →
    now < earlier.time + world.dispatcher.provisioningCooldown.nanos →
      ∃ entry, world.dispatcher.recentlyProvisioned.find earlier.jobId = some entry ∧
        earlier.time ≤ entry.time

section

variable {text : TextTables} {view : JobView serde} {now : Nat}
  {before after : DispatchWorld}

theorem remembered_later (held : Remembered now before) (wait : Nat)
    (tables : JobTables) : Remembered (now + wait) { before with tables := tables } where
  past earlier member := (held.past earlier member).trans (Nat.le_add_right now wait)
  recorded earlier member path recent := by
    apply held.recorded earlier member path
    simp only at recent
    omega

theorem worker_cases (trigger : Trigger) (text : TextTables) (now : Nat) :
    trigger.worker text now = [] ∨
      trigger.worker text now = [⟨trigger.path, trigger.job.id, now⟩] := by
  unfold Trigger.worker provisioned
  split
  · exact .inr rfl
  · exact .inl rfl

theorem worker_new {trigger : Trigger} {new : Provisioning}
    (member : new ∈ trigger.worker text now) :
    trigger.worker text now ≠ [] ∧ new = ⟨trigger.path, trigger.job.id, now⟩ := by
  rcases worker_cases trigger text now with none | one
  · rw [none] at member
    cases member
  · rw [one] at member
    exact ⟨by simp [one], List.mem_singleton.mp member⟩

/-- The entry of a provisioning that still counts is recent. -/
theorem recent_of_recorded {dispatcher : JobDispatcher} {time : Nat}
    {entry : RecentlyProvisioned} (past : time ≤ now)
    (counts : now < time + dispatcher.provisioningCooldown.nanos) (recorded : time ≤ entry.time) :
    isRecent now dispatcher entry = true := by
  unfold isRecent
  rw [decide_eq_true_iff]
  omega

/-- Where the table lets a job through, no provisioning that it has let through counts. -/
theorem nothing_counts (held : Remembered now before) {jobId : JobId}
    (passed : (shouldProvision now jobId before.dispatcher).1 = true) {earlier : Provisioning}
    (member : earlier ∈ before.provisionings) (path : earlier.path = .noWorkers)
    (same : earlier.jobId = jobId) :
    earlier.time + before.dispatcher.provisioningCooldown.nanos ≤ now := by
  by_contra counts
  rw [not_le] at counts
  obtain ⟨entry, found, later⟩ := held.recorded earlier member path counts
  rw [same] at found
  have recent := recent_of_recorded (held.past earlier member) counts later
  rw [(should_provision_passed passed).1 entry found] at recent
  cases recent

theorem effect_cooldown {trigger : Option Trigger}
    (effect : Effect text now before after trigger) :
    after.dispatcher.provisioningCooldown = before.dispatcher.provisioningCooldown := by
  cases effect with
  | quiet log kept => exact (Prod.mk.inj kept).1
  | cleaned jobId log written refused =>
      exact (Prod.mk.inj written).1.trans (should_provision_cooldown jobId before.dispatcher)
  | unguarded trigger path log kept => exact (Prod.mk.inj kept).1
  | guarded trigger path passed log written =>
      cases written with
      | inl inserted =>
          exact (Prod.mk.inj inserted).1.trans
            (should_provision_cooldown trigger.job.id before.dispatcher)
      | inr removed => exact (Prod.mk.inj removed.2).1

/-- The provisionings of a call are at the time of the call. -/
theorem effect_past {trigger : Option Trigger} (held : Remembered now before)
    (effect : Effect text now before after trigger) :
    ∀ earlier ∈ after.provisionings, earlier.time ≤ now := by
  have appended : ∀ trigger : Trigger,
      ∀ earlier ∈ before.provisionings ++ trigger.worker text now, earlier.time ≤ now := by
    intro trigger earlier member
    cases List.mem_append.mp member with
    | inl old => exact held.past earlier old
    | inr new => rw [(worker_new new).2]
  cases effect with
  | quiet log kept =>
      rw [log]
      exact held.past
  | cleaned jobId log written refused =>
      rw [log]
      exact held.past
  | unguarded trigger path log kept =>
      rw [log]
      exact appended trigger
  | guarded trigger path passed log written =>
      rw [log]
      exact appended trigger

/-- What counts survives the cleaning of the table. -/
theorem recorded_retained (held : Remembered now before) {earlier : Provisioning}
    (member : earlier ∈ before.provisionings) (path : earlier.path = .noWorkers)
    (counts : now < earlier.time + before.dispatcher.provisioningCooldown.nanos) :
    ∃ entry, (before.dispatcher.recentlyProvisioned.retain
      (isRecent now before.dispatcher)).find earlier.jobId = some entry ∧
        earlier.time ≤ entry.time := by
  obtain ⟨entry, found, later⟩ := held.recorded earlier member path counts
  refine ⟨entry, ?_, later⟩
  rw [Table.find_retain, found, Option.filter_some,
    if_pos (recent_of_recorded (held.past earlier member) counts later)]

/-- The entry that is made, or taken back, is of a job for which nothing counts. -/
theorem recorded_of_other {jobId : JobId} (held : Remembered now before)
    (passed : (shouldProvision now jobId before.dispatcher).1 = true) {earlier : Provisioning}
    (member : earlier ∈ before.provisionings) (path : earlier.path = .noWorkers)
    (counts : now < earlier.time + before.dispatcher.provisioningCooldown.nanos) :
    earlier.jobId ≠ jobId ∧ ∃ entry,
      (shouldProvision now jobId before.dispatcher).2.recentlyProvisioned.find earlier.jobId =
        some entry ∧ earlier.time ≤ entry.time := by
  have other : earlier.jobId ≠ jobId := by
    intro same
    have past := nothing_counts held passed member path same
    omega
  obtain ⟨entry, found, later⟩ := recorded_retained held member path counts
  refine ⟨other, entry, ?_, later⟩
  rw [(should_provision_passed passed).2]
  exact (Table.find_upsert_other _ ⟨jobId, now⟩ (Ne.symm other)).trans found

theorem effect_remembered {trigger : Option Trigger} (held : Remembered now before)
    (effect : Effect text now before after trigger) : Remembered now after := by
  have past := effect_past held effect
  have cooldown := effect_cooldown effect
  refine ⟨past, ?_⟩
  rw [cooldown]
  cases effect with
  | quiet log kept =>
      rw [log, (Prod.mk.inj kept).2]
      exact held.recorded
  | cleaned jobId log written refused =>
      rw [log, (Prod.mk.inj written).2]
      intro earlier member path counts
      rw [should_provision_refused refused]
      exact recorded_retained held member path counts
  | unguarded trigger path log kept =>
      rw [log, (Prod.mk.inj kept).2]
      intro earlier member looked counts
      cases List.mem_append.mp member with
      | inl old => exact held.recorded earlier old looked counts
      | inr new =>
          rw [(worker_new new).2] at looked
          exact absurd looked path
  | guarded trigger path passed log written =>
      rw [log]
      intro earlier member looked counts
      cases List.mem_append.mp member with
      | inl old =>
          obtain ⟨other, entry, found, later⟩ := recorded_of_other held passed old looked counts
          refine ⟨entry, ?_, later⟩
          cases written with
          | inl inserted => rw [(Prod.mk.inj inserted).2, found]
          | inr removed =>
              rw [(Prod.mk.inj removed.2).2, Table.find_delete, if_neg other, found]
      | inr new =>
          obtain ⟨some, same⟩ := worker_new new
          cases written with
          | inr removed => exact absurd removed.1 some
          | inl inserted =>
              rw [(Prod.mk.inj inserted).2, same, (should_provision_passed passed).2]
              exact ⟨⟨trigger.job.id, now⟩, Table.find_upsert_self _ _, le_refl now⟩

/-! ## One call -/

/-- The provisionings stay the cooldown apart if the new one is. -/
theorem pairwise_append_worker_iff {cooldown : Nat} {provisionings : List Provisioning}
    (apart : provisionings.Pairwise fun earlier later =>
      earlier.jobId = later.jobId → earlier.time + cooldown ≤ later.time) (trigger : Trigger) :
    ((provisionings ++ trigger.worker text now).Pairwise fun earlier later =>
        earlier.jobId = later.jobId → earlier.time + cooldown ≤ later.time) ↔
      (trigger.worker text now ≠ [] → ∀ earlier ∈ provisionings,
        earlier.jobId = trigger.job.id → earlier.time + cooldown ≤ now) := by
  rcases worker_cases trigger text now with none | one
  · rw [none, List.append_nil]
    exact iff_of_true apart fun some => absurd rfl some
  · rw [one, List.pairwise_append]
    simp [apart]

/-- The new one is unless an earlier one still counts, which only the table notices. -/
theorem effect_spaced_iff {trigger : Option Trigger} (held : Remembered now before)
    (apart : before.provisionings.Pairwise fun earlier later => earlier.jobId = later.jobId →
      earlier.time + before.dispatcher.provisioningCooldown.nanos ≤ later.time)
    (effect : Effect text now before after trigger) :
    (∀ made, trigger = some made → made.worker text now ≠ [] →
        ∀ earlier ∈ before.provisionings, earlier.jobId = made.job.id →
          now < earlier.time + before.dispatcher.provisioningCooldown.nanos →
            made.path = .noWorkers ∧ earlier.path = .noWorkers) ↔
      after.provisionings.Pairwise fun earlier later => earlier.jobId = later.jobId →
        earlier.time + before.dispatcher.provisioningCooldown.nanos ≤ later.time := by
  cases effect with
  | quiet log kept =>
      rw [log]
      exact iff_of_true (fun made none => nomatch none) apart
  | cleaned jobId log written refused =>
      rw [log]
      exact iff_of_true (fun made none => nomatch none) apart
  | unguarded trigger path log kept =>
      rw [log, pairwise_append_worker_iff apart]
      constructor
      · intro unhurried made earlier member same
        by_contra counts
        exact path (unhurried trigger rfl made earlier member same (not_le.mp counts)).1
      · intro spaced made sameTrigger worker earlier member same counts
        obtain rfl := Option.some.inj sameTrigger
        have past := spaced worker earlier member same
        omega
  | guarded trigger path passed log written =>
      rw [log, pairwise_append_worker_iff apart]
      constructor
      · intro unhurried made earlier member same
        by_contra counts
        have looked := (unhurried trigger rfl made earlier member same (not_le.mp counts)).2
        exact counts (nothing_counts held passed member looked same)
      · intro spaced made sameTrigger worker earlier member same counts
        obtain rfl := Option.some.inj sameTrigger
        have past := spaced worker earlier member same
        omega

theorem move_effect (state : DispatcherState) (move : DispatcherMove serde) :
    Effect text (state.now + move.wait) (move.found state) (state.step text view move).world
      (move.trigger text view state) := by
  unfold DispatcherState.step DispatcherMove.trigger
  cases move.call with
  | dispatchOnce answers => exact dispatch_once_effect answers
  | handleJobQueued jobId answers => exact handle_job_queued_effect answers jobId

theorem unhurried_iff {state : DispatcherState} (held : Remembered state.now state.world)
    (spaced : Spaced state) (move : DispatcherMove serde) :
    Unhurried text view state move ↔ Spaced (state.step text view move) := by
  have effect : Effect text (state.now + move.wait) (move.found state)
      (state.step text view move).world (move.trigger text view state) := move_effect state move
  have later := remembered_later held move.wait (move.others state.world.tables)
  have kept := effect_cooldown effect
  have cooldown : (state.step text view move).cooldown = state.cooldown :=
    congrArg Sagas.Duration.nanos kept
  have spaced_iff := effect_spaced_iff later spaced effect
  unfold Spaced
  rw [cooldown]
  exact spaced_iff

end

/-! ## Whole runs -/

def JobDispatcher.start (dispatcher : JobDispatcher) (now : Nat) (tables : JobTables) :
    DispatcherState where
  now
  world := { dispatcher, tables, executions := [], provisionings := [] }

/-- Two workers for one job are always provisioned the cooldown apart exactly when no worker
is provisioned within the cooldown of another by a call that does not look at the table, or
of one that did not. -/
theorem provisionings_spaced_iff (text : TextTables) (view : JobView serde)
    (dispatcher : JobDispatcher) (now : Nat) (tables : JobTables)
    (moves : List (DispatcherMove serde)) :
    Always (DispatcherState.step text view) Spaced (dispatcher.start now tables) moves ↔
      EachMove (DispatcherState.step text view) (Unhurried text view)
        (dispatcher.start now tables) moves := by
  have remembered : Remembered now (dispatcher.start now tables).world :=
    ⟨fun _ member => absurd member List.not_mem_nil,
      fun _ member => absurd member List.not_mem_nil⟩
  have runs := always_and_each_move_iff (DispatcherState.step text view)
    (fun state => Remembered state.now state.world) Spaced
    (fun state move held => effect_remembered
      (remembered_later held move.wait (move.others state.world.tables))
      (move_effect state move))
    (fun state move held spaced =>
      (unhurried_iff held spaced move).trans (and_iff_left trivial).symm)
    moves (dispatcher.start now tables) remembered List.Pairwise.nil
  rw [← runs, and_iff_left (each_move_of_forall _ (fun _ _ => trivial) moves _)]

/-! ## An event that is delivered twice -/

def onlyProvider : ProviderInfo where
  providerId := ⟨0⟩
  providerType := .docker
  activeWorkers := 0
  maxWorkers := 10
  estimatedStartupTime := .fromSecs 5
  healthScore := 1
  costPerHour := 0
  gpuSupport := false

def provisioningDispatcher : JobDispatcher :=
  { plainDispatcher with
    scheduler := ⟨⟨.leastLoaded, .firstAvailable, 100, 8 / 10⟩, 0, 0⟩
    hasProvisioningService := true }

/-- `JobQueued` for a job that no worker is there for. -/
def jobQueued (state : Shared.JobState) (wait : Nat) :
    DispatcherMove (plainSerde noPreferences) where
  wait
  others := id
  call := .handleJobQueued ⟨1⟩
    { found := fun _ => .ok (some (plainJob noPreferences state))
      associatedWorker := fun _ => .ok none
      foundAgain := fun _ => .ok (some (plainJob noPreferences state))
      dispatch :=
        { plainAnswers (.ok []) with
          provisioning :=
            { enabledProviders := .ok [onlyProvider]
              defaultWorkerSpec := fun _ => some .new
              provision := fun _ _ _ => .ok ⟨7⟩
              tablesAfter := id } }
      request :=
        { enabledProviders := .ok [onlyProvider]
          providerRegistered := fun _ => .ok true
          executionId := "exec-1"
          updateFailure := none }
      nested := plainAnswers (.ok []) }

/-- Two workers are provisioned a second apart. -/
theorem duplicate_event_provisions_twice :
    ¬Always (DispatcherState.step asciiTables plainView) Spaced
      (provisioningDispatcher.start 0 .empty)
      [jobQueued .pending 0, jobQueued .assigned 1000000000] := by
  intro always
  have final := always_final _ _ _ always
  have twice : ([jobQueued .pending 0, jobQueued .assigned 1000000000].foldl
      (DispatcherState.step asciiTables plainView)
        (provisioningDispatcher.start 0 .empty)).world.provisionings =
      [⟨.requested, ⟨1⟩, 0⟩, ⟨.requested, ⟨1⟩, 1000000000⟩] := by
    decide
  rw [Spaced, twice] at final
  exact absurd final (by decide)

end HodeiJobs.Scheduling
