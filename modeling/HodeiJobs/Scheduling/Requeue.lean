import HodeiJobs.Persistence.JobQueue
import HodeiJobs.Scheduling.JobDispatcher

/-!
# What becomes of a dequeued job

A job that was dequeued is assigned and in no queue. Each way out of the dispatch cycle
has to run it or to queue it again; the ways out by an early return do neither.
-/

namespace HodeiJobs.Scheduling

open HodeiJobs.Execution (JobId)
open HodeiJobs.Persistence (JobTables Serde plainJob)

variable {serde : Serde}

/-! ## The claim and the condition -/

def InQueue (tables : JobTables) (jobId : JobId) : Prop :=
  tables.stateOf jobId = some "PENDING" ∧ tables.queued jobId = true

/-- The execution saga of the job has completed, or the job is in the queue. -/
def Settled (before after : DispatchWorld) (jobId : JobId) : Prop :=
  (∃ workerId, after.executions = before.executions ++ [(jobId, workerId)]) ∨
    InQueue after.tables jobId

/-- An `enqueue` of the job does not fail, for lack of the database or of the job. -/
structure EnqueueWorks (answers : DispatchAnswers) (jobId : JobId) : Prop where
  answered : answers.enqueueFailure = none
  stored : ∀ tables : JobTables, tables.stateOf jobId ≠ none →
    (answers.provisioning.tablesAfter tables).stateOf jobId ≠ none

/-- The available workers can be listed, and if one of them is healthy the queue can be
counted, and if the scheduler then assigns the job its execution saga succeeds, or fails and
leaves the job in the queue. -/
def GoesThrough (text : TextTables) (view : JobView serde) (answers : DispatchAnswers)
    (job : Persistence.Job serde) (world : DispatchWorld) : Prop :=
  ∃ available, answers.availableWorkers = .ok available ∧
    (available.filter (isHealthy world.dispatcher answers.utcNow) = [] ∨
      ∃ queueLength, answers.queueLength = .ok queueLength ∧
        ∀ jobId workerId,
          (world.dispatcher.scheduler.schedule text (schedulingContext answers (view.job job)
            (available.filter (isHealthy world.dispatcher answers.utcNow)) queueLength)).1 =
              .assignToWorker jobId workerId →
            world.dispatcher.hasExecutionSagaDispatcher = true ∧
              ((answers.executionSaga job.id workerId world.tables).1 = .ok () ∨
                InQueue (answers.executionSaga job.id workerId world.tables).2 job.id))

/-! ## The ways out -/

variable {text : TextTables} {view : JobView serde} {now : Nat} {answers : DispatchAnswers}
  {jobId : JobId} {world : DispatchWorld}

theorem enqueue_in_queue (works : EnqueueWorks answers jobId)
    (stored : world.tables.stateOf jobId ≠ none) :
    InQueue (enqueue answers jobId world).2.tables jobId := by
  unfold enqueue
  rw [works.answered]
  obtain ⟨state, stateOf⟩ := Option.ne_none_iff_exists'.mp stored
  constructor
  · rw [Persistence.enqueue_state, stateOf, Option.map_some]
  · obtain ⟨row, found, -⟩ := Option.map_eq_some_iff.mp stateOf
    simp [JobTables.enqueue, found, JobTables.insert_into_queue_queued]

/-- Without a worker the job is queued again on every way out. -/
theorem no_workers_in_queue {job : Job} (works : EnqueueWorks answers job.id)
    (stored : world.tables.stateOf job.id ≠ none) :
    InQueue (handleNoAvailableWorkers text now answers job world).2.tables job.id := by
  have provisioned := works.stored world.tables stored
  unfold handleNoAvailableWorkers
  cases consulted : (shouldProvision now job.id world.dispatcher).1 with
  | false =>
      simp only [consulted, Bool.false_eq_true, if_false]
      exact enqueue_in_queue works stored
  | true =>
      simp only [consulted, if_true]
      split
      · exact enqueue_in_queue works provisioned
      · exact enqueue_in_queue works provisioned

theorem not_settled_of_unchanged {after : DispatchWorld}
    (executions : after.executions = world.executions)
    (absent : ¬InQueue after.tables jobId) : ¬Settled world after jobId := by
  intro settled
  cases settled with
  | inl executed =>
      obtain ⟨workerId, appended⟩ := executed
      rw [executions, List.self_eq_append_right] at appended
      cases appended
  | inr queued => exact absent queued

theorem dispatch_to_worker_settled_iff {workerId : Execution.WorkerId}
    (absent : ¬InQueue world.tables jobId) :
    Settled world (dispatchJobToWorker answers jobId workerId world).2 jobId ↔
      world.dispatcher.hasExecutionSagaDispatcher = true ∧
        ((answers.executionSaga jobId workerId world.tables).1 = .ok () ∨
          InQueue (answers.executionSaga jobId workerId world.tables).2 jobId) := by
  unfold dispatchJobToWorker
  cases configured : world.dispatcher.hasExecutionSagaDispatcher with
  | false =>
      apply iff_of_false
      · exact not_settled_of_unchanged rfl absent
      · simp
  | true =>
      simp only [if_true, true_and]
      rcases answers.executionSaga jobId workerId world.tables with ⟨_ | _, tables⟩
      · simp only [reduceCtorEq, false_or]
        constructor
        · intro settled
          by_contra missing
          exact not_settled_of_unchanged rfl missing settled
        · exact fun queued => .inr queued
      · exact iff_of_true (.inl ⟨workerId, rfl⟩) (.inl rfl)

theorem decide_settled_iff {job : Persistence.Job serde} {workers : List Workers.Worker}
    (works : EnqueueWorks answers job.id) (stored : world.tables.stateOf job.id ≠ none)
    (absent : ¬InQueue world.tables job.id) :
    Settled world (decideAndExecute text view now answers job workers world).2 job.id ↔
      ∃ queueLength, answers.queueLength = .ok queueLength ∧
        ∀ jobId workerId,
          (world.dispatcher.scheduler.schedule text
            (schedulingContext answers (view.job job) workers queueLength)).1 =
              .assignToWorker jobId workerId →
            world.dispatcher.hasExecutionSagaDispatcher = true ∧
              ((answers.executionSaga job.id workerId world.tables).1 = .ok () ∨
                InQueue (answers.executionSaga job.id workerId world.tables).2 job.id) := by
  unfold decideAndExecute makeSchedulingDecision
  cases counted : answers.queueLength with
  | error error =>
      apply iff_of_false
      · exact not_settled_of_unchanged rfl absent
      · simp
  | ok queueLength =>
      simp only [Except.ok.injEq, exists_eq_left']
      rcases world.dispatcher.scheduler.schedule text
        (schedulingContext answers (view.job job) workers queueLength) with ⟨decision, scheduler⟩
      cases decision with
      | assignToWorker jobId workerId =>
          simp only [SchedulingDecision.assignToWorker.injEq, and_imp, forall_apply_eq_imp_iff,
            forall_eq']
          exact dispatch_to_worker_settled_iff absent
      | provisionWorker jobId providerId =>
          apply iff_of_true
          · exact .inr (enqueue_in_queue works (works.stored world.tables stored))
          · simp
      | enqueue jobId reason =>
          apply iff_of_true
          · exact .inr (enqueue_in_queue works stored)
          · simp
      | reject jobId reason =>
          apply iff_of_true
          · exact .inr (enqueue_in_queue works stored)
          · simp

/-- A dequeued job is stored and not in the queue. -/
theorem dequeued_absent {tables : JobTables} {choice : Nat} {job : Persistence.Job serde}
    (dequeued : (Persistence.JobQueue.dequeue serde tables choice).1 = .ok (some job)) :
    (Persistence.JobQueue.dequeue serde tables choice).2.stateOf job.id ≠ none ∧
      ¬InQueue (Persistence.JobQueue.dequeue serde tables choice).2 job.id := by
  have returned : Persistence.QueueMove.returned serde tables choice = some job.id := by
    rw [Persistence.QueueMove.returned, dequeued]
  obtain ⟨-, unqueued, assigned⟩ := Persistence.returned_some returned
  constructor
  · rw [assigned]
    exact Option.some_ne_none _
  · intro inQueue
    rw [InQueue, unqueued] at inQueue
    exact absurd inQueue.2 Bool.false_ne_true

/-- When `dispatch_once` has dequeued a job, the job is run or queued again exactly when
every call that it returns on early goes through. -/
theorem dispatch_once_settles_iff (text : TextTables) (view : JobView serde) (now : Nat)
    (answers : DispatchAnswers) (world : DispatchWorld) (job : Persistence.Job serde)
    (reached : answers.dequeueFailure = none)
    (dequeued : (Persistence.JobQueue.dequeue serde world.tables answers.dequeueChoice).1 =
      .ok (some job))
    (works : EnqueueWorks answers job.id) :
    Settled world (dispatchOnce text view now answers world).2 job.id ↔
      GoesThrough text view answers job { world with
        tables := (Persistence.JobQueue.dequeue serde world.tables answers.dequeueChoice).2 } := by
  obtain ⟨stored, absent⟩ := dequeued_absent dequeued
  unfold dispatchOnce
  rw [reached]
  simp only [dequeued]
  unfold dispatchDequeued queryHealthyWorkers GoesThrough
  cases listed : answers.availableWorkers with
  | error error =>
      apply iff_of_false
      · exact not_settled_of_unchanged rfl absent
      · simp
  | ok available =>
      simp only [Except.ok.injEq, exists_eq_left']
      cases healthy : available.filter (isHealthy world.dispatcher answers.utcNow) with
      | nil => exact iff_of_true (.inr (no_workers_in_queue works stored)) (.inl rfl)
      | cons worker rest =>
          simp only [List.isEmpty_cons, Bool.false_eq_true, if_false, reduceCtorEq, false_or]
          exact decide_settled_iff works stored absent

/-! ## A registry that cannot be read -/

/-- One pending job. -/
def plainWorld : DispatchWorld where
  dispatcher := plainDispatcher
  tables := (JobTables.empty.save (plainJob noPreferences .pending)).2
  executions := []
  provisionings := []

/-- The job stays assigned and in no queue. -/
theorem unreadable_registry_loses_job :
    ¬Settled plainWorld
      (dispatchOnce asciiTables plainView 0
        (plainAnswers (.error (.infrastructureError "connection reset"))) plainWorld).2 ⟨1⟩ := by
  apply not_settled_of_unchanged rfl
  intro inQueue
  exact absurd inQueue.1 (by decide)

/-- Without a worker the job is queued again. -/
theorem job_without_worker_settles :
    Settled plainWorld
      (dispatchOnce asciiTables plainView 0 (plainAnswers (.ok [])) plainWorld).2 ⟨1⟩ := by
  have works : EnqueueWorks (plainAnswers (.ok [])) ⟨1⟩ := ⟨rfl, fun _ stored => stored⟩
  have settles := dispatch_once_settles_iff asciiTables plainView 0 (plainAnswers (.ok []))
    plainWorld _ rfl rfl works
  exact settles.mpr ⟨[], rfl, .inl rfl⟩

end HodeiJobs.Scheduling
