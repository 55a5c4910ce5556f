import Mathlib.Data.List.Sort
import HodeiJobs.Library.Program
import HodeiJobs.Library.Table
import HodeiJobs.Sagas.Types
import HodeiJobs.Shared.States

/-!
# Jobs, workers and their repositories

The part of the `Job` and `Worker` aggregates that the execution saga reads or
writes, and the calls of `PostgresJobRepository` and `PostgresWorkerRegistry`
that its command handlers make. A table holds what its rows decode to.
-/

namespace HodeiJobs.Execution

open HodeiJobs.Library HodeiJobs.Shared
open HodeiJobs.Sagas (Uuid DateTime)

/-! ## Identifiers -/

structure JobId where
  uuid : Uuid
  deriving DecidableEq, Repr

structure WorkerId where
  uuid : Uuid
  deriving DecidableEq, Repr

/-- The text of a UUID (the same for `{}` and `{:?}`) and `Uuid::parse_str`,
which reads it back. -/
structure UuidText where
  display : Uuid → String
  parse : String → Option Uuid
  parse_display : ∀ id, parse (display id) = some id

/-! ## Aggregates -/

/-- The `DomainError` variants that these calls return. -/
inductive DomainError where
  | infrastructureError (message : String)
  | invalidStateTransition (jobId : JobId) (fromState toState : JobState)
  deriving DecidableEq

structure Job where
  id : JobId
  state : JobState
  startedAt : Option DateTime
  completedAt : Option DateTime
  result : Option JobResult
  errorMessage : Option String
  attempts : Nat
  deriving DecidableEq

namespace Job

def setState (job : Job) (newState : JobState) : Except DomainError Job :=
  if job.state.canTransitionTo newState then .ok { job with state := newState }
  else .error (.invalidStateTransition job.id job.state newState)

def markRunning (job : Job) (now : DateTime) : Except DomainError Job :=
  if job.state.canTransitionTo .running then
    .ok { job with state := .running, startedAt := some now }
  else .error (.invalidStateTransition job.id job.state .running)

def complete (job : Job) (result : JobResult) (now : DateTime) : Except DomainError Job :=
  if job.state.canTransitionTo result.state then
    .ok { job with state := result.state, completedAt := some now, result := some result }
  else .error (.invalidStateTransition job.id job.state result.state)

def fail (job : Job) (errorMessage : String) (now : DateTime) : Except DomainError Job :=
  if job.state.canTransitionTo .failed then
    .ok { job with
      state := .failed
      completedAt := some now
      errorMessage := some errorMessage
      attempts := job.attempts + 1 }
  else .error (.invalidStateTransition job.id job.state .failed)

def timeout (job : Job) (now : DateTime) : Except DomainError Job :=
  if job.state.canTransitionTo .timeout then
    .ok { job with
      state := .timeout
      completedAt := some now
      result := some .timeout
      attempts := job.attempts + 1 }
  else .error (.invalidStateTransition job.id job.state .timeout)

end Job

structure Worker where
  id : WorkerId
  state : WorkerState
  currentJobId : Option JobId
  lastHeartbeat : Option DateTime
  createdAt : DateTime
  updatedAt : DateTime
  deriving DecidableEq

/-- The fields that `WorkerFilter::new().with_state(..).accepting_jobs()` sets. -/
structure WorkerFilter where
  states : Option (List WorkerState)
  canAcceptJobs : Option Bool

/-! ## Tables -/

structure Tables where
  jobs : Table Job.id
  jobQueue : List JobId
  workers : Table Worker.id

namespace Tables

/-- `PostgresJobRepository::save`: a pending job is enqueued with it. -/
def saveJob (tables : Tables) (job : Job) : Tables :=
  { tables with
    jobs := tables.jobs.upsert job
    jobQueue := if job.state = .pending ∧ job.id ∉ tables.jobQueue then
      tables.jobQueue ++ [job.id] else tables.jobQueue }

/-- `UPDATE jobs SET state = $1 … WHERE id = $2`. -/
def updateJobState (tables : Tables) (jobId : JobId) (state : JobState) : Tables :=
  { tables with
    jobs := tables.jobs.update jobId (fun job => { job with state := state }) (fun _ => rfl) }

/-- `UPDATE workers SET state = $1, updated_at = NOW() WHERE id = $2`. -/
def updateWorkerState (tables : Tables) (now : DateTime) (workerId : WorkerId)
    (state : WorkerState) : Tables :=
  { tables with
    workers := tables.workers.update workerId
      (fun worker => { worker with state := state, updatedAt := now }) (fun _ => rfl) }

/-- `UPDATE workers SET current_job_id = $1, state = 'BUSY' … WHERE id = $3`, which
is both `assign_to_job` and `mark_busy`. -/
def markBusy (tables : Tables) (now : DateTime) (workerId : WorkerId) (jobId : Option JobId) :
    Tables :=
  { tables with
    workers := tables.workers.update workerId
      (fun worker => { worker with currentJobId := jobId, state := .busy, updatedAt := now })
      (fun _ => rfl) }

/-- `UPDATE workers SET current_job_id = NULL, state = 'TERMINATED' … WHERE id = $2`. -/
def releaseFromJob (tables : Tables) (now : DateTime) (workerId : WorkerId) : Tables :=
  { tables with
    workers := tables.workers.update workerId
      (fun worker => { worker with currentJobId := none, state := .terminated, updatedAt := now })
      (fun _ => rfl) }

/-- `DELETE FROM workers WHERE id = $1`. -/
def unregister (tables : Tables) (workerId : WorkerId) : Tables :=
  { tables with workers := tables.workers.delete workerId }

/-- `SELECT … FROM jobs WHERE state = $1`. -/
def findJobsByState (tables : Tables) (state : JobState) : List Job :=
  tables.jobs.rows.filter fun job => decide (job.state = state)

/-- `SELECT … WHERE current_job_id = $1 LIMIT 1`. -/
def getByJobId (tables : Tables) (jobId : JobId) : Option Worker :=
  tables.workers.findWhere fun worker => decide (worker.currentJobId = some jobId)

/-- `SELECT … WHERE state = 'READY' AND current_job_id IS NULL`. -/
def findAvailable (tables : Tables) : List Worker :=
  tables.workers.rows.filter fun worker =>
    decide (worker.state = .ready ∧ worker.currentJobId = none)

/-- `PostgresWorkerRegistry::find`, newest first. It does not read
`can_accept_jobs`. -/
def findWorkers (tables : Tables) (filter : WorkerFilter) : List Worker :=
  let selected := match filter.states with
    | some (state :: states) =>
        tables.workers.rows.filter fun worker : Worker => decide (worker.state ∈ state :: states)
    | _ => tables.workers.rows
  selected.insertionSort fun left right => right.createdAt ≤ left.createdAt

theorem mem_of_find_workers {tables : Tables} {filter : WorkerFilter} {worker : Worker}
    (found : worker ∈ tables.findWorkers filter) : worker ∈ tables.workers.rows := by
  unfold findWorkers at found
  rw [List.mem_insertionSort] at found
  split at found
  · exact List.mem_of_mem_filter found
  · exact found

/-- `find` answers with workers in one of the states asked for. -/
theorem state_of_find_workers {tables : Tables} {filter : WorkerFilter} {state : WorkerState}
    (asked : filter.states = some [state]) {worker : Worker}
    (found : worker ∈ tables.findWorkers filter) : worker.state = state := by
  unfold findWorkers at found
  rw [List.mem_insertionSort, asked] at found
  simpa using (List.mem_filter.mp found).2

@[simp] theorem save_job_workers (tables : Tables) (job : Job) :
    (tables.saveJob job).workers = tables.workers := rfl

@[simp] theorem update_job_state_workers (tables : Tables) (jobId : JobId) (state : JobState) :
    (tables.updateJobState jobId state).workers = tables.workers := rfl

theorem find_job_save (tables : Tables) (job : Job) :
    (tables.saveJob job).jobs.find job.id = some job :=
  Table.find_upsert_self tables.jobs job

theorem find_job_update_state (tables : Tables) (jobId : JobId) (state : JobState) :
    (tables.updateJobState jobId state).jobs.find jobId =
      (tables.jobs.find jobId).map fun job => { job with state := state } := by
  unfold updateJobState
  rw [Table.find_update, if_pos rfl]

theorem find_worker_update_state (tables : Tables) (now : DateTime) (workerId other : WorkerId)
    (state : WorkerState) :
    (tables.updateWorkerState now workerId state).workers.find other =
      if other = workerId then
        (tables.workers.find other).map fun worker =>
          { worker with state := state, updatedAt := now }
      else tables.workers.find other := by
  unfold updateWorkerState
  rw [Table.find_update]

theorem find_worker_release_from_job (tables : Tables) (now : DateTime)
    (workerId other : WorkerId) :
    (tables.releaseFromJob now workerId).workers.find other =
      if other = workerId then
        (tables.workers.find other).map fun worker =>
          { worker with currentJobId := none, state := .terminated, updatedAt := now }
      else tables.workers.find other := by
  unfold releaseFromJob
  rw [Table.find_update]

theorem find_worker_mark_busy (tables : Tables) (now : DateTime) (workerId other : WorkerId)
    (jobId : Option JobId) :
    (tables.markBusy now workerId jobId).workers.find other =
      if other = workerId then
        (tables.workers.find other).map fun worker =>
          { worker with currentJobId := jobId, state := .busy, updatedAt := now }
      else tables.workers.find other := by
  unfold markBusy
  rw [Table.find_update]

/-- The worker linked to a job is known by its id. -/
theorem get_by_job_id_eq_some_iff {tables : Tables} {worker : Worker}
    (registered : tables.workers.find worker.id = some worker) (jobId : JobId) :
    (tables.getByJobId jobId).map Worker.id = some worker.id ↔
      tables.getByJobId jobId = some worker := by
  constructor
  · intro sameId
    obtain ⟨linked, found, linkedId⟩ := Option.map_eq_some_iff.mp sameId
    have row := Table.find_where_find found
    rw [linkedId, registered] at row
    rw [found, row]
  · intro found
    rw [found]
    rfl

/-- Changing the state of a worker changes no link to a job. -/
theorem get_by_job_id_update_state (tables : Tables) (now : DateTime) (workerId : WorkerId)
    (state : WorkerState) (jobId : JobId) :
    ((tables.updateWorkerState now workerId state).getByJobId jobId).map Worker.id =
      (tables.getByJobId jobId).map Worker.id := by
  unfold getByJobId updateWorkerState
  rw [Table.find_where_update, Option.map_map]
  · congr 1
    funext worker
    simp only [Function.comp_apply]
    split_ifs <;> rfl
  · intro worker
    rfl

end Tables

/-! ## Calls -/

/-- The places from which the handlers and compensations call a repository. -/
inductive CallSite where
  | validateFindJob
  | assignFindWorker
  | assignFindWorkers
  | assignFindJob
  | assignUpdateJob
  | assignUpdateWorker
  | assignFinalWorker
  | executeFindJob
  | executeFindWorker
  | executeUpdateJob
  | executorFindJob
  | executorSendRunJob
  | executorUpdateJob
  | executorInsertEvents
  | completeFindJob
  | completeUpdateJob
  | completeFindWorker
  | completeUpdateWorker
  | undoAssignFindWorker
  | undoAssignUpdateWorker
  | undoAssignFindJob
  | undoAssignUpdateJob
  | undoExecuteFindJob
  | undoExecuteUpdateJob
  | resultFindJob
  | resultUpdateRunning
  | resultUpdateJob
  | resultFindWorker
  | resultReleaseWorker
  | acknowledgedFindJob
  | acknowledgedUpdateJob
  | cleanupFindWorkers
  | cleanupFindJobs
  | cleanupUnregister
  | resetFindJob
  | resetUpdateJob
  | stateFindJob
  | stateUpdateJob
  | timedOutFindJob
  | timedOutUpdateJob
  | recoveryFindJob
  | recoveryUpdateJob
  | transferFindJob
  | transferUpdateWorker
  | transferUpdateJob
  | undoTransferUpdateJob
  | undoResetUpdateJob
  | releaseFindWorker
  | releaseUpdateWorker
  | terminateFindWorker
  | terminateUpdateWorker
  | timeoutFindJob
  | timeoutFindWorker
  | timeoutFindReleased
  | undoTerminateUpdateWorker
  | undoReleaseUpdateWorker
  | cancellationFindJob
  | cancellationFindWorker
  | cancellationPublish
  | registryAssignToJob
  | registryMarkBusy
  | registryReleaseFromJob
  | dispatchFindJob
  | dispatchFindWorker
  deriving DecidableEq

inductive Op where
  | findJob (site : CallSite) (jobId : JobId)
  | updateJob (site : CallSite) (job : Job)
  | updateJobState (site : CallSite) (jobId : JobId) (state : JobState)
  | findWorker (site : CallSite) (workerId : WorkerId)
  | findWorkers (site : CallSite) (filter : WorkerFilter)
  | updateWorkerState (site : CallSite) (workerId : WorkerId) (state : WorkerState)
  | getByJobId (site : CallSite) (jobId : JobId)
  | markBusy (site : CallSite) (workerId : WorkerId) (jobId : Option JobId)
  | releaseFromJob (site : CallSite) (workerId : WorkerId)
  | unregister (site : CallSite) (workerId : WorkerId)
  | findAvailable (site : CallSite)
  | findJobsByState (site : CallSite) (state : JobState)
  | sendRunJob (workerId : WorkerId) (job : Job)
  | publishJobCancelled (jobId : JobId)
  | insertJobStarted (jobId : JobId) (workerId : WorkerId)
  | now
  | newV4

def Op.Reply : Op → Type
  | .findJob _ _ => Except DomainError (Option Job)
  | .updateJob _ _ => Except DomainError Unit
  | .updateJobState _ _ _ => Except DomainError Unit
  | .findWorker _ _ => Except DomainError (Option Worker)
  | .findWorkers _ _ => Except DomainError (List Worker)
  | .updateWorkerState _ _ _ => Except DomainError Unit
  | .getByJobId _ _ => Except DomainError (Option Worker)
  | .markBusy _ _ _ => Except DomainError Unit
  | .releaseFromJob _ _ => Except DomainError Unit
  | .unregister _ _ => Except DomainError Unit
  | .findAvailable _ => Except DomainError (List Worker)
  | .findJobsByState _ _ => Except DomainError (List Job)
  | .sendRunJob _ _ => Except DomainError Unit
  | .publishJobCancelled _ => Except DomainError Unit
  | .insertJobStarted _ _ => Except DomainError Unit
  | .now => DateTime
  | .newV4 => Uuid

/-- Code that may stop with an error of type `Failure`. -/
abbrev CallM (Failure : Type) := ExceptT Failure (Program Op Op.Reply)

def call {Failure : Type} (op : Op) : CallM Failure (Op.Reply op) :=
  ExceptT.lift (Program.request op)

/-- What the environment decides: which calls fail, the clock, a fresh id. -/
structure Env where
  fault : CallSite → Option DomainError
  now : DateTime
  newV4 : Uuid

/-- A call that fails changes nothing. -/
def Env.answer {Value : Type} (env : Env) (site : CallSite) (value : Value)
    (tables after : Tables) : Except DomainError Value × Tables :=
  match env.fault site with
  | some error => (.error error, tables)
  | none => (.ok value, after)

theorem answer_workers (env : Env) (site : CallSite) {Value : Type} (value : Value)
    {tables after : Tables} (same : after.workers = tables.workers) :
    (env.answer site value tables after).2.workers = tables.workers := by
  unfold Env.answer
  cases env.fault site with
  | none => exact same
  | some error => rfl

theorem answer_ok {env : Env} {site : CallSite} {Value : Type} {value read : Value}
    {tables after : Tables} (answered : (env.answer site value tables after).1 = .ok read) :
    read = value := by
  unfold Env.answer at answered
  cases fault : env.fault site with
  | none =>
      rw [fault] at answered
      exact (Except.ok.inj answered).symm
  | some error =>
      rw [fault] at answered
      cases answered

theorem answer_ok_after {env : Env} {site : CallSite} {Value : Type} {value read : Value}
    {tables after : Tables} (answered : (env.answer site value tables after).1 = .ok read) :
    (env.answer site value tables after).2 = after := by
  unfold Env.answer at answered ⊢
  cases fault : env.fault site with
  | none => rfl
  | some error =>
      rw [fault] at answered
      cases answered

def handle (env : Env) : (op : Op) → Tables → Op.Reply op × Tables
  | .findJob site jobId, tables => env.answer site (tables.jobs.find jobId) tables tables
  | .updateJob site job, tables => env.answer site () tables (tables.saveJob job)
  | .updateJobState site jobId state, tables =>
      env.answer site () tables (tables.updateJobState jobId state)
  | .findWorker site workerId, tables =>
      env.answer site (tables.workers.find workerId) tables tables
  | .findWorkers site filter, tables => env.answer site (tables.findWorkers filter) tables tables
  | .updateWorkerState site workerId state, tables =>
      env.answer site () tables (tables.updateWorkerState env.now workerId state)
  | .getByJobId site jobId, tables => env.answer site (tables.getByJobId jobId) tables tables
  | .markBusy site workerId jobId, tables =>
      env.answer site () tables (tables.markBusy env.now workerId jobId)
  | .releaseFromJob site workerId, tables =>
      env.answer site () tables (tables.releaseFromJob env.now workerId)
  | .unregister site workerId, tables =>
      env.answer site () tables (tables.unregister workerId)
  | .findAvailable site, tables => env.answer site tables.findAvailable tables tables
  | .findJobsByState site state, tables =>
      env.answer site (tables.findJobsByState state) tables tables
  | .sendRunJob _ _, tables => env.answer .executorSendRunJob () tables tables
  | .publishJobCancelled _, tables => env.answer .cancellationPublish () tables tables
  | .insertJobStarted _ _, tables => env.answer .executorInsertEvents () tables tables
  | .now, tables => (env.now, tables)
  | .newV4, tables => (env.newV4, tables)

theorem answer_cases (env : Env) (site : CallSite) {Value : Type} (value : Value)
    (tables after : Tables) :
    (env.answer site value tables after).2 = tables ∨
      (env.answer site value tables after).2 = after := by
  unfold Env.answer
  cases env.fault site with
  | none => exact .inr rfl
  | some error => exact .inl rfl

/-- What a call can do to the jobs. -/
theorem handle_jobs_cases (env : Env) (op : Op) (tables : Tables) :
    (handle env op tables).2.jobs = tables.jobs ∨
      (∃ site job, op = .updateJob site job ∧ (handle env op tables).2 = tables.saveJob job) ∨
      ∃ site jobId state, op = .updateJobState site jobId state ∧
        (handle env op tables).2 = tables.updateJobState jobId state := by
  have kept : ∀ {Value : Type} (site : CallSite) (value : Value) (after : Tables),
      after.jobs = tables.jobs → (env.answer site value tables after).2.jobs = tables.jobs := by
    intro Value site value after same
    rcases answer_cases env site value tables after with before | done
    · rw [before]
    · rw [done, same]
  cases op with
  | findJob site jobId => exact .inl (kept site _ _ rfl)
  | updateJob site job =>
      rcases answer_cases env site () tables (tables.saveJob job) with before | done
      · exact .inl (congrArg Tables.jobs before)
      · exact .inr (.inl ⟨site, job, rfl, done⟩)
  | updateJobState site jobId state =>
      rcases answer_cases env site () tables (tables.updateJobState jobId state) with before | done
      · exact .inl (congrArg Tables.jobs before)
      · exact .inr (.inr ⟨site, jobId, state, rfl, done⟩)
  | findWorker site workerId => exact .inl (kept site _ _ rfl)
  | findWorkers site filter => exact .inl (kept site _ _ rfl)
  | updateWorkerState site workerId state => exact .inl (kept site _ _ rfl)
  | getByJobId site jobId => exact .inl (kept site _ _ rfl)
  | markBusy site workerId jobId => exact .inl (kept site _ _ rfl)
  | releaseFromJob site workerId => exact .inl (kept site _ _ rfl)
  | unregister site workerId => exact .inl (kept site _ _ rfl)
  | findAvailable site => exact .inl (kept site _ _ rfl)
  | findJobsByState site state => exact .inl (kept site _ _ rfl)
  | sendRunJob workerId job => exact .inl (kept _ _ _ rfl)
  | publishJobCancelled jobId => exact .inl (kept _ _ _ rfl)
  | insertJobStarted jobId workerId => exact .inl (kept _ _ _ rfl)
  | now => exact .inl rfl
  | newV4 => exact .inl rfl

/-- What a call can do to the workers. -/
theorem handle_workers_cases (env : Env) (op : Op) (tables : Tables) :
    (handle env op tables).2.workers = tables.workers ∨
      (∃ site workerId state, op = .updateWorkerState site workerId state ∧
        (handle env op tables).2 = tables.updateWorkerState env.now workerId state) ∨
      (∃ site workerId jobId, op = .markBusy site workerId jobId ∧
        (handle env op tables).2 = tables.markBusy env.now workerId jobId) ∨
      (∃ site workerId, op = .releaseFromJob site workerId ∧
        (handle env op tables).2 = tables.releaseFromJob env.now workerId) ∨
      ∃ site workerId, op = .unregister site workerId := by
  cases op with
  | findJob site jobId => exact .inl (answer_workers env site _ rfl)
  | updateJob site job => exact .inl (answer_workers env site _ rfl)
  | updateJobState site jobId state => exact .inl (answer_workers env site _ rfl)
  | findWorker site workerId => exact .inl (answer_workers env site _ rfl)
  | findWorkers site filter => exact .inl (answer_workers env site _ rfl)
  | updateWorkerState site workerId state =>
      rcases answer_cases env site () tables (tables.updateWorkerState env.now workerId state) with
        before | done
      · exact .inl (congrArg Tables.workers before)
      · exact .inr (.inl ⟨site, workerId, state, rfl, done⟩)
  | getByJobId site jobId => exact .inl (answer_workers env site _ rfl)
  | markBusy site workerId jobId =>
      rcases answer_cases env site () tables (tables.markBusy env.now workerId jobId) with
        before | done
      · exact .inl (congrArg Tables.workers before)
      · exact .inr (.inr (.inl ⟨site, workerId, jobId, rfl, done⟩))
  | releaseFromJob site workerId =>
      rcases answer_cases env site () tables (tables.releaseFromJob env.now workerId) with
        before | done
      · exact .inl (congrArg Tables.workers before)
      · exact .inr (.inr (.inr (.inl ⟨site, workerId, rfl, done⟩)))
  | unregister site workerId => exact .inr (.inr (.inr (.inr ⟨site, workerId, rfl⟩)))
  | findAvailable site => exact .inl (answer_workers env site _ rfl)
  | findJobsByState site state => exact .inl (answer_workers env site _ rfl)
  | sendRunJob workerId job => exact .inl (answer_workers env _ _ rfl)
  | publishJobCancelled jobId => exact .inl (answer_workers env _ _ rfl)
  | insertJobStarted jobId workerId => exact .inl (answer_workers env _ _ rfl)
  | now => exact .inl rfl
  | newV4 => exact .inl rfl

end HodeiJobs.Execution
