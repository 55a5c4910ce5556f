import HodeiJobs.Jobs.Aggregate
import HodeiJobs.Library.Runs

/-!
# Status reports on stored jobs

The methods of `Job` ask the state machine before they move a job.
`JobStatusTracker::update_job_status` writes the state of the report without asking.
-/

namespace HodeiJobs.Jobs

open HodeiJobs.Library HodeiJobs.Shared
open HodeiJobs.Sagas (DateTime)
open HodeiJobs.Execution (JobId)

/-- The stored jobs. -/
abbrev StoredJobs := JobId → Option Job

/-- The errors that the repository returns for one report, where it fails. -/
structure RepositoryFaults where
  findById : Option DomainError
  update : Option DomainError
  deriving DecidableEq

def ExecutionStatus.jobState : ExecutionStatus → JobState
  | .running => .running
  | .succeeded => .succeeded
  | .failed => .failed
  | .cancelled => .cancelled
  | .timedOut => .timeout
  | .submitted | .queued => .scheduled

/-- What the report makes of the job that was found. -/
def Job.reported (job : Job) (newStatus : ExecutionStatus) (result : Option JobResult)
    (now : DateTime) : Job :=
  let context := job.executionContext.map fun context =>
    let context := context.updateStatus newStatus now
    { context with result := result.or context.result }
  let job := { job with executionContext := context }
  let newJobState := newStatus.jobState
  let job := if job.state ≠ newJobState then { job with state := newJobState } else job
  match result with
  | some jobResult => { job with result := some jobResult, completedAt := some now }
  | none => job

def updateJobStatus (jobs : StoredJobs) (jobId : JobId) (newStatus : ExecutionStatus)
    (result : Option JobResult) (now : DateTime) (faults : RepositoryFaults) :
    Except DomainError Unit × StoredJobs :=
  match faults.findById with
  | some error => (.error error, jobs)
  | none =>
      match jobs jobId with
      | none => (.error (.jobNotFound jobId), jobs)
      | some job =>
          match faults.update with
          | some error => (.error error, jobs)
          | none => (.ok (), Function.update jobs jobId (some (job.reported newStatus result now)))

/-! ## Runs -/

inductive StoredOperation where
  | method (jobId : JobId) (operation : JobOperation)
  | queue (jobId : JobId)
  | setAttempts (jobId : JobId) (attempts : Nat)
  | setState (jobId : JobId) (newState : JobState)
  | updateJobStatus (jobId : JobId) (newStatus : ExecutionStatus) (result : Option JobResult)
      (now : DateTime) (faults : RepositoryFaults)

namespace StoredJobs

/-- A stored job is read, changed and written back if the method succeeds. -/
def change (jobs : StoredJobs) (jobId : JobId) (method : Job → Except DomainError Job) :
    StoredJobs :=
  match jobs jobId with
  | none => jobs
  | some job =>
      match method job with
      | .ok next => Function.update jobs jobId (some next)
      | .error _ => jobs

def step (jobs : StoredJobs) : StoredOperation → StoredJobs
  | .method jobId operation => jobs.change jobId fun job => job.perform operation
  | .queue jobId => jobs.change jobId Job.queue
  | .setAttempts jobId attempts => jobs.change jobId fun job => .ok (job.setAttempts attempts)
  | .setState jobId newState => jobs.change jobId fun job => job.setState newState
  | .updateJobStatus jobId newStatus result now faults =>
      (Jobs.updateJobStatus jobs jobId newStatus result now faults).2

def stateOf (jobId : JobId) (jobs : StoredJobs) : Option JobState := (jobs jobId).map (·.state)

def Finished (state : Option JobState) : Prop :=
  ∃ final, state = some final ∧ final.isTerminal = true

/-- `prepare_retry` succeeds on the job. -/
def Retries (jobId : JobId) (jobs : StoredJobs) (operation : StoredOperation) : Prop :=
  operation = .method jobId .prepareRetry ∧
    ∃ job next, jobs jobId = some job ∧ job.prepareRetry = .ok next

/-- No report that reaches the stored job says anything else of a finished job than it
already is. -/
def ReportsRepeat (jobs : StoredJobs) (operation : StoredOperation) : Prop :=
  ∀ jobId newStatus result now job,
    operation = .updateJobStatus jobId newStatus result now ⟨none, none⟩ →
      jobs jobId = some job → job.state.isTerminal = true → newStatus.jobState = job.state

/-! ## One operation -/

section Step

variable {jobs : StoredJobs} {jobId : JobId} {job : Job}

theorem state_of_change_other {other : JobId} (method : Job → Except DomainError Job)
    (different : jobId ≠ other) :
    stateOf jobId (jobs.change other method) = stateOf jobId jobs := by
  have same : jobs.change other method jobId = jobs jobId := by
    unfold change
    cases jobs other with
    | none => rfl
    | some job =>
        cases changed : method job with
        | error problem => simp only [changed]
        | ok next => simp only [changed, Function.update_of_ne different]
  unfold stateOf
  rw [same]

theorem state_of_change (method : Job → Except DomainError Job) (stored : jobs jobId = some job)
    (keeps : ∀ next, method job = .ok next → next.state = job.state) :
    stateOf jobId (jobs.change jobId method) = stateOf jobId jobs := by
  unfold change stateOf
  simp only [stored]
  cases changed : method job with
  | error problem => simp [stored]
  | ok next => simp [keeps next changed]

theorem reported_state (newStatus : ExecutionStatus) (result : Option JobResult)
    (now : DateTime) : (job.reported newStatus result now).state = newStatus.jobState := by
  unfold Job.reported
  cases result <;> by_cases same : job.state = newStatus.jobState <;> simp [same]

/-- A method that keeps the state of this job keeps the state of every job. -/
theorem state_of_change_finished {other : JobId} (method : Job → Except DomainError Job)
    (keeps : ∀ job next, jobId = other → jobs jobId = some job → job.state.isTerminal = true →
      method job = .ok next → next.state = job.state)
    (finished : Finished (stateOf jobId jobs)) :
    stateOf jobId (jobs.change other method) = stateOf jobId jobs := by
  by_cases same : jobId = other
  · obtain ⟨final, stateIs, terminal⟩ := finished
    obtain ⟨job, stored, sameState⟩ := Option.map_eq_some_iff.mp stateIs
    subst same
    apply state_of_change method stored
    intro next changed
    exact keeps job next rfl stored (by rw [sameState]; exact terminal) changed
  · exact state_of_change_other method same

theorem perform_finished {next : Job} {operation : JobOperation}
    (terminal : job.state.isTerminal = true) (performed : job.perform operation = .ok next) :
    operation = .prepareRetry := by
  cases (Job.moves_of_perform performed).1 with
  | transition transition =>
      rw [JobState.not_transition_of_terminal terminal] at transition
      cases transition
  | assign active =>
      rw [terminal] at active
      cases active
  | retry isRetry => exact isRetry

theorem set_state_finished {next : Job} {newState : JobState}
    (terminal : job.state.isTerminal = true) : job.setState newState ≠ .ok next := by
  intro set
  obtain ⟨base, moved, _⟩ := Job.carry_ok set
  unfold Execution.Job.setState at moved
  rw [JobState.not_transition_of_terminal terminal] at moved
  cases moved

theorem queue_state {next : Job} (queued : job.queue = .ok next) : next.state = job.state := by
  unfold Job.queue at queued
  split at queued
  · cases queued
    rfl
  · cases queued

/-- A report on which the repository does not fail is a change without a guard. -/
theorem report_eq_change (newStatus : ExecutionStatus) (result : Option JobResult)
    (now : DateTime) (faults : RepositoryFaults) :
    (updateJobStatus jobs jobId newStatus result now faults).2 =
      if faults = ⟨none, none⟩ then
        jobs.change jobId fun job => .ok (job.reported newStatus result now)
      else jobs := by
  obtain ⟨findById, update⟩ := faults
  cases findById with
  | some problem => simp [updateJobStatus]
  | none =>
      cases stored : jobs jobId with
      | none => simp [updateJobStatus, change, stored]
      | some job =>
          cases update with
          | some problem => simp [updateJobStatus, stored]
          | none => simp [updateJobStatus, change, stored]

theorem repeats_of_keeps {operation : StoredOperation}
    (keeps : ∀ jobId, Finished (stateOf jobId jobs) → ¬Retries jobId jobs operation →
      stateOf jobId (jobs.step operation) = stateOf jobId jobs) :
    jobs.ReportsRepeat operation := by
  intro jobId newStatus result now job isReport stored terminal
  subst isReport
  have finished : Finished (stateOf jobId jobs) := by
    refine ⟨job.state, ?_, terminal⟩
    simp [stateOf, stored]
  have kept := keeps jobId finished (fun retries => by cases retries.1)
  simpa [step, report_eq_change, change, stateOf, stored, reported_state] using kept

theorem keeps_of_repeats {operation : StoredOperation} (repeats : jobs.ReportsRepeat operation)
    (finished : Finished (stateOf jobId jobs)) (noRetry : ¬Retries jobId jobs operation) :
    stateOf jobId (jobs.step operation) = stateOf jobId jobs := by
  cases operation with
  | method other operation =>
      apply state_of_change_finished _ _ finished
      intro job next same stored terminal performed
      have isRetry := perform_finished terminal performed
      subst same isRetry
      exact absurd ⟨rfl, job, next, stored, performed⟩ noRetry
  | queue other =>
      apply state_of_change_finished _ _ finished
      intro job next _ _ _ queued
      exact queue_state queued
  | setAttempts other attempts =>
      simp only [step]
      apply state_of_change_finished _ _ finished
      intro job next _ _ _ set
      cases set
      rfl
  | setState other newState =>
      apply state_of_change_finished _ _ finished
      intro job next _ _ terminal set
      exact absurd set (set_state_finished terminal)
  | updateJobStatus other newStatus result now faults =>
      simp only [step, report_eq_change]
      split_ifs with answered
      · apply state_of_change_finished _ _ finished
        intro job next same stored terminal reported
        cases reported
        subst same answered
        rw [reported_state]
        exact repeats jobId newStatus result now job rfl stored terminal
      · rfl

/-- An operation keeps the state of every finished job, but for its retry, exactly if it
is no report of another state. -/
theorem keeps_finished_iff (jobs : StoredJobs) (operation : StoredOperation) :
    (∀ jobId, Finished (stateOf jobId jobs) → ¬Retries jobId jobs operation →
        stateOf jobId (jobs.step operation) = stateOf jobId jobs) ↔
      jobs.ReportsRepeat operation := by
  constructor
  · exact repeats_of_keeps
  · intro repeats jobId finished noRetry
    exact keeps_of_repeats repeats finished noRetry

end Step

/-- A finished job stays as it is until its retry, in exactly the runs in which every
report on a finished job repeats its state. -/
theorem finished_jobs_stay_iff (jobs : StoredJobs) (operations : List StoredOperation) :
    (∀ jobId, SettledUnless step (stateOf jobId) Finished (Retries jobId) jobs operations) ↔
      EachMove step ReportsRepeat jobs operations := by
  rw [forall_congr' fun jobId => settled_unless_iff_each_move step (stateOf jobId) Finished
    (Retries jobId) jobs operations, each_move_forall]
  exact each_move_congr step keeps_finished_iff operations jobs

/-- A job that has succeeded, and a late report that it is running. -/
theorem late_report_restarts :
    ¬∀ jobId, SettledUnless step (stateOf jobId) Finished (Retries jobId)
      (fun jobId => if jobId = ⟨7⟩ then some { Job.new ⟨7⟩ true with state := .succeeded } else none)
      [.updateJobStatus ⟨7⟩ .running none 5 ⟨none, none⟩] := by
  intro settled
  have kept := settled ⟨7⟩ [] [.updateJobStatus ⟨7⟩ .running none 5 ⟨none, none⟩] [] rfl
    ⟨.succeeded, rfl, rfl⟩ ⟨(fun retries => by cases retries.1), trivial⟩
  revert kept
  decide

end StoredJobs

end HodeiJobs.Jobs
