import Mathlib.Algebra.Group.Nat.Defs
import HodeiJobs.Dispatch.Dispatchers

/-!
# The job aggregate

The state mutators of `Job` on all the fields they write. Those that the execution
saga uses are the methods of `Execution.Job`, carried over to the whole aggregate.
-/

namespace HodeiJobs.Jobs

open HodeiJobs.Shared
open HodeiJobs.Sagas (DateTime)
open HodeiJobs.Execution (JobId)
open HodeiJobs.Dispatch (ProviderId)

inductive ExecutionStatus where
  | submitted
  | queued
  | running
  | succeeded
  | failed
  | cancelled
  | timedOut
  deriving DecidableEq, Repr

structure ExecutionContext where
  jobId : JobId
  providerId : ProviderId
  providerExecutionId : String
  startedAt : Option DateTime
  completedAt : Option DateTime
  status : ExecutionStatus
  result : Option JobResult
  deriving DecidableEq

/-- `ExecutionContext::update_status`: `TimedOut` sets no completion time. -/
def ExecutionContext.updateStatus (context : ExecutionContext) (status : ExecutionStatus)
    (now : DateTime) : ExecutionContext :=
  let context := { context with status := status }
  match status with
  | .running => { context with startedAt := context.startedAt.or (some now) }
  | .succeeded | .failed | .cancelled =>
      { context with completedAt := context.completedAt.or (some now) }
  | .submitted | .queued | .timedOut => context

inductive DomainError where
  | infrastructureError (message : String)
  | invalidStateTransition (jobId : JobId) (fromState toState : JobState)
  | maxAttemptsExceeded (jobId : JobId) (maxAttempts : Nat)
  | jobNotFound (jobId : JobId)
  deriving DecidableEq

def DomainError.ofExecution : Execution.DomainError → DomainError
  | .infrastructureError message => .infrastructureError message
  | .invalidStateTransition jobId fromState toState =>
      .invalidStateTransition jobId fromState toState

/-- `allowRetry` is `spec.preferences.allow_retry`. -/
structure Job extends Execution.Job where
  selectedProvider : Option ProviderId
  executionContext : Option ExecutionContext
  maxAttempts : Nat
  allowRetry : Bool
  deriving DecidableEq

namespace Job

def new (id : JobId) (allowRetry : Bool) : Job where
  id := id
  state := .pending
  startedAt := none
  completedAt := none
  result := none
  errorMessage := none
  attempts := 0
  selectedProvider := none
  executionContext := none
  maxAttempts := 3
  allowRetry := allowRetry

/-- A method of the smaller aggregate. `attempts` is a `u32`. -/
def carry (job : Job) (next : Except Execution.DomainError Execution.Job) :
    Except DomainError Job :=
  match next with
  | .ok base => .ok { job with toJob := { base with attempts := base.attempts % 2 ^ 32 } }
  | .error error => .error (.ofExecution error)

def queue (job : Job) : Except DomainError Job :=
  match job.state with
  | .pending => .ok job
  | state => .error (.invalidStateTransition job.id state .pending)

def submitToProvider (job : Job) (providerId : ProviderId) (context : ExecutionContext)
    (now : DateTime) : Except DomainError Job :=
  if job.state.canTransitionTo .scheduled then
    .ok { job with
      state := .scheduled
      selectedProvider := some providerId
      executionContext := some context
      startedAt := some now }
  else .error (.invalidStateTransition job.id job.state .scheduled)

def assignToProvider (job : Job) (providerId : ProviderId) (context : ExecutionContext) :
    Except DomainError Job :=
  match job.state with
  | .pending | .assigned =>
      .ok { job with
        state := .assigned
        selectedProvider := some providerId
        executionContext := some context }
  | state => .error (.invalidStateTransition job.id state .assigned)

def markRunning (job : Job) (now : DateTime) : Except DomainError Job :=
  job.carry (job.toJob.markRunning now)

def complete (job : Job) (result : JobResult) (now : DateTime) : Except DomainError Job :=
  job.carry (job.toJob.complete result now)

def fail (job : Job) (errorMessage : String) (now : DateTime) : Except DomainError Job :=
  job.carry (job.toJob.fail errorMessage now)

def cancel (job : Job) (now : DateTime) : Except DomainError Job :=
  if job.state.canTransitionTo .cancelled then
    .ok { job with state := .cancelled, completedAt := some now }
  else .error (.invalidStateTransition job.id job.state .cancelled)

def timeout (job : Job) (now : DateTime) : Except DomainError Job :=
  job.carry (job.toJob.timeout now)

/-- The attempt that is being prepared ended in failure or by its timeout. -/
def Ended (job : Job) : Prop := job.state = .failed ∨ job.state = .timeout

instance (job : Job) : Decidable job.Ended := inferInstanceAs (Decidable (_ ∨ _))

def canRetry (job : Job) : Bool :=
  job.attempts < job.maxAttempts && decide job.Ended && job.allowRetry

def prepareRetry (job : Job) : Except DomainError Job :=
  if job.canRetry then
    .ok { job with
      state := .pending
      selectedProvider := none
      executionContext := none
      startedAt := none
      completedAt := none
      result := none
      errorMessage := none
      attempts := (job.attempts + 1) % 2 ^ 32 }
  else .error (.maxAttemptsExceeded job.id job.maxAttempts)

def setAttempts (job : Job) (attempts : Nat) : Job := { job with attempts := attempts % 2 ^ 32 }

def setState (job : Job) (newState : JobState) : Except DomainError Job :=
  job.carry (job.toJob.setState newState)

end Job

/-! ## The operations -/

inductive JobOperation where
  | submitToProvider (providerId : ProviderId) (context : ExecutionContext) (now : DateTime)
  | assignToProvider (providerId : ProviderId) (context : ExecutionContext)
  | markRunning (now : DateTime)
  | complete (result : JobResult) (now : DateTime)
  | fail (errorMessage : String) (now : DateTime)
  | cancel (now : DateTime)
  | timeout (now : DateTime)
  | prepareRetry

def Job.perform (job : Job) : JobOperation → Except DomainError Job
  | .submitToProvider providerId context now => job.submitToProvider providerId context now
  | .assignToProvider providerId context => job.assignToProvider providerId context
  | .markRunning now => job.markRunning now
  | .complete result now => job.complete result now
  | .fail errorMessage now => job.fail errorMessage now
  | .cancel now => job.cancel now
  | .timeout now => job.timeout now
  | .prepareRetry => job.prepareRetry

/-! ## What an operation does -/

namespace JobOperation

/-- What the operation adds to `attempts` when it moves the state machine. -/
def counts : JobOperation → Nat
  | .fail _ _ | .timeout _ => 1
  | _ => 0

def isComplete : JobOperation → Bool
  | .complete _ _ => true
  | _ => false

variable {operation : JobOperation}

theorem counts_of_complete (complete : operation.isComplete = true) : operation.counts = 0 := by
  cases operation with
  | complete result now => rfl
  | _ => cases complete

theorem counts_le_one (operation : JobOperation) : operation.counts ≤ 1 := by
  cases operation <;> simp [JobOperation.counts]

end JobOperation

namespace Job

variable {job next : Job} {operation : JobOperation}

/-- The ways in which an operation can succeed. -/
inductive Moves (job : Job) (operation : JobOperation) (next : Job) : Prop where
  | transition : job.state.canTransitionTo next.state = true →
      (job.attempts < 2 ^ 32 → next.attempts = (job.attempts + operation.counts) % 2 ^ 32) →
      (next.Ended ↔ operation.counts = 1 ∨ next.Ended ∧ operation.isComplete = true) →
      Moves job operation next
  | assign : job.state.isTerminal = false → next.state = .assigned →
      next.attempts = job.attempts →
      operation.counts = 0 → Moves job operation next
  | retry : operation = .prepareRetry → job.canRetry = true → next.state = .pending →
      next.attempts = (job.attempts + 1) % 2 ^ 32 → Moves job operation next

theorem carry_ok {result : Except Execution.DomainError Execution.Job}
    (accepted : job.carry result = .ok next) :
    ∃ base, result = .ok base ∧
      next = { job with toJob := { base with attempts := base.attempts % 2 ^ 32 } } := by
  cases result with
  | ok base => exact ⟨base, rfl, (Except.ok.inj accepted).symm⟩
  | error problem => cases accepted

/-- What an accepted operation found, and what it wrote. -/
inductive Performed (job : Job) : JobOperation → Job → Prop where
  | submitted {providerId : ProviderId} {context : ExecutionContext} {now : DateTime} :
      job.state.canTransitionTo .scheduled = true →
      Performed job (.submitToProvider providerId context now) { job with
        state := .scheduled
        selectedProvider := some providerId
        executionContext := some context
        startedAt := some now }
  | assigned {providerId : ProviderId} {context : ExecutionContext} :
      job.state = .pending ∨ job.state = .assigned →
      Performed job (.assignToProvider providerId context) { job with
        state := .assigned
        selectedProvider := some providerId
        executionContext := some context }
  | started {now : DateTime} : job.state.canTransitionTo .running = true →
      Performed job (.markRunning now) { job with
        state := .running
        startedAt := some now
        attempts := job.attempts % 2 ^ 32 }
  | completed {result : JobResult} {now : DateTime} :
      job.state.canTransitionTo result.state = true →
      Performed job (.complete result now) { job with
        state := result.state
        completedAt := some now
        result := some result
        attempts := job.attempts % 2 ^ 32 }
  | failed {errorMessage : String} {now : DateTime} :
      job.state.canTransitionTo .failed = true →
      Performed job (.fail errorMessage now) { job with
        state := .failed
        completedAt := some now
        errorMessage := some errorMessage
        attempts := (job.attempts + 1) % 2 ^ 32 }
  | cancelled {now : DateTime} : job.state.canTransitionTo .cancelled = true →
      Performed job (.cancel now) { job with
        state := .cancelled
        completedAt := some now }
  | timedOut {now : DateTime} : job.state.canTransitionTo .timeout = true →
      Performed job (.timeout now) { job with
        state := .timeout
        completedAt := some now
        result := some .timeout
        attempts := (job.attempts + 1) % 2 ^ 32 }
  | retried : job.canRetry = true →
      Performed job .prepareRetry { job with
        state := .pending
        selectedProvider := none
        executionContext := none
        startedAt := none
        completedAt := none
        result := none
        errorMessage := none
        attempts := (job.attempts + 1) % 2 ^ 32 }

theorem perform_ok (performed : job.perform operation = .ok next) :
    Performed job operation next := by
  cases operation with
  | submitToProvider providerId context now =>
      simp only [perform, submitToProvider] at performed
      split_ifs at performed with allowed
      cases performed
      exact .submitted allowed
  | assignToProvider providerId context =>
      simp only [perform, assignToProvider] at performed
      split at performed
      · cases performed
        exact .assigned (.inl ‹_›)
      · cases performed
        exact .assigned (.inr ‹_›)
      · cases performed
  | markRunning now =>
      obtain ⟨base, marked, same⟩ := carry_ok performed
      unfold Execution.Job.markRunning at marked
      split_ifs at marked with allowed
      cases marked
      rw [same]
      exact .started allowed
  | complete result now =>
      obtain ⟨base, completed, same⟩ := carry_ok performed
      unfold Execution.Job.complete at completed
      split_ifs at completed with allowed
      cases completed
      rw [same]
      exact .completed allowed
  | fail errorMessage now =>
      obtain ⟨base, failed, same⟩ := carry_ok performed
      unfold Execution.Job.fail at failed
      split_ifs at failed with allowed
      cases failed
      rw [same]
      exact .failed allowed
  | cancel now =>
      simp only [perform, cancel] at performed
      split_ifs at performed with allowed
      cases performed
      exact .cancelled allowed
  | timeout now =>
      obtain ⟨base, timedOut, same⟩ := carry_ok performed
      unfold Execution.Job.timeout at timedOut
      split_ifs at timedOut with allowed
      cases timedOut
      rw [same]
      exact .timedOut allowed
  | prepareRetry =>
      simp only [perform, prepareRetry] at performed
      split_ifs at performed with allowed
      cases performed
      exact .retried allowed

theorem active_of_assignable (before : job.state = .pending ∨ job.state = .assigned) :
    job.state.isTerminal = false := by
  rcases before with pending | assigned
  · rw [pending]
    rfl
  · rw [assigned]
    rfl

theorem moves_of_perform (performed : job.perform operation = .ok next) :
    job.Moves operation next ∧ next.maxAttempts = job.maxAttempts ∧
      next.allowRetry = job.allowRetry := by
  have kept : job.attempts < 2 ^ 32 → job.attempts = (job.attempts + 0) % 2 ^ 32 := by
    intro small
    exact (Nat.mod_eq_of_lt small).symm
  cases perform_ok performed with
  | submitted allowed | cancelled allowed =>
      exact ⟨.transition allowed kept (by simp [Ended, JobOperation.counts,
        JobOperation.isComplete]), rfl, rfl⟩
  | assigned before =>
      exact ⟨.assign (active_of_assignable before) rfl rfl rfl, rfl, rfl⟩
  | started allowed =>
      exact ⟨.transition allowed (fun _ => rfl) (by simp [Ended, JobOperation.counts,
        JobOperation.isComplete]), rfl, rfl⟩
  | completed allowed =>
      exact ⟨.transition allowed (fun _ => rfl) (by simp [JobOperation.counts,
        JobOperation.isComplete]), rfl, rfl⟩
  | failed allowed | timedOut allowed =>
      exact ⟨.transition allowed (fun _ => rfl) (by simp [Ended, JobOperation.counts]), rfl, rfl⟩
  | retried allowed => exact ⟨.retry rfl allowed rfl rfl, rfl, rfl⟩

theorem terminal_of_ended (ended : job.Ended) : job.state.isTerminal = true := by
  rcases ended with failed | timedOut
  · rw [failed]
    rfl
  · rw [timedOut]
    rfl

theorem not_ended_of_transition {state : JobState}
    (transition : job.state.canTransitionTo state = true) : ¬job.Ended := by
  intro ended
  rw [JobState.not_transition_of_terminal (terminal_of_ended ended)] at transition
  cases transition

theorem not_ended_of_active (active : job.state.isTerminal = false) :
    ¬job.Ended := by
  intro ended
  rw [terminal_of_ended ended] at active
  cases active

end Job

end HodeiJobs.Jobs
