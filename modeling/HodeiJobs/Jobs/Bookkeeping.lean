import HodeiJobs.Jobs.Aggregate
import HodeiJobs.Library.Method
import HodeiJobs.Library.Runs

/-!
# The books of a job

The mutators as they stand in the source, assignment by assignment on `&mut self`, and
which of the other fields go with the state. `set_state` is the only one that moves the
state and writes nothing else.
-/

namespace HodeiJobs.Jobs

open HodeiJobs.Library HodeiJobs.Shared
open HodeiJobs.Sagas (DateTime)
open HodeiJobs.Execution (JobId)
open HodeiJobs.Dispatch (ProviderId)

/-! ## Mutators -/

abbrev Mutation := Method DomainError Job Unit

namespace Mutation

open Method (assign require)

/-- The guard at the top of a mutator. -/
def checkTransition (newState : JobState) : Mutation :=
  require (fun job => job.state.canTransitionTo newState)
    fun job => .invalidStateTransition job.id job.state newState

def queue : Mutation := do
  let job ← get
  match job.state with
  | .pending => return ()
  | state => throw (.invalidStateTransition job.id state .pending)

def submitToProvider (providerId : ProviderId) (context : ExecutionContext) (now : DateTime) :
    Mutation := do
  checkTransition .scheduled
  assign fun job => { job with state := .scheduled }
  assign fun job => { job with selectedProvider := some providerId }
  assign fun job => { job with executionContext := some context }
  assign fun job => { job with startedAt := some now }

def assignToProvider (providerId : ProviderId) (context : ExecutionContext) : Mutation := do
  let job ← get
  match job.state with
  | .pending =>
      assign fun job => { job with state := .assigned }
      assign fun job => { job with selectedProvider := some providerId }
      assign fun job => { job with executionContext := some context }
  | .assigned =>
      assign fun job => { job with selectedProvider := some providerId }
      assign fun job => { job with executionContext := some context }
  | state => throw (.invalidStateTransition job.id state .assigned)

def markRunning (now : DateTime) : Mutation := do
  checkTransition .running
  assign fun job => { job with state := .running }
  assign fun job => { job with startedAt := some now }

def complete (result : JobResult) (now : DateTime) : Mutation := do
  checkTransition result.state
  assign fun job => { job with state := result.state }
  assign fun job => { job with completedAt := some now }
  assign fun job => { job with result := some result }

/-- `self.attempts += 1` on a `u32`. -/
def countAttempt : Mutation :=
  assign fun job => { job with attempts := (job.attempts + 1) % 2 ^ 32 }

def fail (errorMessage : String) (now : DateTime) : Mutation := do
  checkTransition .failed
  assign fun job => { job with state := .failed }
  assign fun job => { job with completedAt := some now }
  assign fun job => { job with errorMessage := some errorMessage }
  countAttempt

def cancel (now : DateTime) : Mutation := do
  checkTransition .cancelled
  assign fun job => { job with state := .cancelled }
  assign fun job => { job with completedAt := some now }

def timeout (now : DateTime) : Mutation := do
  checkTransition .timeout
  assign fun job => { job with state := .timeout }
  assign fun job => { job with completedAt := some now }
  assign fun job => { job with result := some .timeout }
  countAttempt

def prepareRetry : Mutation := do
  let job ← get
  if job.canRetry = false then
    throw (.maxAttemptsExceeded job.id job.maxAttempts)
  assign fun job => { job with state := .pending }
  assign fun job => { job with selectedProvider := none }
  assign fun job => { job with executionContext := none }
  assign fun job => { job with startedAt := none }
  assign fun job => { job with completedAt := none }
  assign fun job => { job with result := none }
  assign fun job => { job with errorMessage := none }
  countAttempt

def setState (newState : JobState) : Mutation := do
  checkTransition newState
  assign fun job => { job with state := newState }

end Mutation

/-- The public operations that move a job. -/
inductive Mutator where
  | method (operation : JobOperation)
  | queue
  | setState (newState : JobState)

def Mutator.mutation : Mutator → Mutation
  | .method (.submitToProvider providerId context now) => .submitToProvider providerId context now
  | .method (.assignToProvider providerId context) => .assignToProvider providerId context
  | .method (.markRunning now) => .markRunning now
  | .method (.complete result now) => .complete result now
  | .method (.fail errorMessage now) => .fail errorMessage now
  | .method (.cancel now) => .cancel now
  | .method (.timeout now) => .timeout now
  | .method .prepareRetry => .prepareRetry
  | .queue => .queue
  | .setState newState => .setState newState

namespace Job

def mutate (job : Job) (mutator : Mutator) : Except DomainError Unit × Job :=
  mutator.mutation.call job

/-- The same operations as functions. -/
def attempt (job : Job) : Mutator → Except DomainError Job
  | .method operation => job.perform operation
  | .queue => job.queue
  | .setState newState => job.setState newState

def step (job : Job) (mutator : Mutator) : Job := (job.mutate mutator).2

/-! ## The claim and the condition -/

/-- Which fields go with the state. -/
structure Bookkept (job : Job) : Prop where
  completed : job.completedAt.isSome = true ↔ job.state.isTerminal = true
  untouched : job.state = .pending → job.selectedProvider = none ∧ job.executionContext = none ∧
    job.result = none ∧ job.errorMessage = none
  placed : job.state = .assigned ∨ job.state = .scheduled ∨ job.state = .running →
    job.selectedProvider.isSome = true ∧ job.executionContext.isSome = true

def RefusalKeeps (job : Job) (mutator : Mutator) : Prop := mutator.mutation.RefusalKeeps job

/-- `set_state` is used only where no other field has to follow. -/
def SetsStateAlone (job : Job) (mutator : Mutator) : Prop :=
  ∀ newState, mutator = .setState newState → job.state.canTransitionTo newState = true →
    newState = .running ∨ newState = .manualInterventionRequired ∨
      newState = .pending ∧ job.selectedProvider = none ∧ job.executionContext = none

end Job

/-! ## The mutators as functions -/

namespace Mutation

open Method (outcome call_get call_require)

variable {job : Job}

theorem run_assign_to_provider (providerId : ProviderId) (context : ExecutionContext) :
    (assignToProvider providerId context).call job =
      outcome job (job.assignToProvider providerId context) := by
  obtain ⟨⟨id, state, _, _, _, _, _⟩, _, _, _, _⟩ := job
  cases state <;> rfl

/-- What a mutator does is what its function returns; a refused one has written nothing. -/
theorem mutate_eq (small : job.attempts < 2 ^ 32) (mutator : Mutator) :
    job.mutate mutator = outcome job (job.attempt mutator) := by
  have same : job.attempts % 2 ^ 32 = job.attempts := Nat.mod_eq_of_lt small
  unfold Job.mutate
  cases mutator with
  | method operation =>
      cases operation with
      | submitToProvider providerId context now =>
          simp only [Mutator.mutation, submitToProvider, checkTransition, call_require, Job.attempt,
            Job.perform, Job.submitToProvider]
          split_ifs <;> rfl
      | assignToProvider providerId context => exact run_assign_to_provider providerId context
      | markRunning now =>
          simp only [Mutator.mutation, markRunning, checkTransition, call_require, Job.attempt,
            Job.perform, Job.markRunning, Execution.Job.markRunning]
          split_ifs
          · simp only [Job.carry, same]
            rfl
          · rfl
      | complete result now =>
          simp only [Mutator.mutation, complete, checkTransition, call_require, Job.attempt,
            Job.perform, Job.complete, Execution.Job.complete]
          split_ifs
          · simp only [Job.carry, same]
            rfl
          · rfl
      | fail errorMessage now =>
          simp only [Mutator.mutation, fail, checkTransition, call_require, Job.attempt,
            Job.perform, Job.fail, Execution.Job.fail]
          split_ifs <;> rfl
      | cancel now =>
          simp only [Mutator.mutation, cancel, checkTransition, call_require, Job.attempt,
            Job.perform, Job.cancel]
          split_ifs <;> rfl
      | timeout now =>
          simp only [Mutator.mutation, timeout, checkTransition, call_require, Job.attempt,
            Job.perform, Job.timeout, Execution.Job.timeout]
          split_ifs <;> rfl
      | prepareRetry =>
          simp only [Mutator.mutation, prepareRetry, call_get, Job.attempt, Job.perform,
            Job.prepareRetry]
          cases allowed : job.canRetry <;> rfl
  | queue =>
      simp only [Mutator.mutation, queue, call_get, Job.attempt, Job.queue]
      cases job.state <;> rfl
  | setState newState =>
      simp only [Mutator.mutation, setState, checkTransition, call_require, Job.attempt,
        Job.setState, Execution.Job.setState]
      split_ifs
      · simp only [Job.carry, same]
        rfl
      · rfl

end Mutation

/-! ## What a mutator does to the books -/

namespace Job

variable {job next : Job} {mutator : Mutator}

/-- The ways in which a mutator can succeed, as far as the books go. -/
inductive Change (job : Job) : Mutator → Job → Prop where
  | queued : Change job .queue job
  | placed {operation : JobOperation} {next : Job} : job.state.isTerminal = false →
      next.state = .assigned ∨ next.state = .scheduled →
      next.selectedProvider.isSome = true ∧ next.executionContext.isSome = true →
      next.completedAt = job.completedAt → next.result = job.result →
      next.errorMessage = job.errorMessage → Change job (.method operation) next
  | started {operation : JobOperation} {next : Job} :
      job.state = .assigned ∨ job.state = .scheduled → next.state = .running →
      next.selectedProvider = job.selectedProvider →
      next.executionContext = job.executionContext → next.completedAt = job.completedAt →
      next.result = job.result → next.errorMessage = job.errorMessage →
      Change job (.method operation) next
  | finished {operation : JobOperation} {next : Job} : next.state.isTerminal = true →
      next.completedAt.isSome = true → Change job (.method operation) next
  | reset {operation : JobOperation} {next : Job} : next.state = .pending →
      next.selectedProvider = none ∧ next.executionContext = none ∧ next.result = none ∧
        next.errorMessage = none → next.completedAt = none → Change job (.method operation) next
  | set {newState : JobState} : job.state.canTransitionTo newState = true →
      Change job (.setState newState) { job with state := newState }

theorem active_of_transition {state newState : JobState}
    (allowed : state.canTransitionTo newState = true) : state.isTerminal = false := by
  cases terminal : state.isTerminal with
  | false => rfl
  | true =>
      rw [JobState.not_transition_of_terminal terminal] at allowed
      cases allowed

theorem placed_of_to_running {state : JobState} (allowed : state.canTransitionTo .running = true) :
    state = .assigned ∨ state = .scheduled := by
  cases state with
  | assigned => exact .inl rfl
  | scheduled => exact .inr rfl
  | _ => cases allowed

theorem pending_of_to_placed {state newState : JobState}
    (allowed : state.canTransitionTo newState = true)
    (placed : newState = .assigned ∨ newState = .scheduled) : state = .pending := by
  rcases placed with rfl | rfl <;> cases state <;> first | rfl | cases allowed

theorem result_state_terminal (result : JobResult) : result.state.isTerminal = true := by
  cases result <;> rfl

theorem change_of_perform {operation : JobOperation} (small : job.attempts < 2 ^ 32)
    (done : job.perform operation = .ok next) :
    Change job (.method operation) next ∧ next.attempts < 2 ^ 32 := by
  have wrapped : ∀ count, count % 2 ^ 32 < 2 ^ 32 := fun count => Nat.mod_lt count (by decide)
  cases perform_ok done with
  | submitted allowed =>
      exact ⟨.placed (active_of_transition allowed) (.inr rfl) ⟨rfl, rfl⟩ rfl rfl rfl, small⟩
  | assigned before =>
      exact ⟨.placed (active_of_assignable before) (.inl rfl) ⟨rfl, rfl⟩ rfl rfl rfl, small⟩
  | started allowed =>
      exact ⟨.started (placed_of_to_running allowed) rfl rfl rfl rfl rfl rfl, wrapped _⟩
  | completed allowed => exact ⟨.finished (result_state_terminal _) rfl, wrapped _⟩
  | failed allowed => exact ⟨.finished rfl rfl, wrapped _⟩
  | cancelled allowed => exact ⟨.finished rfl rfl, small⟩
  | timedOut allowed => exact ⟨.finished rfl rfl, wrapped _⟩
  | retried allowed => exact ⟨.reset rfl ⟨rfl, rfl, rfl, rfl⟩ rfl, wrapped _⟩

theorem change_of_attempt (small : job.attempts < 2 ^ 32) (done : job.attempt mutator = .ok next) :
    Change job mutator next ∧ next.attempts < 2 ^ 32 := by
  cases mutator with
  | method operation => exact change_of_perform small done
  | queue =>
      simp only [attempt, Job.queue] at done
      split at done
      · cases done
        exact ⟨.queued, small⟩
      · cases done
  | setState newState =>
      obtain ⟨base, set, same⟩ := carry_ok done
      unfold Execution.Job.setState at set
      split_ifs at set with allowed
      cases set
      have kept : job.attempts % 2 ^ 32 = job.attempts := Nat.mod_eq_of_lt small
      rw [same, kept]
      exact ⟨.set allowed, small⟩

/-- Before it ends, a job has neither a result nor an error. -/
structure Unended (job : Job) : Prop where
  small : job.attempts < 2 ^ 32
  blank : job.state.isTerminal = false → job.result = none ∧ job.errorMessage = none

theorem unended_new (id : JobId) (allowRetry : Bool) : Unended (new id allowRetry) :=
  ⟨by simp [new], fun _ => ⟨rfl, rfl⟩⟩

theorem bookkept_new (id : JobId) (allowRetry : Bool) : Bookkept (new id allowRetry) := by
  constructor <;> simp [new, JobState.isTerminal]

theorem step_done (small : job.attempts < 2 ^ 32) (done : job.attempt mutator = .ok next) :
    job.step mutator = next := by
  unfold step
  rw [Mutation.mutate_eq small, done]
  rfl

theorem step_refused {problem : DomainError} (small : job.attempts < 2 ^ 32)
    (refused : job.attempt mutator = .error problem) : job.step mutator = job := by
  unfold step
  rw [Mutation.mutate_eq small, refused]
  rfl

theorem refusal_keeps (small : job.attempts < 2 ^ 32) (mutator : Mutator) :
    job.RefusalKeeps mutator :=
  Method.refusal_keeps_of_outcome (Mutation.mutate_eq small mutator)

theorem active_of_placed (placed : job.state = .assigned ∨ job.state = .scheduled) :
    job.state.isTerminal = false := by
  rcases placed with assigned | scheduled
  · rw [assigned]
    rfl
  · rw [scheduled]
    rfl

theorem blank_of_change (unended : Unended job) (change : Change job mutator next)
    (active : next.state.isTerminal = false) : next.result = none ∧ next.errorMessage = none := by
  cases change with
  | queued => exact unended.blank active
  | placed before _ _ _ result error =>
      rw [result, error]
      exact unended.blank before
  | started before _ _ _ _ result error =>
      rw [result, error]
      exact unended.blank (active_of_placed before)
  | finished terminal =>
      rw [terminal] at active
      cases active
  | reset _ blank => exact blank.2.2
  | set allowed => exact unended.blank (active_of_transition allowed)

theorem unended_step (job : Job) (mutator : Mutator) (unended : Unended job) :
    Unended (job.step mutator) := by
  cases attempted : job.attempt mutator with
  | error problem =>
      rw [step_refused unended.small attempted]
      exact unended
  | ok next =>
      rw [step_done unended.small attempted]
      obtain ⟨change, small⟩ := change_of_attempt unended.small attempted
      exact ⟨small, blank_of_change unended change⟩

theorem not_completed (books : Bookkept job) (active : job.state.isTerminal = false) :
    job.completedAt.isSome = false := by
  cases some : job.completedAt.isSome with
  | false => rfl
  | true =>
      rw [books.completed.mp some] at active
      cases active

/-- `set_state` keeps the books exactly where nothing else has to be written. -/
theorem bookkept_set_iff (unended : Unended job) (books : Bookkept job) {newState : JobState}
    (allowed : job.state.canTransitionTo newState = true) :
    Bookkept { job with state := newState } ↔
      newState = .running ∨ newState = .manualInterventionRequired ∨
        newState = .pending ∧ job.selectedProvider = none ∧ job.executionContext = none := by
  have active := active_of_transition allowed
  have uncompleted := not_completed books active
  have blank := unended.blank active
  cases newState with
  | pending =>
      simp only [reduceCtorEq, true_and, false_or]
      constructor
      · intro after
        exact ⟨(after.untouched rfl).1, (after.untouched rfl).2.1⟩
      · intro ⟨provider, context⟩
        exact ⟨by simp [uncompleted, JobState.isTerminal],
          fun _ => ⟨provider, context, blank⟩, by simp⟩
  | assigned | scheduled =>
      simp only [reduceCtorEq, false_and, or_self, iff_false]
      intro after
      have given := (after.placed (by simp)).1
      rw [(books.untouched (pending_of_to_placed allowed (by simp))).1] at given
      cases given
  | running =>
      simp only [true_or, iff_true]
      have placed := books.placed ((placed_of_to_running allowed).imp_right .inl)
      exact ⟨by simp [uncompleted, JobState.isTerminal], by simp, fun _ => placed⟩
  | manualInterventionRequired =>
      simp only [true_or, or_true, iff_true]
      exact ⟨by simp [uncompleted, JobState.isTerminal], by simp, by simp⟩
  | succeeded | failed | cancelled | timeout =>
      simp only [reduceCtorEq, false_and, or_self, iff_false]
      intro after
      have completed := after.completed.mpr rfl
      rw [uncompleted] at completed
      cases completed

theorem bookkept_of_method {operation : JobOperation} (books : Bookkept job)
    (change : Change job (.method operation) next) : Bookkept next := by
  cases change with
  | placed active state given completed result error =>
      have uncompleted := not_completed books active
      rw [← completed] at uncompleted
      rcases state with assigned | scheduled
      · exact ⟨by simp [uncompleted, assigned, JobState.isTerminal], by simp [assigned],
          fun _ => given⟩
      · exact ⟨by simp [uncompleted, scheduled, JobState.isTerminal], by simp [scheduled],
          fun _ => given⟩
  | started before running provider context completed result error =>
      have uncompleted := not_completed books (active_of_placed before)
      rw [← completed] at uncompleted
      have given := books.placed (before.imp_right .inl)
      rw [← provider, ← context] at given
      exact ⟨by simp [uncompleted, running, JobState.isTerminal], by simp [running],
        fun _ => given⟩
  | finished terminal completed =>
      refine ⟨iff_of_true completed terminal, ?_, ?_⟩
      · intro pending
        rw [pending] at terminal
        cases terminal
      · rintro (state | state | state) <;> rw [state] at terminal <;> cases terminal
  | reset pending blank uncompleted =>
      exact ⟨by simp [uncompleted, pending, JobState.isTerminal], fun _ => blank,
        by simp [pending]⟩

/-- One operation keeps the books exactly if it is not a `set_state` that leaves one
of the other fields behind. -/
theorem bookkept_step_iff (job : Job) (mutator : Mutator) (unended : Unended job)
    (books : Bookkept job) : Bookkept (job.step mutator) ↔ job.SetsStateAlone mutator := by
  cases attempted : job.attempt mutator with
  | error problem =>
      rw [step_refused unended.small attempted]
      apply iff_of_true books
      intro newState isSet allowed
      subst isSet
      simp [attempt, setState, Execution.Job.setState, allowed, carry] at attempted
  | ok next =>
      rw [step_done unended.small attempted]
      obtain ⟨change, -⟩ := change_of_attempt unended.small attempted
      cases mutator with
      | method operation =>
          apply iff_of_true (bookkept_of_method books change)
          intro newState isSet
          cases isSet
      | queue =>
          cases change
          apply iff_of_true books
          intro newState isSet
          cases isSet
      | setState newState =>
          cases change with
          | set allowed =>
              rw [bookkept_set_iff unended books allowed]
              constructor
              · intro alone other isSet _
                cases isSet
                exact alone
              · intro alone
                exact alone newState rfl allowed

/-- The books are kept, and no refusal changes a job, in exactly the runs in which
`set_state` is used only where no other field has to follow. -/
theorem books_kept_iff (id : JobId) (allowRetry : Bool) (mutators : List Mutator) :
    (Always step Bookkept (new id allowRetry) mutators ∧
        EachMove step RefusalKeeps (new id allowRetry) mutators) ↔
      EachMove step SetsStateAlone (new id allowRetry) mutators := by
  apply always_and_each_move_iff step Unended Bookkept unended_step _ mutators
    (new id allowRetry) (unended_new id allowRetry) (bookkept_new id allowRetry)
  intro job mutator unended books
  rw [bookkept_step_iff job mutator unended books]
  exact (and_iff_left (refusal_keeps unended.small mutator)).symm

/-- A new job that `set_state` cancels is terminal and has no completion time. -/
theorem cancelled_without_completion :
    ¬(Always step Bookkept (new ⟨7⟩ true) [.setState .cancelled] ∧
      EachMove step RefusalKeeps (new ⟨7⟩ true) [.setState .cancelled]) := by
  intro ⟨⟨_, books⟩, _⟩
  have completed := books.completed.mpr rfl
  cases completed

end Job

end HodeiJobs.Jobs
