import HodeiJobs.Execution.Repositories
import HodeiJobs.Library.Method
import HodeiJobs.Library.Runs
import HodeiJobs.Workers.ProviderType
import Mathlib.Algebra.Group.Nat.Defs
import Mathlib.Data.List.AList

/-!
# The worker aggregate

A worker runs one job and ends. The mutators stand here as in the source; two of them
end a worker without taking its job away.
-/

namespace HodeiJobs.Workers

open HodeiJobs.Library HodeiJobs.Shared
open HodeiJobs.Sagas (DateTime Duration)
open HodeiJobs.Execution (JobId WorkerId)

/-- `HashMap<String, String>`. -/
abbrev StringMap := AList fun _ : String => String

structure WorkerHandle where
  workerId : WorkerId
  providerType : ProviderType
  deriving DecidableEq

structure WorkerSpec where
  labels : StringMap
  annotations : StringMap
  maxLifetime : Duration
  idleTimeout : Duration
  ttlAfterCompletion : Option Duration
  deriving DecidableEq

/-- The fields of `WorkerSpec::new` that are not arguments. -/
def WorkerSpec.new : WorkerSpec :=
  ⟨∅, ∅, Duration.fromSecs 3600, Duration.fromSecs 300, none⟩

inductive DomainError where
  | invalidWorkerStateTransition (current requested : String)
  deriving DecidableEq

structure Worker where
  id : WorkerId
  handle : WorkerHandle
  state : WorkerState
  spec : WorkerSpec
  currentJobId : Option JobId
  jobsExecuted : Nat
  jobCompletedAt : Option DateTime
  lastHeartbeat : DateTime
  createdAt : DateTime
  updatedAt : DateTime
  deriving DecidableEq

/-! ## States -/

/-- `Display::fmt`. -/
def stateText : WorkerState → String
  | .creating => "CREATING"
  | .ready => "READY"
  | .busy => "BUSY"
  | .terminated => "TERMINATED"

def canAcceptJobs : WorkerState → Bool
  | .ready => true
  | _ => false

/-- The number that `i32::from` gives a state: they are passed in this order. -/
def stateRank : WorkerState → Nat
  | .creating => 0
  | .ready => 1
  | .busy => 2
  | .terminated => 3

/-! ## Mutators -/

abbrev Mutation := Method DomainError Worker Unit

namespace Mutation

open Method (assign require)

/-- The reason only names the transition in the source; nothing is made of it. -/
def transitionTo (newState : WorkerState) (now : DateTime) : Mutation := do
  require (fun worker => worker.state.canTransitionTo newState)
    fun worker => .invalidWorkerStateTransition (stateText worker.state) (stateText newState)
  assign fun worker => { worker with state := newState }
  assign fun worker => { worker with updatedAt := now }

def markReady (now : DateTime) : Mutation := do
  let worker ← get
  if worker.state = .ready then return
  transitionTo .ready now
  assign fun worker => { worker with lastHeartbeat := worker.updatedAt }

def assignJob (jobId : JobId) (now : DateTime) : Mutation := do
  transitionTo .busy now
  assign fun worker => { worker with currentJobId := some jobId }

/-- `self.jobs_executed += 1` is on a `u32`. -/
def completeJob (now : DateTime) : Mutation := do
  require (fun worker => worker.currentJobId.isSome)
    fun worker => .invalidWorkerStateTransition (stateText worker.state) (stateText .terminated)
  transitionTo .terminated now
  assign fun worker => { worker with currentJobId := none }
  assign fun worker => { worker with jobsExecuted := (worker.jobsExecuted + 1) % 2 ^ 32 }
  assign fun worker => { worker with jobCompletedAt := some worker.updatedAt }

def markTerminating (now : DateTime) : Mutation := do
  let worker ← get
  if worker.state = .terminated then return
  transitionTo .terminated now

def markFailed (now : DateTime) : Mutation := transitionTo .terminated now

/-- The clock is read for each field. -/
def updateHeartbeat (beat now : DateTime) : Mutation := do
  assign fun worker => { worker with lastHeartbeat := beat }
  assign fun worker => { worker with updatedAt := now }

end Mutation

inductive Mutator where
  | markReady (now : DateTime)
  | assignJob (jobId : JobId) (now : DateTime)
  | completeJob (now : DateTime)
  | markTerminating (now : DateTime)
  | markFailed (now : DateTime)
  | updateHeartbeat (beat now : DateTime)

def Mutator.mutation : Mutator → Mutation
  | .markReady now => .markReady now
  | .assignJob jobId now => .assignJob jobId now
  | .completeJob now => .completeJob now
  | .markTerminating now => .markTerminating now
  | .markFailed now => .markFailed now
  | .updateHeartbeat beat now => .updateHeartbeat beat now

namespace Worker

def new (handle : WorkerHandle) (spec : WorkerSpec) (now : DateTime) : Worker where
  id := handle.workerId
  handle := handle
  state := .creating
  spec := spec
  currentJobId := none
  jobsExecuted := 0
  jobCompletedAt := none
  lastHeartbeat := now
  createdAt := now
  updatedAt := now

def mutate (worker : Worker) (mutator : Mutator) : Except DomainError Unit × Worker :=
  mutator.mutation.call worker

def step (worker : Worker) (mutator : Mutator) : Worker := (worker.mutate mutator).2

/-! ## Timeouts -/

/-- `signed_duration_since(..).to_std()`, zero if the clock went back. -/
def elapsed (since now : DateTime) : Duration := ⟨((now - since) * 1000).toNat⟩

def isIdleTimeout (worker : Worker) (now : DateTime) : Bool :=
  match worker.state with
  | .ready => worker.spec.idleTimeout.nanos < (elapsed worker.lastHeartbeat now).nanos
  | _ => false

def isLifetimeExceeded (worker : Worker) (now : DateTime) : Bool :=
  worker.spec.maxLifetime.nanos < (elapsed worker.createdAt now).nanos

def isTtlAfterCompletionExceeded (worker : Worker) (now : DateTime) : Bool :=
  match worker.jobCompletedAt, worker.spec.ttlAfterCompletion with
  | none, _ => false
  | some _, none => true
  | some completedAt, some ttl => ttl.nanos < (elapsed completedAt now).nanos

inductive TerminationReason where
  | lifetimeExceeded
  | idleTimeout
  | jobCompleted
  | unregistered
  deriving DecidableEq, Repr

def terminationReason (worker : Worker) (now : DateTime) : TerminationReason :=
  if worker.isLifetimeExceeded now then .lifetimeExceeded
  else if worker.isIdleTimeout now then .idleTimeout
  else if worker.isTtlAfterCompletionExceeded now then .jobCompleted
  else .unregistered

/-! ## The claim and the condition -/

structure Consistent (worker : Worker) : Prop where
  busy : worker.state = .busy → worker.currentJobId.isSome = true
  unassigned : worker.state = .creating ∨ worker.state = .ready → worker.currentJobId = none
  executed : worker.jobsExecuted ≤ 1
  completed : worker.jobsExecuted = 1 ↔ worker.jobCompletedAt.isSome = true
  released : worker.state = .terminated → worker.currentJobId = none

/-- A mutator does not lead back to an earlier state, and a refused one does nothing. -/
structure Forward (worker : Worker) (mutator : Mutator) : Prop where
  rank : stateRank worker.state ≤ stateRank (worker.step mutator).state
  refusal : mutator.mutation.RefusalKeeps worker

/-- `assign_job` calls that succeed. -/
def assignments : Worker → List Mutator → Nat
  | _, [] => 0
  | worker, .assignJob jobId now :: rest =>
      (if (worker.mutate (.assignJob jobId now)).1 = .ok () then 1 else 0) +
        assignments (worker.step (.assignJob jobId now)) rest
  | worker, mutator :: rest => assignments (worker.step mutator) rest

/-- `mark_terminating` and `mark_failed` meet no worker with a job. -/
def EndsIdle (worker : Worker) : Mutator → Prop
  | .markTerminating _ | .markFailed _ => worker.state ≠ .busy
  | _ => True

/-! ## The mutators as functions -/

def transition (worker : Worker) (newState : WorkerState) (now : DateTime) :
    Except DomainError Worker :=
  if worker.state.canTransitionTo newState then
    .ok { worker with state := newState, updatedAt := now }
  else .error (.invalidWorkerStateTransition (stateText worker.state) (stateText newState))

def attempt (worker : Worker) : Mutator → Except DomainError Worker
  | .markReady now =>
      if worker.state = .ready then .ok worker
      else (worker.transition .ready now).map fun next =>
        { next with lastHeartbeat := next.updatedAt }
  | .assignJob jobId now =>
      (worker.transition .busy now).map fun next => { next with currentJobId := some jobId }
  | .completeJob now =>
      if worker.currentJobId.isSome then
        (worker.transition .terminated now).map fun next =>
          { next with
            currentJobId := none
            jobsExecuted := (next.jobsExecuted + 1) % 2 ^ 32
            jobCompletedAt := some next.updatedAt }
      else .error (.invalidWorkerStateTransition (stateText worker.state) (stateText .terminated))
  | .markTerminating now =>
      if worker.state = .terminated then .ok worker else worker.transition .terminated now
  | .markFailed now => worker.transition .terminated now
  | .updateHeartbeat beat now => .ok { worker with lastHeartbeat := beat, updatedAt := now }

variable {worker next : Worker} {mutator : Mutator}

theorem call_transition (newState : WorkerState) (now : DateTime) :
    (Mutation.transitionTo newState now).call worker =
      Method.outcome worker (worker.transition newState now) := by
  unfold transition
  refine (Method.call_require _ _ _).trans ?_
  cases worker.state.canTransitionTo newState <;> rfl

/-- What a mutator does is what its function returns; a refused one has written nothing. -/
theorem mutate_eq (worker : Worker) (mutator : Mutator) :
    worker.mutate mutator = Method.outcome worker (worker.attempt mutator) := by
  unfold mutate
  cases mutator with
  | markReady now =>
      refine (Method.call_get _).trans ?_
      simp only [attempt]
      split_ifs with ready
      · rfl
      · exact Method.call_then (call_transition .ready now) fun next => rfl
  | assignJob jobId now => exact Method.call_then (call_transition .busy now) fun next => rfl
  | completeJob now =>
      refine (Method.call_require _ _ _).trans ?_
      simp only [attempt]
      split_ifs with assigned
      · exact Method.call_then (call_transition .terminated now) fun next => rfl
      · rfl
  | markTerminating now =>
      refine (Method.call_get _).trans ?_
      simp only [attempt]
      split_ifs with terminated
      · rfl
      · exact call_transition .terminated now
  | markFailed now => exact call_transition .terminated now
  | updateHeartbeat beat now => rfl

/-! ## What a mutator does to the books -/

/-- The ways in which a mutator can succeed, as far as the books go. -/
inductive Change (worker : Worker) : Mutator → Worker → Prop where
  | kept {mutator : Mutator} {next : Worker} : EndsIdle worker mutator →
      next.state = worker.state → next.currentJobId = worker.currentJobId →
      next.jobsExecuted = worker.jobsExecuted → next.jobCompletedAt = worker.jobCompletedAt →
      Change worker mutator next
  | readied {mutator : Mutator} {next : Worker} : EndsIdle worker mutator →
      worker.state = .creating → next.state = .ready →
      next.currentJobId = worker.currentJobId → next.jobsExecuted = worker.jobsExecuted →
      next.jobCompletedAt = worker.jobCompletedAt → Change worker mutator next
  | assigned {mutator : Mutator} {next : Worker} : EndsIdle worker mutator →
      worker.state = .ready → next.state = .busy → next.currentJobId.isSome = true →
      next.jobsExecuted = worker.jobsExecuted → next.jobCompletedAt = worker.jobCompletedAt →
      Change worker mutator next
  | completed {mutator : Mutator} {next : Worker} : EndsIdle worker mutator →
      worker.state ≠ .terminated → next.state = .terminated → next.currentJobId = none →
      next.jobsExecuted = (worker.jobsExecuted + 1) % 2 ^ 32 →
      next.jobCompletedAt.isSome = true → Change worker mutator next
  | ended {mutator : Mutator} {next : Worker} : (EndsIdle worker mutator ↔ worker.state ≠ .busy) →
      worker.state ≠ .terminated → next.state = .terminated →
      next.currentJobId = worker.currentJobId → next.jobsExecuted = worker.jobsExecuted →
      next.jobCompletedAt = worker.jobCompletedAt → Change worker mutator next

theorem transition_ok {newState : WorkerState} {now : DateTime}
    (done : worker.transition newState now = .ok next) :
    worker.state.canTransitionTo newState = true ∧
      next = { worker with state := newState, updatedAt := now } := by
  unfold transition at done
  split_ifs at done with allowed
  cases done
  exact ⟨allowed, rfl⟩

theorem map_ok {change : Worker → Worker} {result : Except DomainError Worker}
    (done : result.map change = .ok next) : ∃ base, result = .ok base ∧ next = change base := by
  cases result with
  | error problem => cases done
  | ok base =>
      cases done
      exact ⟨base, rfl, rfl⟩

theorem creating_of_to_ready {state : WorkerState} (allowed : state.canTransitionTo .ready = true) :
    state = .creating := by
  cases state <;> first | rfl | cases allowed

theorem ready_of_to_busy {state : WorkerState} (allowed : state.canTransitionTo .busy = true) :
    state = .ready := by
  cases state <;> first | rfl | cases allowed

theorem active_of_transition {state newState : WorkerState}
    (allowed : state.canTransitionTo newState = true) : state ≠ .terminated := by
  intro terminated
  subst terminated
  cases newState <;> cases allowed

theorem change_of_attempt (done : worker.attempt mutator = .ok next) :
    Change worker mutator next := by
  cases mutator with
  | markReady now =>
      simp only [attempt] at done
      split_ifs at done with ready
      · cases done
        exact .kept trivial rfl rfl rfl rfl
      · obtain ⟨base, moved, same⟩ := map_ok done
        obtain ⟨allowed, base_eq⟩ := transition_ok moved
        subst same base_eq
        exact .readied trivial (creating_of_to_ready allowed) rfl rfl rfl rfl
  | assignJob jobId now =>
      obtain ⟨base, moved, same⟩ := map_ok done
      obtain ⟨allowed, base_eq⟩ := transition_ok moved
      subst same base_eq
      exact .assigned trivial (ready_of_to_busy allowed) rfl rfl rfl rfl
  | completeJob now =>
      simp only [attempt] at done
      split_ifs at done with assigned
      obtain ⟨base, moved, same⟩ := map_ok done
      obtain ⟨allowed, base_eq⟩ := transition_ok moved
      subst same base_eq
      exact .completed trivial (active_of_transition allowed) rfl rfl rfl rfl
  | markTerminating now =>
      simp only [attempt] at done
      split_ifs at done with terminated
      · cases done
        exact .kept (by simp [EndsIdle, terminated]) rfl rfl rfl rfl
      · obtain ⟨allowed, same⟩ := transition_ok done
        subst same
        exact .ended Iff.rfl terminated rfl rfl rfl rfl
  | markFailed now =>
      obtain ⟨allowed, same⟩ := transition_ok done
      subst same
      exact .ended Iff.rfl (active_of_transition allowed) rfl rfl rfl rfl
  | updateHeartbeat beat now =>
      cases done
      exact .kept trivial rfl rfl rfl rfl

/-! ## Runs -/

/-- What every run keeps: the books of a worker that has not ended its job. -/
structure Sound (worker : Worker) : Prop where
  busy : worker.state = .busy → worker.currentJobId.isSome = true
  unassigned : worker.state = .creating ∨ worker.state = .ready → worker.currentJobId = none
  unused : worker.state ≠ .terminated → worker.jobsExecuted = 0 ∧ worker.jobCompletedAt = none
  executed : worker.jobsExecuted ≤ 1
  completed : worker.jobsExecuted = 1 ↔ worker.jobCompletedAt.isSome = true

theorem consistent_iff (sound : Sound worker) :
    Consistent worker ↔ (worker.state = .terminated → worker.currentJobId = none) :=
  ⟨Consistent.released, fun released =>
    ⟨sound.busy, sound.unassigned, sound.executed, sound.completed, released⟩⟩

theorem step_done (done : worker.attempt mutator = .ok next) : worker.step mutator = next := by
  unfold step
  rw [mutate_eq, done]
  rfl

theorem step_refused {problem : DomainError} (refused : worker.attempt mutator = .error problem) :
    worker.step mutator = worker := by
  unfold step
  rw [mutate_eq, refused]
  rfl

theorem sound_of_change (sound : Sound worker) (change : Change worker mutator next) :
    Sound next := by
  cases change with
  | kept idle state current executed completed =>
      constructor <;> simp only [state, current, executed, completed]
      · exact sound.busy
      · exact sound.unassigned
      · exact sound.unused
      · exact sound.executed
      · exact sound.completed
  | readied idle before state current executed completed =>
      have unused := sound.unused (by simp [before])
      have free := sound.unassigned (.inl before)
      constructor <;> simp [state, current, executed, completed, unused, free]
  | assigned idle before state current executed completed =>
      have unused := sound.unused (by simp [before])
      constructor <;> simp [state, current, executed, completed, unused]
  | completed idle before state current executed completed =>
      have unused := sound.unused before
      constructor <;> simp [state, current, executed, completed, unused]
  | ended idle before state current executed completed =>
      have unused := sound.unused before
      constructor <;> simp [state, executed, completed, unused]

theorem sound_step (worker : Worker) (mutator : Mutator) (sound : Sound worker) :
    Sound (worker.step mutator) := by
  cases attempted : worker.attempt mutator with
  | error problem => rwa [step_refused attempted]
  | ok next =>
      rw [step_done attempted]
      exact sound_of_change sound (change_of_attempt attempted)

/-- A successful mutator keeps the books exactly if it is not one that ends a worker
with its job. -/
theorem consistent_of_change_iff (sound : Sound worker) (consistent : Consistent worker)
    (change : Change worker mutator next) : Consistent next ↔ EndsIdle worker mutator := by
  rw [consistent_iff (sound_of_change sound change)]
  cases change with
  | kept idle state current executed completed =>
      rw [state, current]
      exact iff_of_true consistent.released idle
  | readied idle before state current executed completed =>
      exact iff_of_true (by simp [state]) idle
  | assigned idle before state current executed completed =>
      exact iff_of_true (by simp [state]) idle
  | completed idle before state current executed completed =>
      exact iff_of_true (fun _ => current) idle
  | ended idle before state current executed completed =>
      rw [idle, current]
      constructor
      · intro released busy
        have assigned := sound.busy busy
        rw [released state] at assigned
        cases assigned
      · intro free _
        apply sound.unassigned
        cases found : worker.state with
        | creating => exact .inl rfl
        | ready => exact .inr rfl
        | busy => exact absurd found free
        | terminated => exact absurd found before

theorem ends_idle_of_refused {problem : DomainError}
    (refused : worker.attempt mutator = .error problem) : EndsIdle worker mutator := by
  have moves : ∀ now, worker.state = .busy →
      worker.transition .terminated now =
        .ok { worker with state := .terminated, updatedAt := now } := by
    intro now busy
    unfold transition
    rw [busy]
    rfl
  cases mutator with
  | markTerminating now =>
      intro busy
      simp [attempt, moves now busy, busy] at refused
  | markFailed now =>
      intro busy
      simp [attempt, moves now busy] at refused
  | _ => trivial

theorem consistent_step_iff (sound : Sound worker) (consistent : Consistent worker)
    (mutator : Mutator) : Consistent (worker.step mutator) ↔ EndsIdle worker mutator := by
  cases attempted : worker.attempt mutator with
  | error problem =>
      rw [step_refused attempted]
      exact iff_of_true consistent (ends_idle_of_refused attempted)
  | ok next =>
      rw [step_done attempted]
      exact consistent_of_change_iff sound consistent (change_of_attempt attempted)

theorem rank_of_change (change : Change worker mutator next) :
    stateRank worker.state ≤ stateRank next.state := by
  cases change with
  | kept idle state current executed completed => rw [state]
  | readied idle before state current executed completed => simp [before, state, stateRank]
  | assigned idle before state current executed completed => simp [before, state, stateRank]
  | completed idle before state current executed completed =>
      rw [state]
      cases worker.state <;> simp [stateRank]
  | ended idle before state current executed completed =>
      rw [state]
      cases worker.state <;> simp [stateRank]

theorem forward (worker : Worker) (mutator : Mutator) : Forward worker mutator := by
  constructor
  · cases attempted : worker.attempt mutator with
    | error problem => rw [step_refused attempted]
    | ok next =>
        rw [step_done attempted]
        exact rank_of_change (change_of_attempt attempted)
  · exact Method.refusal_keeps_of_outcome (mutate_eq worker mutator)

/-- A job is assigned only to a ready worker, and makes it busy. -/
theorem rank_of_assigned {jobId : JobId} {now : DateTime}
    (done : (worker.mutate (.assignJob jobId now)).1 = .ok ()) :
    stateRank worker.state = 1 ∧ stateRank (worker.step (.assignJob jobId now)).state = 2 := by
  cases attempted : worker.attempt (.assignJob jobId now) with
  | error problem =>
      rw [mutate_eq, attempted] at done
      cases done
  | ok next =>
      rw [step_done attempted]
      obtain ⟨base, moved, same⟩ := map_ok attempted
      obtain ⟨allowed, base_eq⟩ := transition_ok moved
      subst same base_eq
      simp [ready_of_to_busy allowed, stateRank]

theorem assignments_le (mutators : List Mutator) (worker : Worker) :
    assignments worker mutators ≤ if stateRank worker.state ≤ 1 then 1 else 0 := by
  induction mutators generalizing worker with
  | nil => simp [assignments]
  | cons mutator rest ih =>
      have later := ih (worker.step mutator)
      have rank := (forward worker mutator).rank
      have after : assignments (worker.step mutator) rest ≤
          if stateRank worker.state ≤ 1 then 1 else 0 := by
        split_ifs at later ⊢ <;> omega
      cases mutator with
      | assignJob jobId now =>
          unfold assignments
          by_cases done : (worker.mutate (.assignJob jobId now)).1 = .ok ()
          · obtain ⟨before, behind⟩ := rank_of_assigned done
            rw [behind, if_neg (by omega)] at later
            rw [if_pos done, before, if_pos (by omega)]
            omega
          · rwa [if_neg done, Nat.zero_add]
      | _ => exact after

theorem sound_new (handle : WorkerHandle) (spec : WorkerSpec) (now : DateTime) :
    Sound (new handle spec now) := by
  constructor <;> simp [new]

/-- The books of a worker are kept in exactly the runs in which no busy worker is
terminated or failed from outside. -/
theorem worker_contract_iff (handle : WorkerHandle) (spec : WorkerSpec) (now : DateTime)
    (mutators : List Mutator) :
    (Always step Consistent (new handle spec now) mutators ∧
        EachMove step Forward (new handle spec now) mutators ∧
        assignments (new handle spec now) mutators ≤ 1) ↔
      EachMove step EndsIdle (new handle spec now) mutators := by
  have start := sound_new handle spec now
  have once : assignments (new handle spec now) mutators ≤ 1 :=
    (assignments_le mutators _).trans (by split_ifs <;> omega)
  have consistent : Consistent (new handle spec now) :=
    (consistent_iff start).mpr (by simp [new])
  rw [and_iff_left once]
  apply always_and_each_move_iff step Sound Consistent sound_step _ mutators _ start consistent
  intro worker mutator sound books
  rw [consistent_step_iff sound books mutator]
  exact (and_iff_left (forward worker mutator)).symm

/-- A worker that fails during its job is terminated with the job still assigned. -/
theorem failed_worker_keeps_job :
    let start := new ⟨⟨1⟩, .docker⟩ WorkerSpec.new 0
    let mutators := [.markReady 1, .assignJob ⟨7⟩ 2, .markFailed 3]
    ¬(Always step Consistent start mutators ∧ EachMove step Forward start mutators ∧
      assignments start mutators ≤ 1) := by
  intro start mutators contract
  have held : some (⟨7⟩ : JobId) = none := contract.1.2.2.2.released rfl
  cases held

end Worker

end HodeiJobs.Workers
