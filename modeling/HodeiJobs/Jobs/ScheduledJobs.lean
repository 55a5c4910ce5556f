import HodeiJobs.Library.Casts
import HodeiJobs.Library.Runs
import HodeiJobs.Sagas.Types
import Mathlib.Data.List.Infix

/-!
# Scheduled jobs

A scheduled job counts the failures of its executions and pauses itself at a maximum. The
counter goes back to zero at every trigger, not only after a success. The table holds both
numbers in signed columns.
-/

namespace HodeiJobs.Jobs

open HodeiJobs.Library
open HodeiJobs.Sagas (DateTime)

inductive JobExecutionStatus where
  | queued
  | running
  | succeeded
  | failed
  | error
  deriving DecidableEq, Repr

def JobExecutionStatus.display : JobExecutionStatus → String
  | .queued => "Queued"
  | .running => "Running"
  | .succeeded => "Succeeded"
  | .failed => "Failed"
  | .error => "Error"

structure ScheduledJob where
  cronExpression : String
  nextExecutionAt : DateTime
  lastExecutionAt : Option DateTime
  lastExecutionStatus : Option JobExecutionStatus
  enabled : Bool
  maxConsecutiveFailures : Nat
  consecutiveFailures : Nat
  pauseOnFailure : Bool
  updatedAt : DateTime
  deriving DecidableEq

namespace ScheduledJob

def new (cronExpression : String) (now : DateTime) : ScheduledJob where
  cronExpression := cronExpression
  nextExecutionAt := now
  lastExecutionAt := none
  lastExecutionStatus := none
  enabled := true
  maxConsecutiveFailures := 3
  consecutiveFailures := 0
  pauseOnFailure := false
  updatedAt := now

def withMaxConsecutiveFailures (job : ScheduledJob) (maxFailures : Nat) : ScheduledJob :=
  { job with maxConsecutiveFailures := maxFailures }

def withPauseOnFailure (job : ScheduledJob) (pause : Bool) : ScheduledJob :=
  { job with pauseOnFailure := pause }

def markTriggered (job : ScheduledJob) (now : DateTime) : ScheduledJob :=
  { job with lastExecutionAt := some now, consecutiveFailures := 0 }

def markSuccess (job : ScheduledJob) (now : DateTime) : ScheduledJob :=
  { job with
    lastExecutionStatus := some .succeeded
    consecutiveFailures := 0
    updatedAt := now }

/-- The counter is a `u32`. -/
def markFailed (job : ScheduledJob) (now : DateTime) : ScheduledJob :=
  let failures := (job.consecutiveFailures + 1) % 2 ^ 32
  { job with
    lastExecutionStatus := some .failed
    consecutiveFailures := failures
    updatedAt := now
    enabled :=
      if job.pauseOnFailure ∧ job.maxConsecutiveFailures ≤ failures then false else job.enabled }

end ScheduledJob

/-! ## The table -/

structure ScheduledJobRow where
  cronExpression : String
  nextExecutionAt : DateTime
  lastExecutionAt : Option DateTime
  lastExecutionStatus : Option String
  enabled : Bool
  maxConsecutiveFailures : Int
  consecutiveFailures : Int
  pauseOnFailure : Bool
  updatedAt : DateTime
  deriving DecidableEq

namespace ScheduledJobRow

/-- `save` of a job that is not in the table. -/
def save (job : ScheduledJob) : ScheduledJobRow where
  cronExpression := job.cronExpression
  nextExecutionAt := job.nextExecutionAt
  lastExecutionAt := job.lastExecutionAt
  lastExecutionStatus := job.lastExecutionStatus.map JobExecutionStatus.display
  enabled := job.enabled
  maxConsecutiveFailures := asI32 job.maxConsecutiveFailures
  consecutiveFailures := asI32 job.consecutiveFailures
  pauseOnFailure := job.pauseOnFailure
  updatedAt := job.updatedAt

/-- The call panics if the cron crate, `nextTime`, cannot read the expression or finds no
time after this one; the row is not written then. -/
def markTriggered (nextTime : String → DateTime → Option DateTime) (row : ScheduledJobRow)
    (triggeredAt now : DateTime) : ScheduledJobRow :=
  match nextTime row.cronExpression triggeredAt with
  | none => row
  | some nextExecution =>
      { row with
        lastExecutionAt := some triggeredAt
        consecutiveFailures := 0
        nextExecutionAt := nextExecution
        updatedAt := now }

/-- One `UPDATE`; it fails if the sum does not fit the column. -/
def markFailed (row : ScheduledJobRow) (status : JobExecutionStatus) (now : DateTime) :
    ScheduledJobRow :=
  if 2 ^ 31 ≤ row.consecutiveFailures + 1 then row
  else
    { row with
      lastExecutionStatus := some status.display
      consecutiveFailures := row.consecutiveFailures + 1
      lastExecutionAt := some now
      updatedAt := now
      enabled :=
        if row.pauseOnFailure = true ∧ row.maxConsecutiveFailures ≤ row.consecutiveFailures + 1 then
          false
        else row.enabled }

end ScheduledJobRow

/-! ## Executions -/

/-- One execution: when it was triggered, when it ended, and whether it failed. -/
structure Execution where
  triggeredAt : DateTime
  endedAt : DateTime
  failed : Bool
  deriving DecidableEq, Repr

namespace ScheduledJob

def cycle (job : ScheduledJob) (execution : Execution) : ScheduledJob :=
  let triggered := job.markTriggered execution.triggeredAt
  if execution.failed then triggered.markFailed execution.endedAt
  else triggered.markSuccess execution.endedAt

/-! ## The claim and the condition -/

/-- `enabled` and `consecutive_failures` of the row are those of the job. -/
def InStep (row : ScheduledJobRow) (job : ScheduledJob) : Prop :=
  row.enabled = job.enabled ∧ row.consecutiveFailures = asI32 job.consecutiveFailures

/-- The operations of the repository do to the row what those of the aggregate do. -/
def RepositoryFollows (nextTime : String → DateTime → Option DateTime) (job : ScheduledJob)
    (execution : Execution) : Prop :=
  let triggered := job.markTriggered execution.triggeredAt
  InStep ((ScheduledJobRow.save job).markTriggered nextTime execution.triggeredAt
      execution.triggeredAt) triggered ∧
    (execution.failed = true →
      InStep ((ScheduledJobRow.save triggered).markFailed .failed execution.endedAt)
        (triggered.markFailed execution.endedAt))

/-- There have been `count` failures in a row. -/
def FailuresInARow (count : Nat) (history : List Execution) : Prop :=
  List.replicate count true <:+: history.map Execution.failed

/-- The job is disabled from the `count`-th failure in a row on, and not before. -/
def DisablesAt (count : Nat) (job : ScheduledJob) (history : List Execution) : Prop :=
  ∀ earlier later, earlier ++ later = history →
    ((earlier.foldl cycle job).enabled = false ↔ FailuresInARow count earlier)

/-- The maximum fits the signed column if it is looked at, and a trigger that resets the
counter finds its next time. -/
def ColumnsSuffice (nextTime : String → DateTime → Option DateTime) (job : ScheduledJob)
    (execution : Execution) : Prop :=
  (execution.failed = true → job.maxConsecutiveFailures < 2 ^ 31) ∧
    (job.consecutiveFailures = 0 ∨
      (nextTime job.cronExpression execution.triggeredAt).isSome = true)

/-! ## Histories -/

/-- What every history keeps of a job with this maximum that pauses on failure. -/
structure Paused (count : Nat) (job : ScheduledJob) : Prop where
  maximum : job.maxConsecutiveFailures = count
  pauses : job.pauseOnFailure = true
  counter : job.consecutiveFailures ≤ 1
  disabled : job.enabled = false → count = 1

variable {count : Nat} {job : ScheduledJob}

/-- The counter starts every execution at zero, so a failure makes it one. -/
theorem cycle_enabled (positive : 1 ≤ count) (paused : Paused count job)
    (execution : Execution) :
    (job.cycle execution).enabled = false ↔
      job.enabled = false ∨ count = 1 ∧ execution.failed = true := by
  cases failed : execution.failed with
  | false => simp [cycle, failed, markTriggered, markSuccess]
  | true =>
      simp only [cycle, failed, markTriggered, markFailed, paused.pauses, paused.maximum, if_true]
      by_cases one : count = 1
      · simp [one]
      · have more : ¬count ≤ 1 := by omega
        simp [one, more]

theorem paused_cycle (positive : 1 ≤ count) (execution : Execution) (paused : Paused count job) :
    Paused count (job.cycle execution) := by
  have disabled : (job.cycle execution).enabled = false → count = 1 := by
    intro off
    rcases (cycle_enabled positive paused execution).mp off with before | now
    · exact paused.disabled before
    · exact now.1
  cases failed : execution.failed with
  | false =>
      simp only [cycle, failed] at disabled ⊢
      exact ⟨paused.maximum, paused.pauses, Nat.zero_le _, disabled⟩
  | true =>
      simp only [cycle, failed] at disabled ⊢
      exact ⟨paused.maximum, paused.pauses, by simp [markFailed, markTriggered], disabled⟩

theorem run_enabled (positive : 1 ≤ count) (history : List Execution) (paused : Paused count job) :
    (history.foldl cycle job).enabled = false ↔
      job.enabled = false ∨ count = 1 ∧ FailuresInARow 1 history := by
  have single : ∀ history, FailuresInARow 1 history ↔ true ∈ history.map Execution.failed := by
    intro history
    exact List.singleton_infix_iff _ _
  induction history generalizing job with
  | nil => simp [single]
  | cons execution rest ih =>
      rw [List.foldl_cons]
      refine (ih (paused_cycle positive execution paused)).trans ?_
      rw [cycle_enabled positive paused execution]
      simp only [single, List.map_cons, List.mem_cons]
      tauto

theorem disables_at_iff (positive : 1 ≤ count) (paused : Paused count job)
    (enabled : job.enabled = true) (history : List Execution) :
    DisablesAt count job history ↔ count = 1 ∨ ¬FailuresInARow count history := by
  constructor
  · intro disables
    by_cases one : count = 1
    · exact .inl one
    · right
      intro failures
      have off := (disables history [] (List.append_nil _)).mpr failures
      rw [run_enabled positive history paused, enabled] at off
      simp [one] at off
  · intro condition earlier later split
    rw [run_enabled positive earlier paused, enabled]
    by_cases one : count = 1
    · simp [one]
    · have none : ¬FailuresInARow count earlier := by
        intro failures
        have longer : FailuresInARow count history := by
          subst split
          unfold FailuresInARow
          rw [List.map_append]
          exact failures.trans (List.infix_append' [] _ _)
        exact (condition.resolve_left one) longer
      simp [one, none]

/-! ## The table follows -/

theorem triggered_in_step_iff (nextTime : String → DateTime → Option DateTime)
    (job : ScheduledJob) (triggeredAt : DateTime) (counter : job.consecutiveFailures ≤ 1) :
    InStep ((ScheduledJobRow.save job).markTriggered nextTime triggeredAt triggeredAt)
        (job.markTriggered triggeredAt) ↔
      job.consecutiveFailures = 0 ∨
        (nextTime job.cronExpression triggeredAt).isSome = true := by
  simp only [ScheduledJobRow.markTriggered, InStep, ScheduledJobRow.save, markTriggered,
    as_i32_zero]
  cases nextTime job.cronExpression triggeredAt with
  | some next => simp
  | none =>
      have columns : asI32 job.consecutiveFailures = job.consecutiveFailures :=
        as_i32_small (by omega)
      simp [columns]

/-- A counter of zero is raised to one in both, and compared with the maximum. -/
theorem failed_in_step_iff (positive : 1 ≤ count) (small : count < 2 ^ 32)
    (paused : Paused count job) (triggeredAt endedAt : DateTime) :
    InStep ((ScheduledJobRow.save (job.markTriggered triggeredAt)).markFailed .failed endedAt)
        ((job.markTriggered triggeredAt).markFailed endedAt) ↔ count < 2 ^ 31 := by
  have fits : ¬(2 : Int) ^ 31 ≤ 1 := by decide
  have sum : (0 + 1) % 2 ^ 32 = 1 := by decide
  simp only [InStep, ScheduledJobRow.save, ScheduledJobRow.markFailed, markTriggered, markFailed,
    as_i32_zero, as_i32_one, paused.pauses, paused.maximum, fits, sum, if_false, true_and,
    zero_add, and_true]
  by_cases large : count < 2 ^ 31
  · rw [as_i32_small large]
    have same : (count : Int) ≤ 1 ↔ count ≤ 1 := by omega
    simp only [same, large]
  · have negative := as_i32_large (not_lt.mp large) small
    have below : asI32 count ≤ 1 := by omega
    have above : ¬count ≤ 1 := by omega
    have enabled : job.enabled = true := by
      by_contra off
      have one := paused.disabled (by simpa using off)
      omega
    simp only [below, above, enabled, large]
    simp

theorem repository_follows_iff (nextTime : String → DateTime → Option DateTime)
    (positive : 1 ≤ count) (small : count < 2 ^ 32) (paused : Paused count job)
    (execution : Execution) :
    RepositoryFollows nextTime job execution ↔ ColumnsSuffice nextTime job execution := by
  unfold RepositoryFollows ColumnsSuffice
  rw [paused.maximum, ← failed_in_step_iff positive small paused execution.triggeredAt
    execution.endedAt, ← triggered_in_step_iff nextTime job _ paused.counter]
  exact And.comm

/-- A new job with this maximum that pauses on failure. -/
def pausing (cronExpression : String) (now : DateTime) (count : Nat) : ScheduledJob :=
  ((new cronExpression now).withMaxConsecutiveFailures count).withPauseOnFailure true

theorem paused_pausing (cronExpression : String) (now : DateTime) (count : Nat) :
    Paused count (pausing cronExpression now count) :=
  ⟨rfl, rfl, Nat.zero_le _, fun off => by cases off⟩

/-- The job is disabled at its `count`-th failure in a row, and the table follows it,
exactly if the maximum is one or never reached, fits the signed column once an execution
fails, and every trigger after a failure finds its next time. -/
theorem disables_and_follows_iff (nextTime : String → DateTime → Option DateTime)
    (cronExpression : String) (now : DateTime) (count : Nat) (history : List Execution)
    (positive : 1 ≤ count) (small : count < 2 ^ 32) :
    DisablesAt count (pausing cronExpression now count) history ∧
        EachMove cycle (RepositoryFollows nextTime) (pausing cronExpression now count) history ↔
      (count = 1 ∨ ¬FailuresInARow count history) ∧
        EachMove cycle (ColumnsSuffice nextTime) (pausing cronExpression now count) history := by
  have paused := paused_pausing cronExpression now count
  rw [disables_at_iff positive paused rfl]
  apply and_congr_right'
  exact each_move_congr_within cycle (Paused count)
    (fun job execution paused => repository_follows_iff nextTime positive small paused execution)
    (fun job execution paused _ => paused_cycle positive execution paused) history _ paused

theorem one_failure_disables :
    DisablesAt 1 (pausing "0 * * * * *" 0 1) [⟨1, 2, true⟩] ∧
        EachMove cycle (RepositoryFollows fun _ time => some (time + 60))
          (pausing "0 * * * * *" 0 1) [⟨1, 2, true⟩] :=
  (disables_and_follows_iff (fun _ time => some (time + 60)) "0 * * * * *" 0 1 [⟨1, 2, true⟩]
    (by decide) (by decide)).mpr ⟨.inl rfl, ⟨fun _ => by decide, .inl rfl⟩, trivial⟩

/-- Three failures in a row do not disable a job whose maximum is three. -/
theorem three_failures_do_not_disable :
    ¬(DisablesAt 3 (pausing "0 * * * * *" 0 3) [⟨1, 2, true⟩, ⟨3, 4, true⟩, ⟨5, 6, true⟩] ∧
      EachMove cycle (RepositoryFollows fun _ time => some (time + 60))
        (pausing "0 * * * * *" 0 3) [⟨1, 2, true⟩, ⟨3, 4, true⟩, ⟨5, 6, true⟩]) := by
  intro ⟨disables, _⟩
  have disabled := (disables _ [] (List.append_nil _)).mpr (List.infix_refl _)
  cases disabled

end ScheduledJob

end HodeiJobs.Jobs
