import HodeiJobs.Jobs.Aggregate
import HodeiJobs.Library.Runs

/-!
# Attempts of a job

`attempts` counts an attempt when `fail` or `timeout` ends it, and again when
`prepare_retry` starts the next one, but not when `complete` ends it. Here the counter
is followed through every order of the operations.
-/

namespace HodeiJobs.Jobs

open HodeiJobs.Library HodeiJobs.Shared
open HodeiJobs.Sagas (DateTime)
open HodeiJobs.Execution (JobId)

/-! ## Runs of operations -/

/-- The job, the attempts that have ended in failure or timeout, and those of them
that `complete` ended. -/
structure AttemptRun where
  job : Job
  ended : Nat
  viaComplete : Nat

namespace AttemptRun

def start (id : JobId) (maxAttempts : Nat) : AttemptRun :=
  ⟨{ Job.new id true with maxAttempts := maxAttempts }, 0, 0⟩

def step (run : AttemptRun) (operation : JobOperation) : AttemptRun :=
  match run.job.perform operation with
  | .error _ => run
  | .ok next =>
      if ¬run.job.Ended ∧ next.Ended then
        ⟨next, run.ended + 1,
          if operation.isComplete then run.viaComplete + 1 else run.viaComplete⟩
      else { run with job := next }

/-! ## The claim and the condition -/

def WithinMax (run : AttemptRun) : Prop := run.job.attempts ≤ run.job.maxAttempts

/-- A retry is granted exactly while attempts are left. -/
def RetriesExactly (run : AttemptRun) (operation : JobOperation) : Prop :=
  operation = .prepareRetry → run.job.Ended →
    ((∃ next, run.job.prepareRetry = .ok next) ↔ run.ended < run.job.maxAttempts)

/-- Where the counter decides, it decides as the number of ended attempts would. An ended
attempt has counted once, twice after its retry, and one less if `complete` ended it. -/
def CountsAgree (run : AttemptRun) (operation : JobOperation) : Prop :=
  match operation with
  | .prepareRetry => run.job.Ended →
      ((2 * run.ended - run.viaComplete - 1) % 2 ^ 32 < run.job.maxAttempts ↔
        run.ended < run.job.maxAttempts)
  | .fail _ _ => run.job.state.canTransitionTo .failed = true →
      (2 * run.ended - run.viaComplete + 1) % 2 ^ 32 ≤ run.job.maxAttempts
  | .timeout _ => run.job.state.canTransitionTo .timeout = true →
      (2 * run.ended - run.viaComplete + 1) % 2 ^ 32 ≤ run.job.maxAttempts
  | _ => True

/-! ## The counter along a run -/

section Step

variable {maxAttempts : Nat} {run : AttemptRun} {operation : JobOperation} {next : Job}

/-- What `attempts` has counted. -/
structure Counted (maxAttempts : Nat) (run : AttemptRun) : Prop where
  sameMax : run.job.maxAttempts = maxAttempts
  allowed : run.job.allowRetry = true
  active : ¬run.job.Ended → run.job.attempts = (2 * run.ended - run.viaComplete) % 2 ^ 32
  waiting : run.job.Ended → run.job.attempts = (2 * run.ended - run.viaComplete - 1) % 2 ^ 32
  fewer : run.viaComplete ≤ run.ended
  started : run.job.Ended → 0 < run.ended

theorem counted_start (id : JobId) : Counted maxAttempts (start id maxAttempts) := by
  constructor <;> simp [start, Job.new, Job.Ended]

theorem Counted.small (counted : Counted maxAttempts run) : run.job.attempts < 2 ^ 32 := by
  by_cases ended : run.job.Ended
  · rw [counted.waiting ended]
    exact Nat.mod_lt _ (by decide)
  · rw [counted.active ended]
    exact Nat.mod_lt _ (by decide)

theorem step_error {problem : DomainError} (refused : run.job.perform operation = .error problem) :
    run.step operation = run := by
  simp only [step, refused]

theorem step_goes_on (performed : run.job.perform operation = .ok next) (goesOn : ¬next.Ended) :
    run.step operation = { run with job := next } := by
  simp only [step, performed, goesOn, and_false, if_false]

theorem step_ends (performed : run.job.perform operation = .ok next) (active : ¬run.job.Ended)
    (ends : next.Ended) :
    run.step operation = ⟨next, run.ended + 1,
      if operation.isComplete then run.viaComplete + 1 else run.viaComplete⟩ := by
  simp only [step, performed, active, ends, not_false_eq_true, and_self, if_true]

/-- A job that is not waiting for a retry. -/
theorem counted_active (counted : Counted maxAttempts run)
    (sameMax : next.maxAttempts = run.job.maxAttempts)
    (sameAllow : next.allowRetry = run.job.allowRetry) (goesOn : ¬next.Ended)
    (attempts : next.attempts = (2 * run.ended - run.viaComplete) % 2 ^ 32) :
    Counted maxAttempts { run with job := next } := by
  constructor
  · exact sameMax.trans counted.sameMax
  · exact sameAllow.trans counted.allowed
  · intro _
    exact attempts
  · intro ended
    exact absurd ended goesOn
  · exact counted.fewer
  · intro ended
    exact absurd ended goesOn

theorem counted_ended (counted : Counted maxAttempts run)
    (sameMax : next.maxAttempts = run.job.maxAttempts)
    (sameAllow : next.allowRetry = run.job.allowRetry) (ended : next.Ended)
    (counts : operation.counts = 1 ∨ operation.isComplete = true)
    (attempts : next.attempts =
      (2 * run.ended - run.viaComplete + operation.counts) % 2 ^ 32) :
    Counted maxAttempts ⟨next, run.ended + 1,
      if operation.isComplete then run.viaComplete + 1 else run.viaComplete⟩ := by
  have fewer := counted.fewer
  have counted_once : next.attempts = (2 * (run.ended + 1) -
      (if operation.isComplete then run.viaComplete + 1 else run.viaComplete) - 1) % 2 ^ 32 := by
    rw [attempts]
    congr 1
    cases complete : operation.isComplete with
    | true =>
        rw [JobOperation.counts_of_complete complete]
        simp only [if_true]
        omega
    | false =>
        rw [counts.resolve_right (by simp [complete])]
        simp only [Bool.false_eq_true, if_false]
        omega
  constructor
  · exact sameMax.trans counted.sameMax
  · exact sameAllow.trans counted.allowed
  · intro active
    exact absurd ended active
  · intro _
    exact counted_once
  · simp only
    split_ifs <;> omega
  · intro _
    exact Nat.succ_pos _

theorem counted_step (counted : Counted maxAttempts run) :
    Counted maxAttempts (run.step operation) := by
  have fewer := counted.fewer
  cases performed : run.job.perform operation with
  | error problem =>
      rw [step_error performed]
      exact counted
  | ok next =>
      obtain ⟨moves, sameMax, sameAllow⟩ := Job.moves_of_perform performed
      cases moves with
      | transition transition attempts ends =>
          have active := Job.not_ended_of_transition transition
          have attempts := attempts counted.small
          rw [counted.active active, Nat.mod_add_mod] at attempts
          by_cases ended : next.Ended
          · rw [step_ends performed active ended]
            have counts := (ends.mp ended).imp_right And.right
            exact counted_ended counted sameMax sameAllow ended counts attempts
          · rw [step_goes_on performed ended]
            have nothing : operation.counts = 0 := by
              have one := operation.counts_le_one
              have other : operation.counts ≠ 1 := fun counts => ended (ends.mpr (Or.inl counts))
              omega
            rw [nothing] at attempts
            exact counted_active counted sameMax sameAllow ended attempts
      | assign active assigned attempts _ =>
          have goesOn : ¬next.Ended := by simp [Job.Ended, assigned]
          rw [step_goes_on performed goesOn]
          rw [counted.active (Job.not_ended_of_active active)] at attempts
          exact counted_active counted sameMax sameAllow goesOn attempts
      | retry _ canRetry pending attempts =>
          have goesOn : ¬next.Ended := by simp [Job.Ended, pending]
          rw [step_goes_on performed goesOn]
          have ended : run.job.Ended := by
            simp only [Job.canRetry, Bool.and_eq_true, decide_eq_true_eq] at canRetry
            exact canRetry.1.2
          have started := counted.started ended
          have counts : 2 * run.ended - run.viaComplete - 1 + 1 =
              2 * run.ended - run.viaComplete := by omega
          rw [counted.waiting ended, Nat.mod_add_mod, counts] at attempts
          exact counted_active counted sameMax sameAllow goesOn attempts

/-! ## Where the counter decides -/

theorem retry_granted_iff (counted : Counted maxAttempts run) (ended : run.job.Ended) :
    (∃ next, run.job.prepareRetry = .ok next) ↔
      (2 * run.ended - run.viaComplete - 1) % 2 ^ 32 < run.job.maxAttempts := by
  have can : run.job.canRetry = true ↔
      (2 * run.ended - run.viaComplete - 1) % 2 ^ 32 < run.job.maxAttempts := by
    rw [← counted.waiting ended]
    simp [Job.canRetry, ended, counted.allowed]
  rw [← can]
  unfold Job.prepareRetry
  by_cases granted : run.job.canRetry = true <;> simp [granted]

theorem step_job (performed : run.job.perform operation = .ok next) :
    (run.step operation).job = next := by
  simp only [step, performed]
  split_ifs <;> rfl

/-- Only an operation that counts can leave the maximum behind. -/
theorem within_max_iff (counted : Counted maxAttempts run) (within : run.WithinMax)
    (other : operation ≠ .prepareRetry) :
    (run.step operation).WithinMax ↔
      ((∃ next, run.job.perform operation = .ok next) → operation.counts = 1 →
        (2 * run.ended - run.viaComplete + 1) % 2 ^ 32 ≤ run.job.maxAttempts) := by
  cases performed : run.job.perform operation with
  | error problem =>
      rw [step_error performed]
      exact iff_of_true within (by simp)
  | ok next =>
      obtain ⟨moves, sameMax, _⟩ := Job.moves_of_perform performed
      unfold WithinMax at *
      rw [step_job performed, sameMax]
      cases moves with
      | transition transition attempts =>
          have active := counted.active (Job.not_ended_of_transition transition)
          have attempts := attempts counted.small
          have one := operation.counts_le_one
          by_cases counts : operation.counts = 1
          · rw [attempts, active, Nat.mod_add_mod, counts]
            simp
          · have nothing : operation.counts = 0 := by omega
            have same : next.attempts = run.job.attempts := by
              rw [attempts, nothing]
              exact Nat.mod_eq_of_lt counted.small
            rw [same]
            simp [within, counts]
      | assign _ _ attempts nothing =>
          rw [attempts]
          simp [within, nothing]
      | retry isRetry => exact absurd isRetry other

theorem within_max_retry (within : run.WithinMax) :
    (run.step .prepareRetry).WithinMax := by
  cases performed : run.job.perform .prepareRetry with
  | error problem =>
      rw [step_error performed]
      exact within
  | ok next =>
      unfold WithinMax
      rw [step_job performed]
      simp only [Job.perform, Job.prepareRetry] at performed
      split_ifs at performed with granted
      cases performed
      simp only [Job.canRetry, Bool.and_eq_true, decide_eq_true_eq] at granted
      exact (Nat.mod_le _ _).trans granted.1.1

theorem fails_iff (job : Job) (errorMessage : String) (now : DateTime) :
    (∃ next, job.perform (.fail errorMessage now) = .ok next) ↔
      job.state.canTransitionTo .failed = true := by
  simp only [Job.perform, Job.fail, Execution.Job.fail]
  split_ifs with allowed <;> simp [Job.carry, allowed]

theorem times_out_iff (job : Job) (now : DateTime) :
    (∃ next, job.perform (.timeout now) = .ok next) ↔
      job.state.canTransitionTo .timeout = true := by
  simp only [Job.perform, Job.timeout, Execution.Job.timeout]
  split_ifs with allowed <;> simp [Job.carry, allowed]

theorem counts_agree_iff (counted : Counted maxAttempts run) (within : run.WithinMax) :
    run.CountsAgree operation ↔
      (run.step operation).WithinMax ∧ run.RetriesExactly operation := by
  cases operation with
  | prepareRetry =>
      have kept := within_max_retry within
      simp only [CountsAgree, RetriesExactly, kept, true_and, forall_const]
      apply forall_congr'
      intro ended
      rw [retry_granted_iff counted ended]
  | fail errorMessage now =>
      rw [within_max_iff counted within (by simp), fails_iff]
      simp [CountsAgree, RetriesExactly, JobOperation.counts]
  | timeout now =>
      rw [within_max_iff counted within (by simp), times_out_iff]
      simp [CountsAgree, RetriesExactly, JobOperation.counts]
  | submitToProvider | assignToProvider | markRunning | complete | cancel =>
      rw [within_max_iff counted within (by simp)]
      simp [CountsAgree, RetriesExactly, JobOperation.counts]

end Step

/-- The job is allowed exactly its attempts, and its counter stays within the maximum,
exactly in the runs in which the counts agree at every operation. -/
theorem attempts_exact_iff (id : JobId) (maxAttempts : Nat) (operations : List JobOperation) :
    (Always step WithinMax (start id maxAttempts) operations ∧
        EachMove step RetriesExactly (start id maxAttempts) operations) ↔
      EachMove step CountsAgree (start id maxAttempts) operations := by
  exact always_and_each_move_iff step (Counted maxAttempts) WithinMax
    (fun _ _ counted => counted_step counted)
    (fun _ _ counted within => counts_agree_iff counted within)
    operations (start id maxAttempts) (counted_start id) (Nat.zero_le _)

/-- Two failed attempts out of three, and the third is refused. -/
theorem third_attempt_refused :
    ¬(Always step WithinMax (start ⟨7⟩ 3)
          [.fail "boom" 1, .prepareRetry, .fail "boom" 2, .prepareRetry] ∧
        EachMove step RetriesExactly (start ⟨7⟩ 3)
          [.fail "boom" 1, .prepareRetry, .fail "boom" 2, .prepareRetry]) := by
  intro ⟨_, _, _, _, exactly, _⟩
  obtain ⟨next, granted⟩ := (exactly rfl (by decide)).mpr (by decide)
  cases granted

end AttemptRun

end HodeiJobs.Jobs
