import HodeiJobs.Library.Runs
import HodeiJobs.Sagas.Types

/-!
# The polling of the reactive relay

The loop of `ReactiveOutboxRelay::run`. Each iteration waits for a notification and, beside it, for
the time of the next poll, both from its own start; what is ready first is done. A run ends with
the shutdown. Times are nanoseconds.
-/

namespace HodeiJobs.Outbox

open HodeiJobs.Library
open HodeiJobs.Sagas (Duration)

/-- The configuration, as far as the loop reads it. -/
structure ReactiveOutboxConfig where
  fallbackPollInterval : Duration

def ReactiveOutboxConfig.default : ReactiveOutboxConfig := ⟨.fromSecs 30⟩

/-- What `listener.recv` does in an iteration: it yields a notification, whose event takes some time
to handle, or an error, each after a while, or neither. -/
inductive Arrival where
  | nothing
  | notification (after handling : Nat)
  | error (after : Nat)

/-- `polled` decides where both branches are ready at once. -/
structure Iteration where
  arrival : Arrival
  polled : Bool
  handling : Nat

structure ReactiveRun where
  clock : Nat
  /-- When `process_pending_events` was last called, or the loop begun. -/
  lastPolled : Nat
  polls : Nat
  deriving DecidableEq

namespace ReactiveOutboxRelay

def receiveTimeout : Duration := .fromSecs 1

def errorBackoff : Duration := ⟨100000000⟩

def start (clock : Nat) : ReactiveRun := ⟨clock, clock, 0⟩

/-- When the branch of the notifications is ready. -/
def readyAfter : Arrival → Nat
  | .nothing => receiveTimeout.nanos
  | .notification after _ | .error after => min after receiveTimeout.nanos

/-- How long that branch takes in all. -/
def receiveTime : Arrival → Nat
  | .nothing => receiveTimeout.nanos
  | .notification after handling =>
      if after ≤ receiveTimeout.nanos then after + handling else receiveTimeout.nanos
  | .error after =>
      if after ≤ receiveTimeout.nanos then after + errorBackoff.nanos else receiveTimeout.nanos

/-- The branch of the poll is taken. -/
def Polls (config : ReactiveOutboxConfig) (iteration : Iteration) : Prop :=
  config.fallbackPollInterval.nanos < readyAfter iteration.arrival ∨
    config.fallbackPollInterval.nanos = readyAfter iteration.arrival ∧ iteration.polled = true

instance (config : ReactiveOutboxConfig) (iteration : Iteration) :
    Decidable (Polls config iteration) := inferInstanceAs (Decidable (_ ∨ _))

def step (config : ReactiveOutboxConfig) (run : ReactiveRun) (iteration : Iteration) :
    ReactiveRun :=
  if Polls config iteration then
    let called := run.clock + config.fallbackPollInterval.nanos
    { clock := called + iteration.handling
      lastPolled := called
      polls := run.polls + 1 }
  else { run with clock := run.clock + receiveTime iteration.arrival }

/-! ## Quiet runs -/

/-- No notification arrives, and the events are handled at once. -/
def Quiet (iteration : Iteration) : Prop :=
  iteration.arrival = .nothing ∧ iteration.handling = 0

/-- The last poll is no longer ago than its interval and one receive timeout. -/
def RecentlyPolled (config : ReactiveOutboxConfig) (run : ReactiveRun) : Prop :=
  run.clock ≤ run.lastPolled + (config.fallbackPollInterval.nanos + receiveTimeout.nanos)

instance (config : ReactiveOutboxConfig) (run : ReactiveRun) :
    Decidable (RecentlyPolled config run) := inferInstanceAs (Decidable (_ ≤ _))

/-- In every quiet run, each iteration begins with a recent poll. -/
def PollsInTime (config : ReactiveOutboxConfig) : Prop :=
  ∀ clock iterations, (∀ iteration ∈ iterations, Quiet iteration) →
    Always (step config) (RecentlyPolled config) (start clock) iterations

section

variable {config : ReactiveOutboxConfig}

theorem ready_after_le (arrival : Arrival) : readyAfter arrival ≤ receiveTimeout.nanos := by
  cases arrival with
  | nothing => exact Nat.le_refl _
  | notification after handling => exact Nat.min_le_right _ _
  | error after => exact Nat.min_le_right _ _

/-- An interval beyond the receive timeout never ends first, whatever arrives. -/
theorem never_polls (long : receiveTimeout.nanos < config.fallbackPollInterval.nanos)
    (iterations : List Iteration) (run : ReactiveRun) :
    (iterations.foldl (step config) run).polls = run.polls := by
  induction iterations generalizing run with
  | nil => rfl
  | cons iteration rest ih =>
      have other : ¬Polls config iteration := by
        have ready := ready_after_le iteration.arrival
        unfold Polls
        omega
      rw [List.foldl_cons, ih, step, if_neg other]

/-- A quiet iteration polls at once if the interval is shorter than the receive timeout. -/
theorem step_recent (short : config.fallbackPollInterval.nanos < receiveTimeout.nanos)
    {iteration : Iteration} (quiet : Quiet iteration) (run : ReactiveRun) :
    RecentlyPolled config (step config run iteration) := by
  have polls : Polls config iteration := by
    left
    rw [quiet.1]
    exact short
  unfold RecentlyPolled step
  rw [if_pos polls, quiet.2]
  dsimp only
  omega

theorem always_recent (short : config.fallbackPollInterval.nanos < receiveTimeout.nanos)
    (iterations : List Iteration) (quiet : ∀ iteration ∈ iterations, Quiet iteration)
    (run : ReactiveRun) (recent : RecentlyPolled config run) :
    Always (step config) (RecentlyPolled config) run iterations := by
  induction iterations generalizing run with
  | nil => exact recent
  | cons iteration rest ih =>
      constructor
      · exact recent
      · apply ih fun other member => quiet other (List.mem_cons_of_mem _ member)
        exact step_recent short (quiet iteration List.mem_cons_self) run

/-- Nothing arrives, and the branch of the notifications wins where both are ready. -/
def silence : Iteration := ⟨.nothing, false, 0⟩

/-- Iterations without a poll, a receive timeout each. -/
theorem silent_run (long : receiveTimeout.nanos ≤ config.fallbackPollInterval.nanos)
    (count : Nat) (run : ReactiveRun) :
    (List.replicate count silence).foldl (step config) run =
      { run with clock := run.clock + count * receiveTimeout.nanos } := by
  have other : ¬Polls config silence := by
    intro polls
    rcases polls with earlier | atOnce
    · exact absurd earlier (Nat.not_lt.mpr long)
    · cases atOnce.2
  induction count generalizing run with
  | zero => rw [Nat.zero_mul]; rfl
  | succ count ih =>
      rw [List.replicate_succ, List.foldl_cons, ih, step, if_neg other, Nat.succ_mul,
        Nat.add_comm (count * _), ← Nat.add_assoc]
      rfl

end

/-- The safety net works in quiet runs exactly if its interval is shorter than the receive
timeout. -/
theorem polls_in_time_iff (config : ReactiveOutboxConfig) :
    PollsInTime config ↔ config.fallbackPollInterval.nanos < receiveTimeout.nanos := by
  constructor
  · intro inTime
    by_contra long
    -- As many iterations as there are nanoseconds in the bound take longer than it.
    have quiet : ∀ iteration ∈ List.replicate (config.fallbackPollInterval.nanos +
        receiveTimeout.nanos + 1) silence, Quiet iteration := by
      intro iteration member
      rw [List.eq_of_mem_replicate member]
      exact ⟨rfl, rfl⟩
    have recent := always_final (step config) _ _ (inTime 0 _ quiet)
    rw [silent_run (Nat.not_lt.mp long)] at recent
    unfold RecentlyPolled start receiveTimeout Duration.fromSecs at recent
    dsimp only at recent
    omega
  · intro short clock iterations quiet
    apply always_recent short iterations quiet
    exact Nat.le_add_right _ _

/-- With the default interval of 30 seconds nothing is polled in 32 seconds. -/
theorem default_interval_not_polled : ¬PollsInTime .default := by
  intro inTime
  have quiet : ∀ iteration ∈ List.replicate 32 silence, Quiet iteration := by
    intro iteration member
    rw [List.eq_of_mem_replicate member]
    exact ⟨rfl, rfl⟩
  exact absurd (always_final (step .default) _ _ (inTime 0 _ quiet)) (by decide)

end ReactiveOutboxRelay

end HodeiJobs.Outbox
