import HodeiJobs.Dispatch.Dispatchers
import HodeiJobs.Library.Streak
import HodeiJobs.Sagas.CircuitBreaker

/-!
# The circuit breaker of a provider

`ProviderCircuitBreaker` under sequential calls. Its two counters are shared by the three
states, and the calls are checked against the history of what was recorded since the circuit
last entered a state. Times are those of the monotonic clock, in nanoseconds; the counters
wrap as the atomics of the source do.
-/

namespace HodeiJobs.Providers

open HodeiJobs.Dispatch (ProviderId)
open HodeiJobs.Library
open HodeiJobs.Sagas (CallResult CircuitState Duration)

structure CircuitBreakerConfig where
  failureThreshold : Nat
  successThreshold : Nat
  timeoutDuration : Duration
  resetTimeout : Duration
  fits : failureThreshold < 2 ^ 64 ∧ successThreshold < 2 ^ 64

theorem CircuitBreakerConfig.default_fits : 5 < 2 ^ 64 ∧ 3 < 2 ^ 64 := by decide

def CircuitBreakerConfig.default : CircuitBreakerConfig where
  failureThreshold := 5
  successThreshold := 3
  timeoutDuration := .fromSecs 60
  resetTimeout := .fromSecs 5
  fits := default_fits

inductive CircuitBreakerEvent where
  | stateTransition (source target : CircuitState) (providerId : ProviderId)
  | requestAllowed (providerId : ProviderId) (state : CircuitState)
  | requestRejected (providerId : ProviderId) (state : CircuitState)
  | failureRecorded (providerId : ProviderId) (failureCount : Nat)
  | successRecorded (providerId : ProviderId) (successCount : Nat)

/-- `event_sender` is the channel with what was sent on it. -/
structure ProviderCircuitBreaker where
  providerId : ProviderId
  state : CircuitState
  failureCount : Nat
  successCount : Nat
  lastFailure : Option Nat
  lastSuccess : Option Nat
  config : CircuitBreakerConfig
  eventSender : Option (List CircuitBreakerEvent)

namespace ProviderCircuitBreaker

def withConfig (providerId : ProviderId) (config : CircuitBreakerConfig) :
    ProviderCircuitBreaker where
  providerId := providerId
  state := .closed
  failureCount := 0
  successCount := 0
  lastFailure := none
  lastSuccess := none
  config := config
  eventSender := none

def new (providerId : ProviderId) : ProviderCircuitBreaker := withConfig providerId .default

section Calls

variable (breaker : ProviderCircuitBreaker)

def emitEvent (event : CircuitBreakerEvent) : ProviderCircuitBreaker :=
  { breaker with eventSender := breaker.eventSender.map fun sent => sent ++ [event] }

def transitionTo (newState : CircuitState) : ProviderCircuitBreaker :=
  if breaker.state ≠ newState then
    { breaker with state := newState }.emitEvent
      (.stateTransition breaker.state newState breaker.providerId)
  else breaker

/-- The `match` of `can_proceed`. -/
def checkState (now : Nat) : Bool × ProviderCircuitBreaker :=
  match breaker.state with
  | .closed => (true, breaker)
  | .open =>
      match breaker.lastFailure with
      | some last =>
          if breaker.config.timeoutDuration.nanos ≤ now - last then
            (true, breaker.transitionTo .halfOpen)
          else (false, breaker)
      | none => (false, breaker)
  | .halfOpen => (true, breaker)

def canProceed (now : Nat) : Bool × ProviderCircuitBreaker :=
  let (canProceed, breaker) := breaker.checkState now
  if canProceed then
    (true, breaker.emitEvent (.requestAllowed breaker.providerId breaker.state))
  else (false, breaker.emitEvent (.requestRejected breaker.providerId breaker.state))

def recordSuccess (now : Nat) : ProviderCircuitBreaker :=
  let successes := (breaker.successCount + 1) % 2 ^ 64
  let counted := { breaker with successCount := successes, lastSuccess := some now }.emitEvent
    (.successRecorded breaker.providerId successes)
  if breaker.state = .halfOpen ∧ breaker.config.successThreshold ≤ successes then
    { counted with failureCount := 0, successCount := 0, state := .closed }.transitionTo .closed
  else counted

def recordFailure (now : Nat) : ProviderCircuitBreaker :=
  let failures := (breaker.failureCount + 1) % 2 ^ 64
  let counted := { breaker with failureCount := failures, lastFailure := some now }.emitEvent
    (.failureRecorded breaker.providerId failures)
  if breaker.state = .closed ∧ breaker.config.failureThreshold ≤ failures then
    { counted with state := .open }.transitionTo .open
  else if breaker.state = .halfOpen then
    { counted with state := .open, successCount := 0 }.transitionTo .open
  else counted

def reset : ProviderCircuitBreaker :=
  let closed := { breaker with
    state := .closed
    failureCount := 0
    successCount := 0
    lastFailure := none
    lastSuccess := none }
  if breaker.state ≠ .closed then
    closed.emitEvent (.stateTransition breaker.state .closed breaker.providerId)
  else closed

end Calls

end ProviderCircuitBreaker

/-! ## Runs of calls -/

inductive ProviderCall where
  | canProceed (now : Nat)
  | recordSuccess (now : Nat)
  | recordFailure (now : Nat)
  | reset (now : Nat)

namespace ProviderCall

def now : ProviderCall → Nat
  | canProceed now | recordSuccess now | recordFailure now | reset now => now

/-- What the call adds to the history. -/
def recorded : ProviderCall → List CallResult
  | canProceed _ | reset _ => []
  | recordSuccess _ => [.success]
  | recordFailure _ => [.failure]

def isReset : ProviderCall → Bool
  | reset _ => true
  | _ => false

end ProviderCall

def ProviderCircuitBreaker.after (breaker : ProviderCircuitBreaker) :
    ProviderCall → ProviderCircuitBreaker
  | .canProceed now => (breaker.canProceed now).2
  | .recordSuccess now => breaker.recordSuccess now
  | .recordFailure now => breaker.recordFailure now
  | .reset _ => breaker.reset

/-- The breaker and its history: the results since the circuit was last closed, since it last
became half-open, and since it was last closed or failed while half-open (newest first), the
times at which it opened, and which of these a reset has followed. -/
structure ProviderRun where
  breaker : ProviderCircuitBreaker
  clock : Nat
  sinceClosing : List CallResult
  sinceHalfOpen : List CallResult
  sinceClearing : List CallResult
  openings : List Nat
  cancelled : List Nat

namespace ProviderRun

def start (providerId : ProviderId) (config : CircuitBreakerConfig) : ProviderRun :=
  ⟨.withConfig providerId config, 0, [], [], [], [], []⟩

def stored (run : ProviderRun) : CircuitState := run.breaker.state

def config (run : ProviderRun) : CircuitBreakerConfig := run.breaker.config

/-- What is seen of a call that leaves the breaker as `next`. -/
def observe (run : ProviderRun) (call : ProviderCall) (next : ProviderCircuitBreaker) :
    ProviderRun :=
  let enters (state : CircuitState) : Bool := run.stored ≠ state ∧ next.state = state
  let closes := enters .closed || call.isReset
  let fails : Bool := run.stored = .halfOpen ∧ next.state = .open
  { breaker := next
    clock := call.now
    sinceClosing := if closes then [] else call.recorded ++ run.sinceClosing
    sinceHalfOpen := if enters .halfOpen then [] else call.recorded ++ run.sinceHalfOpen
    sinceClearing := if closes || fails then [] else call.recorded ++ run.sinceClearing
    openings := if enters .open then call.now :: run.openings else run.openings
    cancelled := if call.isReset then run.openings else run.cancelled }

def step (run : ProviderRun) (call : ProviderCall) : ProviderRun :=
  run.observe call (run.breaker.after call)

/-- The clock never goes back. -/
def InOrder (run : ProviderRun) (call : ProviderCall) : Prop := run.clock ≤ call.now

instance (run : ProviderRun) (call : ProviderCall) : Decidable (run.InOrder call) :=
  inferInstanceAs (Decidable (_ ≤ _))

/-! ## The contract -/

def failed : CallResult → Bool := (· = .failure)

def successes (history : List CallResult) : Nat := history.count .success

/-- A failure opens a closed circuit iff it is the last one of the threshold in a row. -/
def OpensInARow (run : ProviderRun) (call : ProviderCall) : Prop :=
  ∀ now, call = .recordFailure now → run.stored = .closed →
    ((run.step call).stored = .open ↔
      streak failed (.failure :: run.sinceClosing) = run.config.failureThreshold)

/-- No request is let through within the timeout of any opening. -/
def RefusesEarly (run : ProviderRun) (call : ProviderCall) : Prop :=
  ∀ now, call = .canProceed now → ∀ opened ∈ run.openings,
    now < opened + run.config.timeoutDuration.nanos → (run.breaker.canProceed now).1 = false

/-- A half-open circuit closes only after the threshold of successes in it. -/
def ClosesAfterTests (run : ProviderRun) (call : ProviderCall) : Prop :=
  run.stored = .halfOpen → (run.step call).stored = .closed →
    .failure ∉ call.recorded ++ run.sinceHalfOpen ∧
      run.config.successThreshold ≤ successes (call.recorded ++ run.sinceHalfOpen)

structure Contract (run : ProviderRun) (call : ProviderCall) : Prop where
  opens : run.OpensInARow call
  refuses : run.RefusesEarly call
  closes : run.ClosesAfterTests call

/-! ## What the calls have to avoid -/

/-- The failure that completes the threshold since the last closing comes without a success
after the first of them. -/
def UnbrokenFailures (run : ProviderRun) (call : ProviderCall) : Prop :=
  ∀ now, call = .recordFailure now → run.stored = .closed →
    run.sinceClosing.countP failed + 1 = run.config.failureThreshold →
      Unbroken failed run.sinceClosing

/-- Openings that a reset has followed are over when a request finds the circuit not open. -/
def PatientReset (run : ProviderRun) (call : ProviderCall) : Prop :=
  ∀ now, call = .canProceed now → run.stored ≠ .open → ∀ opened ∈ run.cancelled,
    opened + run.config.timeoutDuration.nanos ≤ now

/-- The successes from before the circuit became half-open do not make up for those that the
threshold still misses. -/
def NoCarriedSuccesses (run : ProviderRun) (call : ProviderCall) : Prop :=
  ∀ now, call = .recordSuccess now → run.stored = .halfOpen →
    successes run.sinceHalfOpen + 1 < run.config.successThreshold →
      (successes run.sinceClearing + 1) % 2 ^ 64 < run.config.successThreshold

/-- A half-open circuit is not reset before its tests have succeeded. -/
def TestedReset (run : ProviderRun) (call : ProviderCall) : Prop :=
  ∀ now, call = .reset now → run.stored = .halfOpen →
    run.config.successThreshold ≤ successes run.sinceHalfOpen

structure Undisturbed (run : ProviderRun) (call : ProviderCall) : Prop where
  failures : run.UnbrokenFailures call
  requests : run.PatientReset call
  tests : run.NoCarriedSuccesses call
  resets : run.TestedReset call

end ProviderRun

/-! ## What a call does -/

namespace ProviderCircuitBreaker

section Calls

variable (breaker : ProviderCircuitBreaker) (now : Nat)

/-- Equal but for what was sent on the channel. -/
structure Agree (next other : ProviderCircuitBreaker) : Prop where
  state : next.state = other.state
  failures : next.failureCount = other.failureCount
  successes : next.successCount = other.successCount
  lastFailure : next.lastFailure = other.lastFailure
  config : next.config = other.config

theorem agree_refl : Agree breaker breaker := ⟨rfl, rfl, rfl, rfl, rfl⟩

theorem agree_emit_event (event : CircuitBreakerEvent) :
    Agree (breaker.emitEvent event) breaker := ⟨rfl, rfl, rfl, rfl, rfl⟩

theorem agree_transition_to (newState : CircuitState) :
    Agree (breaker.transitionTo newState) { breaker with state := newState } := by
  unfold transitionTo
  split_ifs with changes
  · exact agree_emit_event _ _
  · have same : breaker.state = newState := not_not.mp changes
    subst same
    exact agree_refl _

variable {breaker}

theorem Agree.trans {next other third : ProviderCircuitBreaker} (first : Agree next other)
    (second : Agree other third) : Agree next third :=
  ⟨first.state.trans second.state, first.failures.trans second.failures,
    first.successes.trans second.successes, first.lastFailure.trans second.lastFailure,
    first.config.trans second.config⟩

variable (breaker) in
theorem can_proceed_checks :
    (breaker.canProceed now).1 = (breaker.checkState now).1 ∧
      Agree (breaker.canProceed now).2 (breaker.checkState now).2 := by
  unfold canProceed
  rcases breaker.checkState now with ⟨allowed, checked⟩
  cases allowed with
  | true => exact ⟨rfl, agree_emit_event checked _⟩
  | false => exact ⟨rfl, agree_emit_event checked _⟩

theorem can_proceed_not_open (notOpen : breaker.state ≠ .open) :
    (breaker.canProceed now).1 = true ∧ Agree (breaker.canProceed now).2 breaker := by
  have checked : breaker.checkState now = (true, breaker) := by
    cases stored : breaker.state with
    | closed => simp only [checkState, stored]
    | halfOpen => simp only [checkState, stored]
    | «open» => exact absurd stored notOpen
  have checks := can_proceed_checks breaker now
  rwa [checked] at checks

theorem can_proceed_waiting (isOpen : breaker.state = .open)
    (early : ∀ last, breaker.lastFailure = some last →
      now - last < breaker.config.timeoutDuration.nanos) :
    (breaker.canProceed now).1 = false ∧ Agree (breaker.canProceed now).2 breaker := by
  have checked : breaker.checkState now = (false, breaker) := by
    cases isLast : breaker.lastFailure with
    | none => simp only [checkState, isOpen, isLast]
    | some last =>
        simp only [checkState, isOpen, isLast, if_neg (Nat.not_le.mpr (early last isLast))]
  have checks := can_proceed_checks breaker now
  rwa [checked] at checks

theorem can_proceed_elapsed (isOpen : breaker.state = .open) {last : Nat}
    (isLast : breaker.lastFailure = some last)
    (elapsed : breaker.config.timeoutDuration.nanos ≤ now - last) :
    (breaker.canProceed now).1 = true ∧
      Agree (breaker.canProceed now).2 { breaker with state := .halfOpen } := by
  have checked : breaker.checkState now = (true, breaker.transitionTo .halfOpen) := by
    simp only [checkState, isOpen, isLast, if_pos elapsed]
  obtain ⟨allowed, agree⟩ := can_proceed_checks breaker now
  rw [checked] at allowed agree
  exact ⟨allowed, agree.trans (agree_transition_to _ _)⟩

theorem record_success_closes (isHalfOpen : breaker.state = .halfOpen)
    (enough : breaker.config.successThreshold ≤ (breaker.successCount + 1) % 2 ^ 64) :
    Agree (breaker.recordSuccess now)
      { breaker with state := .closed, failureCount := 0, successCount := 0 } := by
  unfold recordSuccess
  rw [if_pos ⟨isHalfOpen, enough⟩]
  exact (agree_transition_to _ _).trans ⟨rfl, rfl, rfl, rfl, rfl⟩

theorem record_success_counts (few : breaker.state = .halfOpen →
      (breaker.successCount + 1) % 2 ^ 64 < breaker.config.successThreshold) :
    Agree (breaker.recordSuccess now)
      { breaker with successCount := (breaker.successCount + 1) % 2 ^ 64 } := by
  unfold recordSuccess
  rw [if_neg fun closes => absurd (few closes.1) (Nat.not_lt.mpr closes.2)]
  exact ⟨rfl, rfl, rfl, rfl, rfl⟩

theorem record_failure_opens (isClosed : breaker.state = .closed)
    (enough : breaker.config.failureThreshold ≤ (breaker.failureCount + 1) % 2 ^ 64) :
    Agree (breaker.recordFailure now) { breaker with
      state := .open
      failureCount := (breaker.failureCount + 1) % 2 ^ 64
      lastFailure := some now } := by
  unfold recordFailure
  rw [if_pos ⟨isClosed, enough⟩]
  exact (agree_transition_to _ _).trans ⟨rfl, rfl, rfl, rfl, rfl⟩

theorem record_failure_reopens (isHalfOpen : breaker.state = .halfOpen) :
    Agree (breaker.recordFailure now) { breaker with
      state := .open
      failureCount := (breaker.failureCount + 1) % 2 ^ 64
      successCount := 0
      lastFailure := some now } := by
  unfold recordFailure
  rw [if_neg (by simp [isHalfOpen]), if_pos isHalfOpen]
  exact (agree_transition_to _ _).trans ⟨rfl, rfl, rfl, rfl, rfl⟩

theorem record_failure_counts (tested : breaker.state ≠ .halfOpen)
    (few : breaker.state = .closed →
      (breaker.failureCount + 1) % 2 ^ 64 < breaker.config.failureThreshold) :
    Agree (breaker.recordFailure now) { breaker with
      failureCount := (breaker.failureCount + 1) % 2 ^ 64
      lastFailure := some now } := by
  unfold recordFailure
  rw [if_neg fun opens => absurd (few opens.1) (Nat.not_lt.mpr opens.2), if_neg tested]
  exact ⟨rfl, rfl, rfl, rfl, rfl⟩

variable (breaker) in
theorem reset_closes : Agree breaker.reset { breaker with
    state := .closed
    failureCount := 0
    successCount := 0
    lastFailure := none
    lastSuccess := none } := by
  unfold reset
  split_ifs with changes
  · exact agree_emit_event _ _
  · exact agree_refl _

/-- Every way in which a call can leave the breaker. -/
inductive Moves (breaker : ProviderCircuitBreaker) :
    ProviderCall → ProviderCircuitBreaker → Prop where
  | allows (now : Nat) (next : ProviderCircuitBreaker) : breaker.state ≠ .open →
      (breaker.canProceed now).1 = true → Agree next breaker →
      Moves breaker (.canProceed now) next
  | refuses (now : Nat) (next : ProviderCircuitBreaker) : breaker.state = .open →
      (breaker.canProceed now).1 = false → Agree next breaker →
      Moves breaker (.canProceed now) next
  | tests (now last : Nat) (next : ProviderCircuitBreaker) : breaker.state = .open →
      breaker.lastFailure = some last →
      breaker.config.timeoutDuration.nanos ≤ now - last →
      Agree next { breaker with state := .halfOpen } → Moves breaker (.canProceed now) next
  | succeeds (now : Nat) (next : ProviderCircuitBreaker) :
      (breaker.state = .halfOpen →
        (breaker.successCount + 1) % 2 ^ 64 < breaker.config.successThreshold) →
      Agree next { breaker with successCount := (breaker.successCount + 1) % 2 ^ 64 } →
      Moves breaker (.recordSuccess now) next
  | closes (now : Nat) (next : ProviderCircuitBreaker) : breaker.state = .halfOpen →
      breaker.config.successThreshold ≤ (breaker.successCount + 1) % 2 ^ 64 →
      Agree next { breaker with state := .closed, failureCount := 0, successCount := 0 } →
      Moves breaker (.recordSuccess now) next
  | fails (now : Nat) (next : ProviderCircuitBreaker) : breaker.state ≠ .halfOpen →
      (breaker.state = .closed →
        (breaker.failureCount + 1) % 2 ^ 64 < breaker.config.failureThreshold) →
      Agree next { breaker with
        failureCount := (breaker.failureCount + 1) % 2 ^ 64
        lastFailure := some now } →
      Moves breaker (.recordFailure now) next
  | opens (now : Nat) (next : ProviderCircuitBreaker) : breaker.state = .closed →
      breaker.config.failureThreshold ≤ (breaker.failureCount + 1) % 2 ^ 64 →
      Agree next { breaker with
        state := .open
        failureCount := (breaker.failureCount + 1) % 2 ^ 64
        lastFailure := some now } →
      Moves breaker (.recordFailure now) next
  | reopens (now : Nat) (next : ProviderCircuitBreaker) : breaker.state = .halfOpen →
      Agree next { breaker with
        state := .open
        failureCount := (breaker.failureCount + 1) % 2 ^ 64
        successCount := 0
        lastFailure := some now } →
      Moves breaker (.recordFailure now) next
  | resets (now : Nat) (next : ProviderCircuitBreaker) :
      Agree next { breaker with
        state := .closed
        failureCount := 0
        successCount := 0
        lastFailure := none
        lastSuccess := none } →
      Moves breaker (.reset now) next

theorem moves_request : breaker.Moves (.canProceed now) (breaker.canProceed now).2 := by
  by_cases isOpen : breaker.state = .open
  · by_cases elapsed : ∃ last, breaker.lastFailure = some last ∧
        breaker.config.timeoutDuration.nanos ≤ now - last
    · obtain ⟨last, isLast, elapsed⟩ := elapsed
      exact .tests now last _ isOpen isLast elapsed (can_proceed_elapsed now isOpen isLast elapsed).2
    · have early : ∀ last, breaker.lastFailure = some last →
          now - last < breaker.config.timeoutDuration.nanos :=
        fun last isLast => Nat.lt_of_not_le fun late => elapsed ⟨last, isLast, late⟩
      obtain ⟨refused, agree⟩ := can_proceed_waiting now isOpen early
      exact .refuses now _ isOpen refused agree
  · obtain ⟨allowed, agree⟩ := can_proceed_not_open now isOpen
    exact .allows now _ isOpen allowed agree

theorem moves_success : breaker.Moves (.recordSuccess now) (breaker.recordSuccess now) := by
  by_cases closes : breaker.state = .halfOpen ∧
      breaker.config.successThreshold ≤ (breaker.successCount + 1) % 2 ^ 64
  · exact .closes now _ closes.1 closes.2 (record_success_closes now closes.1 closes.2)
  · have few : breaker.state = .halfOpen →
        (breaker.successCount + 1) % 2 ^ 64 < breaker.config.successThreshold :=
      fun isHalfOpen => Nat.lt_of_not_le fun enough => closes ⟨isHalfOpen, enough⟩
    exact .succeeds now _ few (record_success_counts now few)

theorem moves_failure : breaker.Moves (.recordFailure now) (breaker.recordFailure now) := by
  by_cases isHalfOpen : breaker.state = .halfOpen
  · exact .reopens now _ isHalfOpen (record_failure_reopens now isHalfOpen)
  · by_cases opens : breaker.state = .closed ∧
        breaker.config.failureThreshold ≤ (breaker.failureCount + 1) % 2 ^ 64
    · exact .opens now _ opens.1 opens.2 (record_failure_opens now opens.1 opens.2)
    · have few : breaker.state = .closed →
          (breaker.failureCount + 1) % 2 ^ 64 < breaker.config.failureThreshold :=
        fun isClosed => Nat.lt_of_not_le fun enough => opens ⟨isClosed, enough⟩
      exact .fails now _ isHalfOpen few (record_failure_counts now isHalfOpen few)

variable (breaker) in
theorem moves_after (call : ProviderCall) : breaker.Moves call (breaker.after call) := by
  cases call with
  | canProceed now => exact moves_request now
  | recordSuccess now => exact moves_success now
  | recordFailure now => exact moves_failure now
  | reset now => exact .resets now _ (reset_closes breaker)

end Calls

end ProviderCircuitBreaker

/-! ## What holds in every state -/

namespace ProviderRun

open ProviderCircuitBreaker (Agree Moves moves_after)

/-- The counters agree with the history. -/
structure Counted (run : ProviderRun) : Prop where
  failures : run.stored = .closed →
    run.breaker.failureCount = run.sinceClosing.countP failed ∧
      run.breaker.failureCount < run.config.failureThreshold
  successes : run.breaker.successCount = successes run.sinceClearing % 2 ^ 64
  tests : run.stored = .halfOpen → .failure ∉ run.sinceHalfOpen

/-- An opening waits for its timeout unless a reset has followed it. -/
structure Timed (run : ProviderRun) : Prop where
  past : ∀ opened ∈ run.openings, opened ≤ run.clock
  waiting : run.stored = .open → ∃ last, run.breaker.lastFailure = some last ∧
    last ≤ run.clock ∧ ∀ opened ∈ run.openings, opened ≤ last
  elapsed : run.stored ≠ .open → ∀ opened ∈ run.openings,
    opened ∈ run.cancelled ∨ opened + run.config.timeoutDuration.nanos ≤ run.clock
  known : ∀ opened ∈ run.cancelled, opened ∈ run.openings

variable {run : ProviderRun} {call : ProviderCall} {next : ProviderCircuitBreaker}

theorem counted_start (providerId : ProviderId) {config : CircuitBreakerConfig}
    (failures : 0 < config.failureThreshold) : Counted (start providerId config) := by
  constructor
  · intro _
    exact ⟨rfl, failures⟩
  · rfl
  · intro isHalfOpen
    cases isHalfOpen

theorem timed_start (providerId : ProviderId) (config : CircuitBreakerConfig) :
    Timed (start providerId config) := by
  constructor
  · intro opened isOpening
    cases isOpening
  · intro isOpen
    cases isOpen
  · intro _ opened isOpening
    cases isOpening
  · intro opened isCancelled
    cases isCancelled

theorem successes_cons_success (history : List CallResult) :
    successes (.success :: history) = successes history + 1 := by
  simp [successes]

theorem successes_cons_failure (history : List CallResult) :
    successes (.failure :: history) = successes history := by
  simp [successes]

/-- A call that leaves the circuit in its state only adds to the history. -/
theorem observe_same (same : next.state = run.breaker.state) (stays : call.isReset = false) :
    run.observe call next = { run with
      breaker := next
      clock := call.now
      sinceClosing := call.recorded ++ run.sinceClosing
      sinceHalfOpen := call.recorded ++ run.sinceHalfOpen
      sinceClearing := call.recorded ++ run.sinceClearing } := by
  have notFailed : ¬(run.breaker.state = .halfOpen ∧ run.breaker.state = .open) := by
    rintro ⟨isHalfOpen, isOpen⟩
    rw [isHalfOpen] at isOpen
    cases isOpen
  simp [observe, stored, same, stays, notFailed]

theorem count_success (counted : Counted run) :
    (run.breaker.successCount + 1) % 2 ^ 64 =
      successes (.success :: run.sinceClearing) % 2 ^ 64 := by
  rw [successes_cons_success, counted.successes, Nat.mod_add_mod]

/-- Below the threshold the counter of a closed circuit does not wrap. -/
theorem count_failure (counted : Counted run) (isClosed : run.breaker.state = .closed) :
    (run.breaker.failureCount + 1) % 2 ^ 64 = run.sinceClosing.countP failed + 1 ∧
      run.sinceClosing.countP failed + 0 < run.config.failureThreshold := by
  obtain ⟨exactly, below⟩ := counted.failures isClosed
  have small := run.breaker.config.fits.1
  simp only [config] at below ⊢
  rw [← exactly]
  exact ⟨Nat.mod_eq_of_lt (by omega), below⟩

theorem counted_observe (failures : 0 < run.config.failureThreshold) (counted : Counted run)
    (moves : run.breaker.Moves call next) : Counted (run.observe call next) := by
  cases moves with
  | allows now _ _ _ agree | refuses now _ _ _ agree =>
      rw [observe_same agree.state rfl]
      exact {
        failures := by
          simpa [stored, config, agree.state, agree.failures, agree.config,
            ProviderCall.recorded] using counted.failures
        successes := by
          simpa [agree.successes, ProviderCall.recorded] using counted.successes
        tests := by simpa [stored, agree.state, ProviderCall.recorded] using counted.tests }
  | tests now last _ isOpen isLast elapsed agree =>
      constructor
      · simp [observe, stored, agree.state]
      · simpa [observe, stored, agree.state, agree.successes, isOpen, ProviderCall.recorded,
          ProviderCall.isReset] using counted.successes
      · simp [observe, stored, agree.state, isOpen]
  | succeeds now _ few agree =>
      rw [observe_same agree.state rfl]
      exact {
        failures := by
          simpa [stored, config, agree.state, agree.failures, agree.config,
            ProviderCall.recorded, failed] using counted.failures
        successes := by
          rw [agree.successes]
          exact count_success counted
        tests := by simpa [stored, agree.state, ProviderCall.recorded] using counted.tests }
  | closes now _ isHalfOpen enough agree =>
      constructor
      · intro _
        simpa [observe, stored, config, agree.state, agree.failures, agree.config, isHalfOpen]
          using failures
      · simp [observe, stored, agree.state, agree.successes, isHalfOpen, successes]
      · simp [observe, stored, agree.state]
  | fails now _ notHalfOpen few agree =>
      rw [observe_same agree.state rfl]
      exact {
        failures := by
          intro isClosed
          have isClosed : run.breaker.state = .closed := agree.state.symm.trans isClosed
          have counts := (count_failure counted isClosed).1
          have below := few isClosed
          rw [counts] at below
          simpa [config, agree.failures, agree.config, ProviderCall.recorded, counts, failed,
            -Nat.reducePow] using below
        successes := by
          simpa [agree.successes, ProviderCall.recorded, successes_cons_failure]
            using counted.successes
        tests := by simp [stored, agree.state, notHalfOpen] }
  | opens now _ isClosed enough agree =>
      constructor
      · simp [observe, stored, agree.state]
      · simpa [observe, stored, agree.state, agree.successes, isClosed, ProviderCall.recorded,
          ProviderCall.isReset, successes_cons_failure] using counted.successes
      · simp [observe, stored, agree.state]
  | reopens now _ isHalfOpen agree =>
      constructor
      · simp [observe, stored, agree.state]
      · simp [observe, stored, agree.state, agree.successes, isHalfOpen, successes]
      · simp [observe, stored, agree.state]
  | resets now _ agree =>
      constructor
      · intro _
        simpa [observe, config, agree.failures, agree.config, ProviderCall.isReset]
          using failures
      · simp [observe, agree.successes, ProviderCall.isReset, successes]
      · simp [observe, stored, agree.state]

/-- The openings of the past, at a later time. -/
theorem timed_later (timed : Timed run) (inOrder : run.InOrder call) :
    (∀ opened ∈ run.openings, opened ≤ call.now) ∧
      (run.stored ≠ .open → ∀ opened ∈ run.openings, opened ∈ run.cancelled ∨
        opened + run.config.timeoutDuration.nanos ≤ call.now) := by
  constructor
  · intro opened isOpening
    exact (timed.past opened isOpening).trans inOrder
  · intro notOpen opened isOpening
    exact (timed.elapsed notOpen opened isOpening).imp_right fun waited => waited.trans inOrder

/-- A call that keeps the circuit in its state and the time of the last failure. -/
theorem timed_same (timed : Timed run) (inOrder : run.InOrder call)
    (same : next.state = run.breaker.state) (stays : call.isReset = false)
    (sameFailure : next.lastFailure = run.breaker.lastFailure)
    (sameConfig : next.config = run.breaker.config) : Timed (run.observe call next) := by
  obtain ⟨past, elapsed⟩ := timed_later timed inOrder
  rw [observe_same same stays]
  exact {
    past := past
    waiting := by
      intro isOpen
      obtain ⟨last, isLast, before, latest⟩ := timed.waiting (same.symm.trans isOpen)
      exact ⟨last, sameFailure.trans isLast, before.trans inOrder, latest⟩
    elapsed := by
      intro notOpen
      simp only [config, sameConfig]
      exact elapsed fun isOpen => notOpen (same.trans isOpen)
    known := timed.known }

/-- A failure that opens the circuit is the last one. -/
theorem timed_opens (timed : Timed run) (inOrder : run.InOrder call)
    (isOpen : next.state = .open) (notOpen : run.breaker.state ≠ .open)
    (stays : call.isReset = false) (isLast : next.lastFailure = some call.now) :
    Timed (run.observe call next) := by
  have past := (timed_later timed inOrder).1
  have openings : (run.observe call next).openings = call.now :: run.openings := by
    simp [observe, stored, isOpen, notOpen]
  have upTo : ∀ opened ∈ call.now :: run.openings, opened ≤ call.now := by
    intro opened isOpening
    rcases List.mem_cons.mp isOpening with rfl | earlier
    · exact Nat.le_refl _
    · exact past opened earlier
  constructor
  · rw [openings]
    exact upTo
  · intro _
    rw [openings]
    exact ⟨call.now, isLast, Nat.le_refl _, upTo⟩
  · intro stillClosed
    exact absurd isOpen stillClosed
  · rw [openings]
    intro opened isCancelled
    have isCancelled : opened ∈ run.cancelled := by simpa [observe, stays] using isCancelled
    exact List.mem_cons_of_mem _ (timed.known opened isCancelled)

/-- A call after which the circuit is not open opens nothing: each opening of the past has
been waited for or cancelled. -/
theorem timed_not_open (timed : Timed run) (inOrder : run.InOrder call)
    (notOpen : next.state ≠ .open)
    (elapsed : ∀ opened ∈ run.openings, opened ∈ (run.observe call next).cancelled ∨
      opened + next.config.timeoutDuration.nanos ≤ call.now) :
    Timed (run.observe call next) := by
  have openings : (run.observe call next).openings = run.openings := by
    simp [observe, stored, notOpen]
  constructor
  · rw [openings]
    exact (timed_later timed inOrder).1
  · intro isOpen
    exact absurd isOpen notOpen
  · rw [openings]
    intro _
    exact elapsed
  · rw [openings]
    intro opened isCancelled
    cases stays : call.isReset with
    | false =>
        have isCancelled : opened ∈ run.cancelled := by simpa [observe, stays] using isCancelled
        exact timed.known opened isCancelled
    | true => simpa [observe, stays] using isCancelled

theorem timed_observe (timed : Timed run) (inOrder : run.InOrder call)
    (moves : run.breaker.Moves call next) : Timed (run.observe call next) := by
  obtain ⟨past, elapsed⟩ := timed_later timed inOrder
  cases moves with
  | allows now _ notOpen _ agree =>
      exact timed_same timed inOrder agree.state rfl agree.lastFailure agree.config
  | refuses now _ isOpen _ agree =>
      exact timed_same timed inOrder agree.state rfl agree.lastFailure agree.config
  | succeeds now _ few agree =>
      exact timed_same timed inOrder agree.state rfl agree.lastFailure agree.config
  | tests now last _ isOpen isLast elapsed agree =>
      obtain ⟨since, isSince, before, latest⟩ := timed.waiting isOpen
      have sameLast : since = last := Option.some.inj (isSince.symm.trans isLast)
      subst sameLast
      apply timed_not_open timed inOrder (by simp [agree.state])
      intro opened isOpening
      right
      have earlier := latest opened isOpening
      have inTime : since ≤ now := before.trans inOrder
      simp only [agree.config, ProviderCall.now]
      omega
  | closes now _ isHalfOpen enough agree =>
      apply timed_not_open timed inOrder (by simp [agree.state])
      rw [agree.config]
      exact elapsed (by simp [stored, isHalfOpen])
  | fails now _ notHalfOpen few agree =>
      rw [observe_same agree.state rfl]
      exact {
        past := past
        waiting := fun _ => ⟨now, agree.lastFailure, Nat.le_refl _, past⟩
        elapsed := by
          intro notOpen
          simp only [config, agree.config]
          exact elapsed fun isOpen => notOpen (agree.state.trans isOpen)
        known := timed.known }
  | opens now _ isClosed enough agree =>
      exact timed_opens timed inOrder agree.state (by simp [isClosed]) rfl agree.lastFailure
  | reopens now _ isHalfOpen agree =>
      exact timed_opens timed inOrder agree.state (by simp [isHalfOpen]) rfl agree.lastFailure
  | resets now _ agree =>
      apply timed_not_open timed inOrder (by simp [agree.state])
      intro opened isOpening
      exact Or.inl isOpening

/-! ## The contract step by step -/

theorem opens_in_a_row_iff (counted : Counted run) :
    run.OpensInARow call ↔ run.UnbrokenFailures call := by
  unfold OpensInARow UnbrokenFailures
  refine forall_congr' fun now => forall_congr' fun isFailure => forall_congr' fun isClosed => ?_
  subst isFailure
  have few := (count_failure counted isClosed).2
  have counts := (count_failure counted isClosed).1
  have longest := streak_le_countP failed run.sinceClosing
  have opens : (run.step (.recordFailure now)).stored = .open ↔
      run.config.failureThreshold ≤ run.sinceClosing.countP failed + 1 := by
    rw [← counts]
    cases moves_after run.breaker (.recordFailure now) with
    | fails _ _ _ below agree =>
        have stays : (run.step (.recordFailure now)).stored = .closed :=
          agree.state.trans isClosed
        rw [stays]
        exact iff_of_false (by decide) (Nat.not_le.mpr (below isClosed))
    | opens _ _ _ enough agree => exact iff_of_true agree.state enough
    | reopens _ _ isHalfOpen agree => exact absurd (isClosed.symm.trans isHalfOpen) (by decide)
  rw [opens, streak_cons_of_counts _ rfl, ← streak_eq_countP_iff]
  omega

theorem refuses_early_iff (timed : Timed run) (inOrder : run.InOrder call) :
    run.RefusesEarly call ↔ run.PatientReset call := by
  unfold RefusesEarly PatientReset
  refine forall_congr' fun now => forall_congr' fun isRequest => ?_
  subst isRequest
  obtain ⟨past, elapsed⟩ := timed_later timed inOrder
  by_cases isOpen : run.stored = .open
  · refine iff_of_true ?_ fun notOpen => absurd isOpen notOpen
    intro opened isOpening early
    obtain ⟨last, isLast, before, latest⟩ := timed.waiting isOpen
    refine (ProviderCircuitBreaker.can_proceed_waiting now isOpen ?_).1
    intro other isOther
    have same : last = other := Option.some.inj (isLast.symm.trans isOther)
    have late := latest opened isOpening
    have inTime : last ≤ now := before.trans inOrder
    simp only [config] at early
    omega
  · have allowed := (ProviderCircuitBreaker.can_proceed_not_open now isOpen).1
    constructor
    · intro refuses _ opened isCancelled
      by_contra early
      have refused := refuses opened (timed.known opened isCancelled) (Nat.lt_of_not_le early)
      rw [allowed] at refused
      cases refused
    · intro patient opened isOpening early
      have passed : opened + run.config.timeoutDuration.nanos ≤ now :=
        (elapsed isOpen opened isOpening).elim (patient isOpen opened) id
      exact absurd early (Nat.not_lt.mpr passed)

theorem success_closes_iff (counted : Counted run) (isHalfOpen : run.stored = .halfOpen)
    (now : Nat) : (run.step (.recordSuccess now)).stored = .closed ↔
      run.config.successThreshold ≤ (successes run.sinceClearing + 1) % 2 ^ 64 := by
  rw [← successes_cons_success, ← count_success counted]
  cases moves_after run.breaker (.recordSuccess now) with
  | succeeds _ _ below agree =>
      have stays : (run.step (.recordSuccess now)).stored = .halfOpen :=
        agree.state.trans isHalfOpen
      rw [stays]
      exact iff_of_false (by decide) (Nat.not_le.mpr (below isHalfOpen))
  | closes _ _ _ enough agree => exact iff_of_true agree.state enough

theorem closes_after_tests_iff (counted : Counted run) :
    run.ClosesAfterTests call ↔ run.NoCarriedSuccesses call ∧ run.TestedReset call := by
  unfold ClosesAfterTests NoCarriedSuccesses TestedReset
  by_cases isHalfOpen : run.stored = .halfOpen
  swap
  · refine iff_of_true (fun still => absurd still isHalfOpen) ⟨?_, ?_⟩
    · exact fun _ _ still => absurd still isHalfOpen
    · exact fun _ _ still => absurd still isHalfOpen
  have noFailure := counted.tests isHalfOpen
  cases call with
  | canProceed now =>
      have notOpen : run.stored ≠ .open := by simp [isHalfOpen]
      have stays : (run.step (.canProceed now)).stored = .halfOpen :=
        (ProviderCircuitBreaker.can_proceed_not_open now notOpen).2.state.trans isHalfOpen
      simp [stays]
  | recordSuccess now =>
      have closes := success_closes_iff counted isHalfOpen now
      constructor
      · intro tested
        refine ⟨?_, fun _ isReset => by cases isReset⟩
        intro _ _ _ few
        by_contra many
        have enough := (tested isHalfOpen (closes.mpr (Nat.not_lt.mp many))).2
        rw [ProviderCall.recorded, List.singleton_append, successes_cons_success] at enough
        omega
      · rintro ⟨carried, _⟩ _ closed
        refine ⟨by simpa [ProviderCall.recorded] using noFailure, ?_⟩
        rw [ProviderCall.recorded, List.singleton_append, successes_cons_success]
        by_contra few
        have below := carried now rfl isHalfOpen (Nat.lt_of_not_le few)
        exact absurd (closes.mp closed) (Nat.not_le.mpr below)
  | recordFailure now =>
      have reopens : (run.step (.recordFailure now)).stored = .open :=
        (ProviderCircuitBreaker.record_failure_reopens now isHalfOpen).state
      simp [reopens]
  | reset now =>
      have closes : (run.step (.reset now)).stored = .closed :=
        (ProviderCircuitBreaker.reset_closes run.breaker).state
      simp [closes, isHalfOpen, noFailure, ProviderCall.recorded]

/-- The invariants together, with the threshold that they were proved for. -/
structure Known (config : CircuitBreakerConfig) (run : ProviderRun) : Prop where
  config : run.config = config
  counted : Counted run
  timed : Timed run

theorem step_config (run : ProviderRun) (call : ProviderCall) :
    (run.step call).config = run.config := by
  cases moves_after run.breaker call with
  | allows _ _ _ _ agree | refuses _ _ _ _ agree | tests _ _ _ _ _ _ agree
  | succeeds _ _ _ agree | closes _ _ _ _ agree | fails _ _ _ _ agree | opens _ _ _ _ agree
  | reopens _ _ _ agree | resets _ _ agree => exact agree.config

theorem known_step {config : CircuitBreakerConfig} (failures : 0 < config.failureThreshold)
    (known : Known config run) (inOrder : run.InOrder call) : Known config (run.step call) where
  config := (step_config run call).trans known.config
  counted := counted_observe (by rwa [known.config]) known.counted (moves_after _ call)
  timed := timed_observe known.timed inOrder (moves_after _ call)

theorem contract_iff_undisturbed {config : CircuitBreakerConfig} (known : Known config run)
    (inOrder : run.InOrder call) : run.Contract call ↔ run.Undisturbed call := by
  have opens : run.OpensInARow call ↔ run.UnbrokenFailures call :=
    opens_in_a_row_iff known.counted
  have refuses := refuses_early_iff known.timed inOrder
  have closes : run.ClosesAfterTests call ↔ run.NoCarriedSuccesses call ∧ run.TestedReset call :=
    closes_after_tests_iff known.counted
  constructor
  · intro contract
    obtain ⟨tests, resets⟩ := closes.mp contract.closes
    exact ⟨opens.mp contract.opens, refuses.mp contract.refuses, tests, resets⟩
  · intro undisturbed
    exact ⟨opens.mpr undisturbed.failures, refuses.mpr undisturbed.requests,
      closes.mpr ⟨undisturbed.tests, undisturbed.resets⟩⟩

end ProviderRun

open ProviderRun

/-- A run keeps the contract exactly when no call of it is disturbed by what an earlier phase
has left behind. -/
theorem provider_circuit_contract_iff_undisturbed (providerId : ProviderId)
    (config : CircuitBreakerConfig) (calls : List ProviderCall)
    (failures : 0 < config.failureThreshold)
    (inOrder : EachMove step InOrder (start providerId config) calls) :
    EachMove step Contract (start providerId config) calls ↔
      EachMove step Undisturbed (start providerId config) calls := by
  have known : Known config (start providerId config) :=
    ⟨rfl, counted_start providerId failures, timed_start providerId config⟩
  have both : EachMove step (fun run call => run.InOrder call ∧ run.Contract call)
        (start providerId config) calls ↔
      EachMove step (fun run call => run.InOrder call ∧ run.Undisturbed call)
        (start providerId config) calls :=
    each_move_congr_within step (Known config)
      (fun _ _ known => and_congr_right fun inOrder => contract_iff_undisturbed known inOrder)
      (fun _ _ known allowed => known_step failures known allowed.1) calls _ known
  rw [each_move_and_iff, each_move_and_iff] at both
  simpa only [inOrder, true_and] using both

/-- Two failures to open, two successes to close, a timeout of one second. -/
def twoAndTwo : CircuitBreakerConfig where
  failureThreshold := 2
  successThreshold := 2
  timeoutDuration := .fromSecs 1
  resetTimeout := .fromSecs 5
  fits := by decide

/-- The circuit opens, waits for its timeout and closes again. -/
def recovery : List ProviderCall :=
  [.recordFailure 1, .recordFailure 2, .canProceed 3, .canProceed 1000000002,
    .recordSuccess 1000000003, .recordSuccess 1000000004]

theorem contract_kept_in_recovery : EachMove step Contract (start ⟨0⟩ twoAndTwo) recovery := by
  refine (provider_circuit_contract_iff_undisturbed ⟨0⟩ twoAndTwo recovery (by decide) ?_).mpr ?_
  · simp [EachMove, recovery, InOrder, step, observe, start, ProviderCall.now]
  · refine ⟨⟨?_, ?_, ?_, ?_⟩, ⟨?_, ?_, ?_, ?_⟩, ⟨?_, ?_, ?_, ?_⟩, ⟨?_, ?_, ?_, ?_⟩,
      ⟨?_, ?_, ?_, ?_⟩, ⟨?_, ?_, ?_, ?_⟩, trivial⟩
    all_goals
      intro now same
      cases same
      try decide

/-- A success between two failures, and a success from before the circuit was opened. -/
def brokenStreak : List ProviderCall := [.recordFailure 1, .recordSuccess 2, .recordFailure 3]

def carriedSuccess : List ProviderCall :=
  [.recordSuccess 1, .recordFailure 2, .recordFailure 3, .canProceed 1000000003,
    .recordSuccess 1000000004]

theorem stale_counts_break_contract :
    (EachMove step InOrder (start ⟨0⟩ twoAndTwo) brokenStreak ∧
      ¬EachMove step Contract (start ⟨0⟩ twoAndTwo) brokenStreak) ∧
    EachMove step InOrder (start ⟨0⟩ twoAndTwo) carriedSuccess ∧
      ¬EachMove step Contract (start ⟨0⟩ twoAndTwo) carriedSuccess := by
  refine ⟨⟨?_, ?_⟩, ?_, ?_⟩
  · simp [EachMove, brokenStreak, InOrder, step, observe, start, ProviderCall.now]
  · rintro ⟨_, _, contract, _⟩
    have inARow := (contract.opens 3 rfl rfl).mp rfl
    exact absurd inARow (by decide)
  · simp [EachMove, carriedSuccess, InOrder, step, observe, start, ProviderCall.now]
  · rintro ⟨_, _, _, _, contract, _⟩
    have tested := (contract.closes rfl rfl).2
    exact absurd tested (by decide)

end HodeiJobs.Providers
