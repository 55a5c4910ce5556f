import Mathlib.Data.Rat.Defs
import Mathlib.Algebra.Order.Field.Rat
import Mathlib.Tactic.FieldSimp
import HodeiJobs.Library.Runs
import HodeiJobs.Library.Window
import HodeiJobs.Sagas.Types

/-!
# The circuit breaker of the saga consumers

`CircuitBreaker` under sequential calls, with the clock in milliseconds. The
counters and the ring of recent results are checked against the history of the
calls. Counters wrap as the atomics of the source do.
-/

namespace HodeiJobs.Sagas

open HodeiJobs.Library

inductive CircuitState where
  | closed
  | «open»
  | halfOpen
  deriving DecidableEq, Repr

structure CircuitBreakerConfig where
  failureThreshold : Nat
  openDuration : Duration
  successThreshold : Nat
  failureRateThreshold : Nat
  failureRateWindow : Nat
  fits : failureThreshold < 2 ^ 64 ∧ successThreshold < 2 ^ 64

/-- A slot of `recent_calls`: 1 for a success, 0 for a failure. -/
inductive CallResult where
  | success
  | failure
  deriving DecidableEq, Repr

structure CircuitBreakerState where
  state : CircuitState
  consecutiveFailures : Nat
  consecutiveSuccesses : Nat
  openedAt : Nat
  totalCalls : Nat
  totalFailures : Nat
  recentCalls : List CallResult
  callIndex : Nat

def CircuitBreakerState.default : CircuitBreakerState where
  state := .closed
  consecutiveFailures := 0
  consecutiveSuccesses := 0
  openedAt := 0
  totalCalls := 0
  totalFailures := 0
  recentCalls := .replicate 100 .success
  callIndex := 0

structure CircuitBreaker where
  config : CircuitBreakerConfig
  inner : CircuitBreakerState

namespace CircuitBreaker

def new (config : CircuitBreakerConfig) : CircuitBreaker := ⟨config, .default⟩

/-- Reading the state of an open circuit moves it to half-open once its time is over. -/
def state (breaker : CircuitBreaker) (now : Nat) : CircuitState × CircuitBreaker :=
  match breaker.inner.state with
  | .open =>
      if 0 < breaker.inner.openedAt ∧
          breaker.config.openDuration.nanos ≤ (now - breaker.inner.openedAt) * 1000000 then
        (.halfOpen, { breaker with
          inner := { breaker.inner with state := .halfOpen, consecutiveSuccesses := 0 } })
      else (.open, breaker)
  | .closed => (.closed, breaker)
  | .halfOpen => (.halfOpen, breaker)

def allowRequest (breaker : CircuitBreaker) (now : Nat) : Bool × CircuitBreaker :=
  match breaker.state now with
  | (.closed, read) | (.halfOpen, read) => (true, read)
  | (.open, read) => (false, read)

/-- What both `record_success` and `record_failure` do first. -/
def recordCall (breaker : CircuitBreaker) (result : CallResult) : CircuitBreaker :=
  { breaker with
    inner := { breaker.inner with
      totalCalls := (breaker.inner.totalCalls + 1) % 2 ^ 64
      recentCalls := breaker.inner.recentCalls.set
        (breaker.inner.callIndex % breaker.config.failureRateWindow) result
      callIndex := (breaker.inner.callIndex + 1) % 2 ^ 64 } }

def recordSuccess (breaker : CircuitBreaker) : CircuitBreaker :=
  let breaker := breaker.recordCall .success
  match breaker.inner.state with
  | .halfOpen =>
      let successes := (breaker.inner.consecutiveSuccesses + 1) % 2 ^ 64
      let inner := { breaker.inner with consecutiveSuccesses := successes }
      if breaker.config.successThreshold ≤ successes then
        { breaker with inner := { inner with state := .closed, consecutiveFailures := 0 } }
      else { breaker with inner := inner }
  | .closed => { breaker with inner := { breaker.inner with consecutiveFailures := 0 } }
  | .open => breaker

def openCircuit (breaker : CircuitBreaker) (now : Nat) : CircuitBreaker :=
  { breaker with inner := { breaker.inner with state := .open, openedAt := now % 2 ^ 64 } }

def failureRate (breaker : CircuitBreaker) : ℚ :=
  let window := breaker.inner.recentCalls.take breaker.config.failureRateWindow
  if window.length = 0 then 0 else (window.count .failure : ℚ) / window.length * 100

/-- What `record_failure` counts before it looks at the thresholds. -/
def countFailure (breaker : CircuitBreaker) : CircuitBreaker :=
  let breaker := breaker.recordCall .failure
  { breaker with
    inner := { breaker.inner with
      totalFailures := (breaker.inner.totalFailures + 1) % 2 ^ 64
      consecutiveFailures := (breaker.inner.consecutiveFailures + 1) % 2 ^ 64 } }

def recordFailure (breaker : CircuitBreaker) (now : Nat) : CircuitBreaker :=
  let counted := breaker.countFailure
  match counted.inner.state with
  | .closed =>
      let checked :=
        if counted.config.failureThreshold ≤ counted.inner.consecutiveFailures then
          counted.openCircuit now
        else counted
      if (checked.config.failureRateThreshold : ℚ) ≤ checked.failureRate then
        checked.openCircuit now
      else checked
  | .halfOpen => counted.openCircuit now
  | .open => counted

end CircuitBreaker

/-! ## Runs of calls -/

inductive CircuitCall where
  | state (now : Nat)
  | allowRequest (now : Nat)
  | recordSuccess (now : Nat)
  | recordFailure (now : Nat)

namespace CircuitCall

def now : CircuitCall → Nat
  | state now | allowRequest now | recordSuccess now | recordFailure now => now

/-- What the call adds to the history. -/
def recorded : CircuitCall → List CallResult
  | state _ | allowRequest _ => []
  | recordSuccess _ => [.success]
  | recordFailure _ => [.failure]

end CircuitCall

def CircuitBreaker.after (breaker : CircuitBreaker) : CircuitCall → CircuitBreaker
  | .state now => (breaker.state now).2
  | .allowRequest now => (breaker.allowRequest now).2
  | .recordSuccess _ => breaker.recordSuccess
  | .recordFailure now => breaker.recordFailure now

/-- The breaker and its history: every recorded result, those since the circuit was
last closed and since it last became half-open (newest first), and the times at
which it opened. -/
structure CircuitRun where
  breaker : CircuitBreaker
  clock : Nat
  outcomes : List CallResult
  sinceClosing : List CallResult
  sinceHalfOpen : List CallResult
  openings : List Nat

namespace CircuitRun

def start (config : CircuitBreakerConfig) : CircuitRun := ⟨.new config, 0, [], [], [], []⟩

def stored (run : CircuitRun) : CircuitState := run.breaker.inner.state

def config (run : CircuitRun) : CircuitBreakerConfig := run.breaker.config

/-- What is seen of a call that leaves the breaker as `next`. -/
def observe (run : CircuitRun) (call : CircuitCall) (next : CircuitBreaker) : CircuitRun :=
  let enters (state : CircuitState) : Bool := run.stored ≠ state ∧ next.inner.state = state
  { breaker := next
    clock := call.now
    outcomes := call.recorded ++ run.outcomes
    sinceClosing := if enters .closed then [] else call.recorded ++ run.sinceClosing
    sinceHalfOpen := if enters .halfOpen then [] else call.recorded ++ run.sinceHalfOpen
    openings := if enters .open then call.now :: run.openings else run.openings }

def step (run : CircuitRun) (call : CircuitCall) : CircuitRun :=
  run.observe call (run.breaker.after call)

/-- The clock never goes back and has passed the epoch. -/
def InOrder (run : CircuitRun) (call : CircuitCall) : Prop := run.clock ≤ call.now ∧ 0 < call.now

instance (run : CircuitRun) (call : CircuitCall) : Decidable (run.InOrder call) :=
  inferInstanceAs (Decidable (_ ∧ _))

/-! ## The contract -/

/-- The failures since the later of the last success and the last closing. -/
def trailingFailures (run : CircuitRun) : Nat :=
  (run.sinceClosing.takeWhile (· = .failure)).length

/-- The results of the last calls, missing ones counting as successes. -/
def lastCalls (run : CircuitRun) : List CallResult :=
  lastValues run.config.failureRateWindow .success run.outcomes

def CountsFailures (run : CircuitRun) : Prop :=
  run.stored = .closed → run.breaker.inner.consecutiveFailures = run.trailingFailures ∧
    run.breaker.inner.consecutiveFailures < run.config.failureThreshold

def BufferExact (run : CircuitRun) : Prop :=
  (run.breaker.inner.recentCalls.take run.config.failureRateWindow).Perm run.lastCalls

/-- How many of the last results have been recorded since `call_index` was last 0. -/
def sinceWrap (run : CircuitRun) : Nat := (run.outcomes.length - 1) % 2 ^ 64 + 1

/-- `call_index` has not wrapped, its wrapping keeps the order of the slots, or a whole
window has been recorded since. -/
def Indexed (run : CircuitRun) : Prop :=
  run.outcomes.length ≤ 2 ^ 64 ∨ run.config.failureRateWindow ∣ 2 ^ 64 ∨
    run.config.failureRateWindow ≤ run.sinceWrap

def OpensExactly (run : CircuitRun) (call : CircuitCall) : Prop :=
  ∀ now, call = .recordFailure now → run.stored = .closed →
    ((run.step call).stored = .open ↔
      run.config.failureThreshold ≤ (run.step call).trailingFailures ∨
        run.config.failureRateThreshold * run.config.failureRateWindow ≤
          100 * (run.step call).lastCalls.count .failure)

/-- No request is let through before the circuit that opened then has been open for
its duration. -/
def RefusesAfter (opened : Nat) (run : CircuitRun) (call : CircuitCall) : Prop :=
  ∀ now, call = .allowRequest now → opened ∈ run.openings →
    now * 1000000 < opened * 1000000 + run.config.openDuration.nanos →
      (run.breaker.allowRequest now).1 = false

/-- The same of the time of the opening as it is stored. One that is stored as 0 is
never over. -/
def RefusesAsStored (opened : Nat) (run : CircuitRun) (call : CircuitCall) : Prop :=
  ∀ now, call = .allowRequest now → opened ∈ run.openings →
    (opened % 2 ^ 64 = 0 ∨
      now * 1000000 < opened % 2 ^ 64 * 1000000 + run.config.openDuration.nanos) →
      (run.breaker.allowRequest now).1 = false

def ClosesExactly (run : CircuitRun) (call : CircuitCall) : Prop :=
  run.stored = .halfOpen →
    ((run.step call).stored = .closed ↔
      (∃ now, call = .recordSuccess now) ∧ .failure ∉ run.sinceHalfOpen ∧
        run.sinceHalfOpen.count .success + 1 = run.config.successThreshold)

def ReopensOnFailure (run : CircuitRun) (call : CircuitCall) : Prop :=
  ∀ now, call = .recordFailure now → run.stored = .halfOpen → (run.step call).stored = .open

/-- What holds in every state. -/
structure StateContract (run : CircuitRun) : Prop where
  counts : run.CountsFailures
  buffer : run.Indexed → run.BufferExact

/-- What holds at every call. -/
structure CallContract (run : CircuitRun) (call : CircuitCall) : Prop where
  opens : (run.step call).Indexed → run.OpensExactly call
  refuses : ∀ opened, opened < 2 ^ 64 → run.RefusesAfter opened call
  refusesAsStored : ∀ opened, run.RefusesAsStored opened call
  closes : run.ClosesExactly call
  reopens : run.ReopensOnFailure call

end CircuitRun

/-! ## What a call does -/

namespace CircuitBreaker

/-- The two checks that open a closed circuit. -/
def Trips (breaker : CircuitBreaker) : Prop :=
  breaker.config.failureThreshold ≤ breaker.inner.consecutiveFailures ∨
    (breaker.config.failureRateThreshold : ℚ) ≤ breaker.failureRate

/-- Every way in which a call can leave the breaker. -/
inductive Moves (breaker : CircuitBreaker) : CircuitCall → CircuitBreaker → Prop where
  | reads (call : CircuitCall) : call.recorded = [] → Moves breaker call breaker
  | tests (call : CircuitCall) : call.recorded = [] → breaker.inner.state = .open →
      0 < breaker.inner.openedAt →
      breaker.config.openDuration.nanos ≤ (call.now - breaker.inner.openedAt) * 1000000 →
      Moves breaker call { breaker with
        inner := { breaker.inner with state := .halfOpen, consecutiveSuccesses := 0 } }
  | succeeds (now : Nat) : breaker.inner.state = .closed →
      Moves breaker (.recordSuccess now) { breaker.recordCall .success with
        inner := { (breaker.recordCall .success).inner with consecutiveFailures := 0 } }
  | testSucceeds (now : Nat) : breaker.inner.state = .halfOpen →
      (breaker.inner.consecutiveSuccesses + 1) % 2 ^ 64 < breaker.config.successThreshold →
      Moves breaker (.recordSuccess now) { breaker.recordCall .success with
        inner := { (breaker.recordCall .success).inner with
          consecutiveSuccesses := (breaker.inner.consecutiveSuccesses + 1) % 2 ^ 64 } }
  | closes (now : Nat) : breaker.inner.state = .halfOpen →
      breaker.config.successThreshold ≤ (breaker.inner.consecutiveSuccesses + 1) % 2 ^ 64 →
      Moves breaker (.recordSuccess now) { breaker.recordCall .success with
        inner := { (breaker.recordCall .success).inner with
          state := .closed
          consecutiveFailures := 0
          consecutiveSuccesses := (breaker.inner.consecutiveSuccesses + 1) % 2 ^ 64 } }
  | ignoresSuccess (now : Nat) : breaker.inner.state = .open →
      Moves breaker (.recordSuccess now) (breaker.recordCall .success)
  | fails (now : Nat) : breaker.inner.state = .closed → ¬breaker.countFailure.Trips →
      Moves breaker (.recordFailure now) breaker.countFailure
  | trips (now : Nat) : breaker.inner.state = .closed → breaker.countFailure.Trips →
      Moves breaker (.recordFailure now) (breaker.countFailure.openCircuit now)
  | testFails (now : Nat) : breaker.inner.state = .halfOpen →
      Moves breaker (.recordFailure now) (breaker.countFailure.openCircuit now)
  | ignoresFailure (now : Nat) : breaker.inner.state = .open →
      Moves breaker (.recordFailure now) breaker.countFailure

section Calls

variable {breaker : CircuitBreaker} {now : Nat}

theorem after_allow_request : breaker.after (.allowRequest now) = breaker.after (.state now) := by
  simp only [after, allowRequest]
  rcases breaker.state now with ⟨state, read⟩
  cases state <;> rfl

theorem allow_request_waiting (opened : breaker.inner.state = .open)
    (early : ¬(0 < breaker.inner.openedAt ∧
      breaker.config.openDuration.nanos ≤ (now - breaker.inner.openedAt) * 1000000)) :
    (breaker.allowRequest now).1 = false := by
  simp only [allowRequest, state, opened, if_neg early]

theorem moves_read (call : CircuitCall) (reads : call.recorded = [])
    (same : breaker.after call = (breaker.state call.now).2) :
    breaker.Moves call (breaker.after call) := by
  rw [same]
  cases stored : breaker.inner.state with
  | closed => simpa only [state, stored] using Moves.reads call reads
  | halfOpen => simpa only [state, stored] using Moves.reads call reads
  | «open» =>
      simp only [state, stored]
      split_ifs with elapsed
      · exact Moves.tests call reads stored elapsed.1 elapsed.2
      · exact Moves.reads call reads

theorem moves_success : breaker.Moves (.recordSuccess now) breaker.recordSuccess := by
  cases stored : breaker.inner.state with
  | closed => simpa only [recordSuccess, recordCall, stored] using Moves.succeeds now stored
  | «open» => simpa only [recordSuccess, recordCall, stored] using Moves.ignoresSuccess now stored
  | halfOpen =>
      by_cases enough :
          breaker.config.successThreshold ≤ (breaker.inner.consecutiveSuccesses + 1) % 2 ^ 64
      · simpa only [recordSuccess, recordCall, stored, if_pos enough]
          using Moves.closes now stored enough
      · simpa only [recordSuccess, recordCall, stored, if_neg enough]
          using Moves.testSucceeds now stored (Nat.lt_of_not_le enough)

theorem count_failure_state : breaker.countFailure.inner.state = breaker.inner.state := rfl

theorem moves_failure_closed (closed : breaker.inner.state = .closed) :
    breaker.Moves (.recordFailure now) (breaker.recordFailure now) := by
  simp only [recordFailure, count_failure_state, closed]
  split_ifs with many often often
  · exact Moves.trips now closed (Or.inl many)
  · exact Moves.trips now closed (Or.inl many)
  · exact Moves.trips now closed (Or.inr often)
  · exact Moves.fails now closed (fun trips => trips.elim many often)

theorem moves_failure : breaker.Moves (.recordFailure now) (breaker.recordFailure now) := by
  cases stored : breaker.inner.state with
  | closed => exact moves_failure_closed stored
  | «open» =>
      simpa only [recordFailure, count_failure_state, stored] using Moves.ignoresFailure now stored
  | halfOpen =>
      simpa only [recordFailure, count_failure_state, stored] using Moves.testFails now stored

/-- The model moves in no other way. -/
theorem moves_after (breaker : CircuitBreaker) (call : CircuitCall) :
    breaker.Moves call (breaker.after call) := by
  cases call with
  | state now => exact moves_read _ rfl rfl
  | allowRequest now => exact moves_read _ rfl after_allow_request
  | recordSuccess now => exact moves_success
  | recordFailure now => exact moves_failure

/-- The rate, cleared of its division. -/
theorem failure_rate_reached (inWindow : 0 < breaker.config.failureRateWindow)
    (slots : breaker.config.failureRateWindow ≤ breaker.inner.recentCalls.length) :
    (breaker.config.failureRateThreshold : ℚ) ≤ breaker.failureRate ↔
      breaker.config.failureRateThreshold * breaker.config.failureRateWindow ≤
        100 * (breaker.inner.recentCalls.take breaker.config.failureRateWindow).count .failure := by
  have length : (breaker.inner.recentCalls.take breaker.config.failureRateWindow).length =
      breaker.config.failureRateWindow := by
    simp [slots]
  have positive : (0 : ℚ) < breaker.config.failureRateWindow := by exact_mod_cast inWindow
  simp only [failureRate, length, Nat.ne_of_gt inWindow, if_false]
  rw [div_mul_eq_mul_div, le_div_iff₀ positive, mul_comm _ (100 : ℚ)]
  exact_mod_cast Iff.rfl

end Calls

/-! ## The ring -/

/-- What a call leaves in the ring. -/
theorem moves_buffer {breaker next : CircuitBreaker} {call : CircuitCall}
    (moves : breaker.Moves call next) :
    next.config = breaker.config ∧
      ((call.recorded = [] ∧ next.inner.recentCalls = breaker.inner.recentCalls ∧
          next.inner.callIndex = breaker.inner.callIndex) ∨
        ∃ result, call.recorded = [result] ∧
          next.inner.recentCalls = breaker.inner.recentCalls.set
            (breaker.inner.callIndex % breaker.config.failureRateWindow) result ∧
          next.inner.callIndex = (breaker.inner.callIndex + 1) % 2 ^ 64) := by
  cases moves with
  | reads call reads => exact ⟨rfl, Or.inl ⟨reads, rfl, rfl⟩⟩
  | tests call reads => exact ⟨rfl, Or.inl ⟨reads, rfl, rfl⟩⟩
  | succeeds | testSucceeds | closes | ignoresSuccess =>
      exact ⟨rfl, Or.inr ⟨.success, rfl, rfl, rfl⟩⟩
  | fails | trips | testFails | ignoresFailure =>
      exact ⟨rfl, Or.inr ⟨.failure, rfl, rfl, rfl⟩⟩

end CircuitBreaker

namespace CircuitRun

section Step

variable {config : CircuitBreakerConfig} {run : CircuitRun} {call : CircuitCall}
  {next : CircuitBreaker}

/-- The ring holds the last results, as long as the wrapping of its index does not disturb
it, and in any case those recorded since. -/
structure Buffered (config : CircuitBreakerConfig) (run : CircuitRun) : Prop where
  sameConfig : run.breaker.config = config
  slots : run.breaker.inner.recentCalls.length = 100
  index : run.breaker.inner.callIndex = run.outcomes.length % 2 ^ 64
  whole : run.outcomes.length ≤ 2 ^ 64 ∨ config.failureRateWindow ∣ 2 ^ 64 →
    HoldsLast (run.breaker.inner.recentCalls.take config.failureRateWindow) .success run.outcomes
      run.outcomes.length config.failureRateWindow
  recent : HoldsLast (run.breaker.inner.recentCalls.take config.failureRateWindow) .success
    run.outcomes run.sinceWrap run.sinceWrap

theorem slot_of_index (window count : Nat) (indexed : count + 1 ≤ 2 ^ 64 ∨ window ∣ 2 ^ 64) :
    count % 2 ^ 64 % window = count % window := by
  rcases indexed with few | divides
  · rw [Nat.mod_eq_of_lt few]
  · exact Nat.mod_mod_of_dvd count divides

theorem buffered_start (window : config.failureRateWindow ≤ 100) :
    Buffered config (start config) := by
  have ring : (start config).breaker.inner.recentCalls.take config.failureRateWindow =
      .replicate config.failureRateWindow .success := by
    simp only [start, CircuitBreaker.new, CircuitBreakerState.default, List.take_replicate,
      Nat.min_eq_left window]
  constructor
  · rfl
  · rfl
  · rfl
  · intro _
    rw [ring]
    exact holds_last_start _ _ _ _
  · rw [ring]
    exact holds_last_start _ _ _ _

/-- Of the results in the ring, as many are known when the next one is recorded as its
index says. -/
theorem recent_at_index (buffered : Buffered config run) :
    HoldsLast (run.breaker.inner.recentCalls.take config.failureRateWindow) .success
      run.outcomes (run.outcomes.length % 2 ^ 64) (run.outcomes.length % 2 ^ 64) := by
  rcases Nat.eq_zero_or_pos (run.outcomes.length % 2 ^ 64) with wrapped | inside
  · rw [wrapped]
    exact holds_last_none _ _ _ _
  · have same : run.sinceWrap = run.outcomes.length % 2 ^ 64 := by
      unfold sinceWrap
      omega
    rw [← same]
    exact buffered.recent

theorem buffered_observe (inWindow : 0 < config.failureRateWindow)
    (window : config.failureRateWindow ≤ 100) (buffered : Buffered config run)
    (moves : run.breaker.Moves call next) : Buffered config (run.observe call next) := by
  obtain ⟨sameConfig, reads | records⟩ := CircuitBreaker.moves_buffer moves
  · obtain ⟨nothing, slots, index⟩ := reads
    constructor
    · exact sameConfig.trans buffered.sameConfig
    · simpa only [observe, slots] using buffered.slots
    · simpa only [observe, nothing, List.nil_append, index] using buffered.index
    · simpa only [observe, nothing, List.nil_append, slots] using buffered.whole
    · simpa only [sinceWrap, observe, nothing, List.nil_append, slots] using buffered.recent
  · obtain ⟨result, recorded, slots, index⟩ := records
    have length : (run.breaker.inner.recentCalls.take config.failureRateWindow).length =
        config.failureRateWindow := by
      simp [buffered.slots, window]
    have room := length.symm ▸ inWindow
    constructor
    · exact sameConfig.trans buffered.sameConfig
    · simpa only [observe, slots, List.length_set] using buffered.slots
    · simp only [observe, recorded, index, buffered.index]
      simp
    · intro undisturbed
      simp only [observe, recorded, List.singleton_append, List.length_cons] at undisturbed
      have holds := holds_last_set _ .success result _ _ _ room
        (buffered.whole (undisturbed.imp_left (Nat.le_trans (Nat.le_succ _))))
      rw [length] at holds
      simp only [observe, recorded, List.singleton_append, List.length_cons, slots,
        buffered.index, buffered.sameConfig, slot_of_index _ _ undisturbed, List.take_set]
      exact holds_last_mono (Nat.le_succ _) holds
    · have holds := holds_last_set _ .success result _ _ _ room (recent_at_index buffered)
      rw [length] at holds
      simpa only [sinceWrap, observe, recorded, List.singleton_append, List.length_cons,
        Nat.add_sub_cancel, slots, buffered.index, buffered.sameConfig, List.take_set] using holds

/-- Where an opening stands at a time: the circuit still waits for it, or the duration has
passed since its time as it is stored. -/
def Waits (breaker : CircuitBreaker) (now opening : Nat) : Prop :=
  opening ≤ now ∧
    (breaker.inner.state = .open ∧ breaker.inner.openedAt = opening % 2 ^ 64 ∨
      0 < opening % 2 ^ 64 ∧
        opening % 2 ^ 64 * 1000000 + breaker.config.openDuration.nanos ≤ now * 1000000)

/-- The counters agree with the history. -/
structure Counted (run : CircuitRun) : Prop where
  counts : run.CountsFailures
  testing : run.stored = .halfOpen →
    run.sinceHalfOpen = .replicate run.breaker.inner.consecutiveSuccesses .success ∧
      run.breaker.inner.consecutiveSuccesses < run.config.successThreshold
  opened : ∀ opening ∈ run.openings, Waits run.breaker run.clock opening

theorem counted_start (failures : 0 < config.failureThreshold) : Counted (start config) := by
  constructor
  · intro _
    exact ⟨rfl, failures⟩
  · intro halfOpen
    cases halfOpen
  · intro opening isOpening
    cases isOpening

/-- A window that has passed has passed at every later call. -/
theorem opened_later (counted : Counted run) (inOrder : run.InOrder call) :
    ∀ opening ∈ run.openings, Waits run.breaker call.now opening := by
  intro opening isOpening
  obtain ⟨before, waits⟩ := counted.opened opening isOpening
  have later := inOrder.1
  refine ⟨by omega, waits.imp_right ?_⟩
  intro ⟨positive, passed⟩
  exact ⟨positive, passed.trans (Nat.mul_le_mul_right _ later)⟩

/-- A call that neither opens the circuit nor ends its waiting. -/
theorem opened_kept (counted : Counted run) (inOrder : run.InOrder call)
    (sameConfig : next.config = run.breaker.config)
    (sameTime : next.inner.openedAt = run.breaker.inner.openedAt)
    (sameState : next.inner.state = .open ↔ run.breaker.inner.state = .open) :
    ∀ opening ∈ (run.observe call next).openings, Waits next call.now opening := by
  intro opening isOpening
  have older : opening ∈ run.openings := by simpa [observe, stored, sameState] using isOpening
  unfold Waits
  rw [sameConfig, sameTime, sameState]
  exact opened_later counted inOrder opening older

/-- The window of a circuit that opens starts now. -/
theorem opened_now (counted : Counted run) (inOrder : run.InOrder call)
    (shut : run.stored ≠ .open) (breaker : CircuitBreaker)
    (sameConfig : breaker.config = run.breaker.config)
    (tripped : next = breaker.openCircuit call.now) :
    ∀ opening ∈ (run.observe call next).openings, Waits next call.now opening := by
  subst tripped
  intro opening isOpening
  have enters : (run.observe call (breaker.openCircuit call.now)).openings =
      call.now :: run.openings := by
    simp [observe, shut, CircuitBreaker.openCircuit]
  rw [enters] at isOpening
  rcases List.mem_cons.mp isOpening with first | older
  · rw [first]
    exact ⟨Nat.le_refl _, Or.inl ⟨rfl, rfl⟩⟩
  · obtain ⟨before, waits⟩ := opened_later counted inOrder opening older
    have passed := waits.resolve_left (fun waiting => shut waiting.1)
    rw [← sameConfig] at passed
    exact ⟨before, Or.inr passed⟩

/-- When an open circuit is tested, its window has passed. -/
theorem opened_tested (counted : Counted run) (inOrder : run.InOrder call)
    (positive : 0 < run.breaker.inner.openedAt)
    (elapsed : run.breaker.config.openDuration.nanos ≤
      (call.now - run.breaker.inner.openedAt) * 1000000)
    (sameState : next.inner.state ≠ .open) (sameConfig : next.config = run.breaker.config) :
    ∀ opening ∈ (run.observe call next).openings, Waits next call.now opening := by
  intro opening isOpening
  have isOpening : opening ∈ run.openings := by simpa [observe, sameState] using isOpening
  obtain ⟨before, waits⟩ := opened_later counted inOrder opening isOpening
  refine ⟨before, Or.inr ?_⟩
  rw [sameConfig]
  rcases waits with ⟨_, same⟩ | passed
  · rw [same] at positive elapsed
    have stored : opening % 2 ^ 64 ≤ opening := Nat.mod_le _ _
    refine ⟨positive, ?_⟩
    omega
  · exact passed

/-- A success that does not close a half-open circuit is one more in a row. -/
theorem testing_succeeds (counted : Counted run) (now : Nat)
    (isHalfOpen : run.breaker.inner.state = .halfOpen) :
    (run.observe (.recordSuccess now) { run.breaker.recordCall .success with
      inner := { (run.breaker.recordCall .success).inner with
        consecutiveSuccesses := (run.breaker.inner.consecutiveSuccesses + 1) % 2 ^ 64 }
      }).sinceHalfOpen =
        .replicate ((run.breaker.inner.consecutiveSuccesses + 1) % 2 ^ 64) .success := by
  obtain ⟨since, enough⟩ := counted.testing isHalfOpen
  have next : (run.breaker.inner.consecutiveSuccesses + 1) % 2 ^ 64 =
      run.breaker.inner.consecutiveSuccesses + 1 :=
    Nat.mod_eq_of_lt (Nat.lt_of_le_of_lt enough run.breaker.config.fits.2)
  simp [observe, stored, isHalfOpen, CircuitBreaker.recordCall, CircuitCall.recorded,
    since, List.replicate_succ, next, -Nat.reducePow]

/-- A failure that does not open a closed circuit is one more in a row. -/
theorem counts_failure (counted : Counted run) (now : Nat)
    (isClosed : run.breaker.inner.state = .closed) (calm : ¬run.breaker.countFailure.Trips) :
    (run.observe (.recordFailure now) run.breaker.countFailure).CountsFailures := by
  intro _
  obtain ⟨exactly, below⟩ := counted.counts isClosed
  have next : (run.breaker.inner.consecutiveFailures + 1) % 2 ^ 64 =
      run.breaker.inner.consecutiveFailures + 1 :=
    Nat.mod_eq_of_lt (Nat.lt_of_le_of_lt below run.breaker.config.fits.1)
  have few := not_le.mp (fun many => calm (Or.inl many))
  simp only [trailingFailures] at exactly
  simp only [CircuitBreaker.countFailure, CircuitBreaker.recordCall, next] at few
  simp [observe, stored, isClosed, CircuitBreaker.countFailure, CircuitBreaker.recordCall,
    CircuitCall.recorded, CircuitRun.config, trailingFailures, next, few, ← exactly,
    -Nat.reducePow]

theorem counted_observe (failures : 0 < run.config.failureThreshold)
    (successes : 0 < run.config.successThreshold) (counted : Counted run)
    (inOrder : run.InOrder call) (moves : run.breaker.Moves call next) :
    Counted (run.observe call next) := by
  cases moves with
  | reads call reads =>
      constructor
      · simpa [CountsFailures, stored, observe, reads, trailingFailures, CircuitRun.config]
          using counted.counts
      · simpa [stored, observe, reads, CircuitRun.config] using counted.testing
      · exact opened_kept counted inOrder rfl rfl Iff.rfl
  | tests call reads isOpen positive elapsed =>
      constructor
      · simp [CountsFailures, stored, observe]
      · simpa [stored, observe, isOpen, CircuitRun.config] using successes
      · exact opened_tested counted inOrder positive elapsed CircuitState.noConfusion rfl
  | succeeds now isClosed =>
      constructor
      · simpa [CountsFailures, stored, observe, isClosed, trailingFailures, CircuitRun.config,
          CircuitBreaker.recordCall, CircuitCall.recorded] using failures
      · simp [stored, observe, isClosed, CircuitBreaker.recordCall]
      · exact opened_kept counted inOrder rfl rfl Iff.rfl
  | testSucceeds now isHalfOpen few =>
      constructor
      · simp [CountsFailures, stored, observe, isHalfOpen, CircuitBreaker.recordCall]
      · intro _
        exact ⟨testing_succeeds counted now isHalfOpen, few⟩
      · exact opened_kept counted inOrder rfl rfl Iff.rfl
  | closes now isHalfOpen enough =>
      constructor
      · simpa [CountsFailures, stored, observe, isHalfOpen, trailingFailures, CircuitRun.config,
          CircuitBreaker.recordCall] using failures
      · simp [stored, observe]
      · exact opened_kept counted inOrder rfl rfl (by simp [isHalfOpen])
  | ignoresSuccess now isOpen =>
      constructor
      · simp [CountsFailures, stored, observe, isOpen, CircuitBreaker.recordCall]
      · simp [stored, observe, isOpen, CircuitBreaker.recordCall]
      · exact opened_kept counted inOrder rfl rfl Iff.rfl
  | fails now isClosed calm =>
      constructor
      · exact counts_failure counted now isClosed calm
      · simp [stored, observe, isClosed, CircuitBreaker.countFailure, CircuitBreaker.recordCall]
      · exact opened_kept counted inOrder rfl rfl Iff.rfl
  | trips now isClosed trips =>
      constructor
      · simp [CountsFailures, stored, observe, CircuitBreaker.openCircuit]
      · simp [stored, observe, CircuitBreaker.openCircuit]
      · have shut : run.stored ≠ .open := by simp [stored, isClosed]
        exact opened_now counted inOrder shut run.breaker.countFailure rfl rfl
  | testFails now isHalfOpen =>
      constructor
      · simp [CountsFailures, stored, observe, CircuitBreaker.openCircuit]
      · simp [stored, observe, CircuitBreaker.openCircuit]
      · have shut : run.stored ≠ .open := by simp [stored, isHalfOpen]
        exact opened_now counted inOrder shut run.breaker.countFailure rfl rfl
  | ignoresFailure now isOpen =>
      constructor
      · simp [CountsFailures, stored, observe, isOpen, CircuitBreaker.countFailure,
          CircuitBreaker.recordCall]
      · simp [stored, observe, isOpen, CircuitBreaker.countFailure, CircuitBreaker.recordCall]
      · exact opened_kept counted inOrder rfl rfl Iff.rfl

theorem buffer_exact (window : config.failureRateWindow ≤ 100) (buffered : Buffered config run)
    (indexed : run.Indexed) : run.BufferExact := by
  have length : (run.breaker.inner.recentCalls.take config.failureRateWindow).length =
      config.failureRateWindow := by
    simp [buffered.slots, window]
  have holds : ∃ slot, HoldsLast (run.breaker.inner.recentCalls.take config.failureRateWindow)
      .success run.outcomes slot config.failureRateWindow := by
    simp only [Indexed, CircuitRun.config, buffered.sameConfig] at indexed
    rcases indexed with few | divides | enough
    · exact ⟨_, buffered.whole (Or.inl few)⟩
    · exact ⟨_, buffered.whole (Or.inr divides)⟩
    · exact ⟨_, holds_last_mono enough buffered.recent⟩
  obtain ⟨slot, holds⟩ := holds
  have perm := holds_last_perm _ _ _ slot (by rwa [length])
  rw [length] at perm
  simpa only [BufferExact, lastCalls, CircuitRun.config, buffered.sameConfig] using perm

/-- The two checks, read from the history. -/
theorem trips_iff_history (inWindow : 0 < config.failureRateWindow)
    (window : config.failureRateWindow ≤ 100) (buffered : Buffered config run)
    (counted : Counted run) (now : Nat) (isClosed : run.stored = .closed)
    (later : Buffered config (run.observe (.recordFailure now) next))
    (indexed : (run.observe (.recordFailure now) next).Indexed)
    (slots : next.inner.recentCalls = run.breaker.countFailure.inner.recentCalls) :
    run.breaker.countFailure.Trips ↔
      config.failureThreshold ≤ (run.observe (.recordFailure now) next).trailingFailures ∨
        config.failureRateThreshold * config.failureRateWindow ≤
          100 * (run.observe (.recordFailure now) next).lastCalls.count .failure := by
  obtain ⟨exactly, below⟩ := counted.counts isClosed
  have next_failure : (run.breaker.inner.consecutiveFailures + 1) % 2 ^ 64 =
      run.breaker.inner.consecutiveFailures + 1 :=
    Nat.mod_eq_of_lt (Nat.lt_of_le_of_lt below run.breaker.config.fits.1)
  have trailing : run.breaker.countFailure.inner.consecutiveFailures =
      (run.observe (.recordFailure now) next).trailingFailures := by
    have extended : (run.observe (.recordFailure now) next).trailingFailures =
        run.trailingFailures + 1 := by
      simp [trailingFailures, observe, isClosed, CircuitCall.recorded]
    rw [extended, ← exactly]
    exact next_failure
  have sameConfig : run.breaker.countFailure.config = config := buffered.sameConfig
  have length : next.inner.recentCalls.length = 100 := later.slots
  have enough : run.breaker.countFailure.config.failureRateWindow ≤
      run.breaker.countFailure.inner.recentCalls.length := by
    rw [sameConfig, ← slots, length]
    exact window
  have exact_buffer := (buffer_exact window later indexed).count_eq .failure
  have sameNext : (run.observe (.recordFailure now) next).config = config := later.sameConfig
  rw [sameNext] at exact_buffer
  unfold CircuitBreaker.Trips
  rw [CircuitBreaker.failure_rate_reached (by rw [sameConfig]; exact inWindow) enough, trailing,
    sameConfig, ← slots, ← exact_buffer]
  exact Iff.rfl

theorem opens_exactly (inWindow : 0 < config.failureRateWindow)
    (window : config.failureRateWindow ≤ 100) (buffered : Buffered config run)
    (counted : Counted run) (indexed : (run.step call).Indexed) : run.OpensExactly call := by
  intro now isFailure isClosed
  subst isFailure
  have moves := CircuitBreaker.moves_after run.breaker (.recordFailure now)
  have later := buffered_observe inWindow window buffered moves
  unfold step at *
  generalize run.breaker.after (.recordFailure now) = next at *
  simp only [CircuitRun.config, buffered.sameConfig]
  cases moves with
  | reads _ reads => cases reads
  | tests _ reads => cases reads
  | fails _ _ calm =>
      rw [← trips_iff_history inWindow window buffered counted now isClosed later indexed rfl]
      exact iff_of_false (by simp [stored, observe, CircuitBreaker.count_failure_state, *]) calm
  | trips _ _ trips =>
      rw [← trips_iff_history inWindow window buffered counted now isClosed later indexed rfl]
      exact iff_of_true rfl trips
  | testFails _ other | ignoresFailure _ other =>
      have clash := isClosed.symm.trans other
      cases clash

theorem refuses_as_stored (counted : Counted run) (inOrder : run.InOrder call) (opened : Nat) :
    run.RefusesAsStored opened call := by
  intro now isRequest isOpening early
  subst isRequest
  obtain ⟨before, waits⟩ := opened_later counted inOrder opened isOpening
  have stored : opened % 2 ^ 64 ≤ opened := Nat.mod_le _ _
  simp only [CircuitCall.now, CircuitRun.config] at *
  rcases waits with ⟨isOpen, same⟩ | ⟨positive, passed⟩
  · apply CircuitBreaker.allow_request_waiting isOpen
    rw [same]
    omega
  · omega

theorem refuses_after (counted : Counted run) (inOrder : run.InOrder call) (opened : Nat)
    (small : opened < 2 ^ 64) : run.RefusesAfter opened call := by
  intro now isRequest isOpening early
  apply refuses_as_stored counted inOrder opened now isRequest isOpening
  rw [Nat.mod_eq_of_lt small]
  exact Or.inr early

theorem closes_exactly (counted : Counted run) : run.ClosesExactly call := by
  intro isHalfOpen
  obtain ⟨since, below⟩ := counted.testing isHalfOpen
  have moves := CircuitBreaker.moves_after run.breaker call
  unfold step
  generalize run.breaker.after call = next at *
  rw [since]
  have next_success : (run.breaker.inner.consecutiveSuccesses + 1) % 2 ^ 64 =
      run.breaker.inner.consecutiveSuccesses + 1 :=
    Nat.mod_eq_of_lt (Nat.lt_of_le_of_lt below run.breaker.config.fits.2)
  cases moves with
  | reads call reads =>
      apply iff_of_false
      · intro closed
        cases isHalfOpen.symm.trans closed
      · intro ⟨⟨now, isSuccess⟩, _⟩
        subst isSuccess
        cases reads
  | testSucceeds now _ few =>
      rw [next_success] at few
      apply iff_of_false
      · intro closed
        cases isHalfOpen.symm.trans closed
      · intro ⟨_, _, enough⟩
        rw [List.count_replicate_self, CircuitRun.config] at enough
        omega
  | closes now _ enough =>
      rw [next_success] at enough
      apply iff_of_true rfl
      refine ⟨⟨now, rfl⟩, ?_, ?_⟩
      · simp
      · rw [List.count_replicate_self, CircuitRun.config]
        exact Nat.le_antisymm below enough
  | testFails now =>
      apply iff_of_false
      · intro closed
        cases closed
      · intro ⟨⟨_, isSuccess⟩, _⟩
        cases isSuccess
  | succeeds _ other | ignoresSuccess _ other | fails _ other | trips _ other
  | ignoresFailure _ other | tests _ _ other =>
      have clash := isHalfOpen.symm.trans other
      cases clash

theorem reopens_on_failure : run.ReopensOnFailure call := by
  intro now isFailure isHalfOpen
  subst isFailure
  have moves := CircuitBreaker.moves_after run.breaker (.recordFailure now)
  unfold step
  generalize run.breaker.after (.recordFailure now) = next at *
  cases moves with
  | testFails => rfl
  | reads _ reads => cases reads
  | tests _ reads => cases reads
  | fails _ other | trips _ other | ignoresFailure _ other =>
      have clash := isHalfOpen.symm.trans other
      cases clash

theorem call_contract (inWindow : 0 < config.failureRateWindow)
    (window : config.failureRateWindow ≤ 100) (buffered : Buffered config run)
    (counted : Counted run) (inOrder : run.InOrder call) : CallContract run call := by
  constructor
  · exact opens_exactly inWindow window buffered counted
  · exact refuses_after counted inOrder
  · exact refuses_as_stored counted inOrder
  · exact closes_exactly counted
  · exact reopens_on_failure

end Step

/-- The contract of the circuit breaker over every run. -/
theorem circuit_contract (config : CircuitBreakerConfig) (calls : List CircuitCall)
    (inWindow : 1 ≤ config.failureRateWindow) (window : config.failureRateWindow ≤ 100)
    (failures : 1 ≤ config.failureThreshold) (successes : 1 ≤ config.successThreshold)
    (inOrder : EachMove step InOrder (start config) calls) :
    Always step StateContract (start config) calls ∧
      EachMove step CallContract (start config) calls := by
  obtain ⟨always, each⟩ := always_within step
    (fun run => Buffered config run ∧ Counted run)
    (by
      intro run call ⟨buffered, counted⟩ inOrder
      have moves := CircuitBreaker.moves_after run.breaker call
      constructor
      · exact buffered_observe inWindow window buffered moves
      · rw [← buffered.sameConfig] at failures successes
        exact counted_observe failures successes counted inOrder moves)
    (fun _ _ tracked inOrder => call_contract inWindow window tracked.1 tracked.2 inOrder)
    calls (start config) ⟨buffered_start window, counted_start failures⟩ inOrder
  refine ⟨always_imp step ?_ calls _ always, each⟩
  intro run ⟨buffered, counted⟩
  exact ⟨counted.counts, buffer_exact window buffered⟩

def secondsOpen (failureThreshold window : Nat) (fits : failureThreshold < 2 ^ 64) :
    CircuitBreakerConfig where
  failureThreshold := failureThreshold
  openDuration := ⟨1000000000⟩
  successThreshold := 1
  failureRateThreshold := 50
  failureRateWindow := window
  fits := ⟨fits, by decide⟩

theorem circuit_contract_opens_and_closes :
    Always step StateContract (start (secondsOpen 2 4 (by decide)))
        [.recordFailure 1, .recordFailure 2, .allowRequest 3, .allowRequest 1002,
          .recordSuccess 1003] ∧
      EachMove step CallContract (start (secondsOpen 2 4 (by decide)))
        [.recordFailure 1, .recordFailure 2, .allowRequest 3, .allowRequest 1002,
          .recordSuccess 1003] :=
  circuit_contract _ _ (by decide) (by decide) (by decide) (by decide) (by decide +kernel)

/-! ## Where the counters wrap -/

theorem in_order_at_one (calls : List CircuitCall) (run : CircuitRun) (clock : run.clock ≤ 1)
    (one : ∀ call ∈ calls, call.now = 1) : EachMove step InOrder run calls := by
  induction calls generalizing run with
  | nil => trivial
  | cons call rest ih =>
      have now := one call (List.mem_cons_self ..)
      constructor
      · unfold InOrder
        omega
      · apply ih
        · exact now.le
        · intro later isLater
          exact one later (List.mem_cons_of_mem _ isLater)

theorem step_records (run : CircuitRun) (call : CircuitCall) (result : CallResult)
    (records : call.recorded = [result]) :
    (run.step call).breaker.config = run.breaker.config ∧
      (run.step call).outcomes = result :: run.outcomes ∧
      (run.step call).breaker.inner.recentCalls = run.breaker.inner.recentCalls.set
        (run.breaker.inner.callIndex % run.breaker.config.failureRateWindow) result ∧
      (run.step call).breaker.inner.callIndex =
        (run.breaker.inner.callIndex + 1) % 2 ^ 64 := by
  obtain ⟨kept, ⟨nothing, _⟩ | ⟨other, recorded, slots, index⟩⟩ :=
    CircuitBreaker.moves_buffer (CircuitBreaker.moves_after run.breaker call)
  · rw [nothing] at records
    cases records
  · rw [recorded] at records
    cases records
    refine ⟨kept, ?_, slots, index⟩
    simp only [step, observe, recorded, List.singleton_append]

/-- Successes leave the ring as it was made. -/
theorem after_successes (config : CircuitBreakerConfig) (count : Nat) :
    let run := (List.replicate count (.recordSuccess 1)).foldl step (start config)
    run.breaker.config = config ∧ run.breaker.inner.recentCalls = .replicate 100 .success ∧
      run.breaker.inner.callIndex = count % 2 ^ 64 := by
  induction count with
  | zero => exact ⟨rfl, rfl, rfl⟩
  | succ count ih =>
      rw [List.replicate_succ', List.foldl_concat]
      obtain ⟨sameConfig, slots, index⟩ := ih
      obtain ⟨kept, _, newSlots, newIndex⟩ := step_records _ (.recordSuccess 1) .success rfl
      rw [slots, List.set_replicate_self] at newSlots
      rw [index, Nat.mod_add_mod] at newIndex
      exact ⟨kept.trans sameConfig, newSlots, newIndex⟩

/-- Successes up to the wrapping of the index, a failure and one more success. -/
def pastTheIndex : List CircuitCall :=
  List.replicate (2 ^ 64 - 1) (.recordSuccess 1) ++ [.recordFailure 1, .recordSuccess 1]

theorem past_the_index_in_order : EachMove step InOrder (start (secondsOpen 5 3 (by decide)))
    pastTheIndex := by
  apply in_order_at_one _ _ (by decide)
  intro call isCall
  rcases List.mem_append.mp isCall with early | late
  · rw [List.eq_of_mem_replicate early]
    rfl
  · simp only [List.mem_cons, List.not_mem_nil, or_false] at late
    rcases late with failure | success
    · rw [failure]
      rfl
    · rw [success]
      rfl

/-- Two calls in a row that are given the same slot. -/
theorem failure_overwritten (run : CircuitRun)
    (window : run.breaker.config.failureRateWindow = 3)
    (slots : run.breaker.inner.recentCalls = .replicate 100 .success)
    (sameSlot : run.breaker.inner.callIndex % 3 = (run.breaker.inner.callIndex + 1) % 2 ^ 64 % 3) :
    ¬((run.step (.recordFailure 1)).step (.recordSuccess 1)).BufferExact := by
  obtain ⟨keptFirst, failureFirst, slotFirst, indexFirst⟩ :=
    step_records run (.recordFailure 1) .failure rfl
  obtain ⟨kept, thenSuccess, slotAgain, _⟩ :=
    step_records (run.step (.recordFailure 1)) (.recordSuccess 1) .success rfl
  rw [keptFirst] at kept slotAgain
  rw [window] at slotFirst slotAgain
  rw [indexFirst, slotFirst, slots, sameSlot, List.set_set, List.set_replicate_self] at slotAgain
  rw [failureFirst] at thenSuccess
  generalize (run.step (.recordFailure 1)).step (.recordSuccess 1) = last at *
  intro exact_buffer
  have lost : CallResult.failure ∈ last.lastCalls := by
    simp [lastCalls, CircuitRun.config, kept, window, thenSuccess, lastValues]
  have nowhere := List.mem_of_mem_take (exact_buffer.mem_iff.mpr lost)
  rw [slotAgain] at nowhere
  cases List.eq_of_mem_replicate nowhere

theorem failure_overwritten_past_the_index :
    ¬(pastTheIndex.foldl step (start (secondsOpen 5 3 (by decide)))).BufferExact := by
  obtain ⟨sameConfig, slots, index⟩ :=
    after_successes (secondsOpen 5 3 (by decide)) (2 ^ 64 - 1)
  unfold pastTheIndex
  rw [List.foldl_append]
  apply failure_overwritten
  · rw [sameConfig]
    rfl
  · exact slots
  · rw [index]
    decide

/-- The stored time of an opening, too, has only 64 bits. -/
theorem let_through_at_once :
    EachMove step InOrder (start (secondsOpen 1 3 (by decide)))
        [.recordFailure (2 ^ 64 + 1), .allowRequest (2 ^ 64 + 1)] ∧
      ¬EachMove step (RefusesAfter (2 ^ 64 + 1)) (start (secondsOpen 1 3 (by decide)))
        [.recordFailure (2 ^ 64 + 1), .allowRequest (2 ^ 64 + 1)] := by
  constructor
  · decide +kernel
  · intro ⟨_, refuses, _⟩
    have refused := refuses (2 ^ 64 + 1) rfl (by decide +kernel) (by decide +kernel)
    revert refused
    decide +kernel

/-- The buffer is not exact in every run, nor is a request refused after every opening. -/
theorem counters_wrap :
    (EachMove step InOrder (start (secondsOpen 5 3 (by decide))) pastTheIndex ∧
        ¬Always step BufferExact (start (secondsOpen 5 3 (by decide))) pastTheIndex) ∧
      EachMove step InOrder (start (secondsOpen 1 3 (by decide)))
          [.recordFailure (2 ^ 64 + 1), .allowRequest (2 ^ 64 + 1)] ∧
        ¬EachMove step (RefusesAfter (2 ^ 64 + 1)) (start (secondsOpen 1 3 (by decide)))
          [.recordFailure (2 ^ 64 + 1), .allowRequest (2 ^ 64 + 1)] := by
  refine ⟨⟨past_the_index_in_order, ?_⟩, let_through_at_once⟩
  intro always
  exact failure_overwritten_past_the_index (always_final step _ _ always)

end CircuitRun

end HodeiJobs.Sagas
