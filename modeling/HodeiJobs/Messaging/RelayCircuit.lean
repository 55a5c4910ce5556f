import HodeiJobs.Sagas.CircuitBreaker

/-!
# The circuit breaker of the relays

`CommandRelay::process_single_command` and `NatsOutboxRelay::process_event` around their
circuit breaker. Calls interleave: one step admits a call, another one records how its
publication has ended.
-/

namespace HodeiJobs.Messaging

open HodeiJobs.Library
open HodeiJobs.Sagas (CallResult CircuitBreaker CircuitBreakerConfig CircuitState Duration)

/-! ## One call -/

/-- How the operation under `execute` ends. -/
inductive Publication where
  | published
  | failed (error : String)
  | timedOut

inductive CircuitBreakerError where
  | «open»
  | timeout
  /-- With the message of a `DomainError::InfrastructureError`. -/
  | failed (message : String)

/-- What a relay makes of the errors on its way. -/
structure RelayErrors (Error : Type) where
  publishFailed : String
  ofPreparation : String → Error
  ofCircuit : CircuitBreakerError → Error
  ofMark : String → Error

section

variable {Error : Type} (errors : RelayErrors Error) (breaker : CircuitBreaker)

/-- What the relays add to what `execute` has recorded. -/
def recordResult (now : Nat) : Except Error Unit → CircuitBreaker
  | .ok () => breaker.recordSuccess
  | .error _ => breaker.recordFailure now

/-- A call up to its publication; with a result if it does not get there. The clock is read
when the call is admitted, and again if it is not. -/
def beginCall (preparation : Option String) (admitted recorded : Nat) :
    Option (Except Error Unit) × CircuitBreaker :=
  match preparation with
  | some error => (some (.error (errors.ofPreparation error)), breaker)
  | none =>
      match breaker.allowRequest admitted with
      | (true, read) => (none, read)
      | (false, read) =>
          let result := .error (errors.ofCircuit .open)
          (some result, recordResult read recorded result)

/-- `execute` after its operation. -/
def executed (now : Nat) : Publication → Except CircuitBreakerError Unit × CircuitBreaker
  | .published => (.ok (), breaker.recordSuccess)
  | .failed error =>
      (.error (.failed (errors.publishFailed ++ error)), breaker.recordFailure now)
  | .timedOut => (.error .timeout, breaker.recordFailure now)

/-- A call from the end of its publication on. -/
def endCall (publication : Publication) (first second : Nat) (mark : Option String) :
    Except Error Unit × CircuitBreaker :=
  let (outcome, breaker) := executed errors breaker first publication
  let result := outcome.mapError errors.ofCircuit
  let breaker := recordResult breaker second result
  match result, mark with
  | .error error, _ => (.error error, breaker)
  | .ok (), none => (.ok (), breaker)
  | .ok (), some error => (.error (errors.ofMark error), breaker)

end

/-! ## The two relays -/

/-- The breaker that both relays are built with. -/
def relayCircuitConfig (failureThreshold successThreshold : UInt64) (openDuration : Duration) :
    CircuitBreakerConfig where
  failureThreshold := failureThreshold.toNat
  openDuration := openDuration
  successThreshold := successThreshold.toNat
  failureRateThreshold := 50
  failureRateWindow := 100
  fits := ⟨failureThreshold.toNat_lt, successThreshold.toNat_lt⟩

inductive CommandProcessorError where
  | handlerError (message : String)
  | retryableError (message : String)
  | permanentError (message : String)

namespace CommandRelay

def errors : RelayErrors CommandProcessorError where
  publishFailed := "NATS publish failed: "
  ofPreparation error := .permanentError ("Serialization error: " ++ error)
  ofCircuit
    | .open => .retryableError "Circuit breaker open"
    | .timeout => .retryableError "Circuit breaker timeout"
    | .failed message => .retryableError ("Infrastructure error: " ++ message)
  ofMark error := .handlerError error

/-- `process_single_command` up to the publication. -/
def beginSingleCommand := beginCall errors

/-- `process_single_command` after the publication. -/
def endSingleCommand := endCall errors

end CommandRelay

inductive NatsOutboxRelayError where
  | outbox (error : String)
  | eventBusPublish (error : String)
  | serialization (error : String)
  | infrastructureError (message : String)

namespace NatsOutboxRelay

def errors : RelayErrors NatsOutboxRelayError where
  publishFailed := "Event bus publish failed: "
  ofPreparation error := .serialization error
  ofCircuit
    | .open => .infrastructureError "Circuit breaker open"
    | .timeout => .infrastructureError "Circuit breaker timeout"
    | .failed message => .eventBusPublish ("Infrastructure error: " ++ message)
  ofMark error := .outbox error

/-- `process_event` up to the publication. -/
def beginEvent := beginCall errors

/-- `process_event` after the publication. -/
def endEvent := endCall errors

end NatsOutboxRelay

/-! ## Runs of calls -/

def Publication.result : Publication → CallResult
  | .published => .success
  | .failed _ | .timedOut => .failure

/-- The breaker, the calls that wait for their publication, and the publish attempts that have
ended, newest first: all of them, and those since the circuit last became half-open. -/
structure RelayCircuit where
  breaker : CircuitBreaker
  running : Nat
  attempts : List CallResult
  sinceHalfOpen : List CallResult

inductive RelayCall where
  | «begin» (preparation : Option String) (admitted recorded : Nat)
  | «end» (publication : Publication) (first second : Nat) (mark : Option String)

namespace RelayCircuit

def start (config : CircuitBreakerConfig) : RelayCircuit := ⟨.new config, 0, [], []⟩

def stored (run : RelayCircuit) : CircuitState := run.breaker.inner.state

def config (run : RelayCircuit) : CircuitBreakerConfig := run.breaker.config

section

variable {Error : Type} (errors : RelayErrors Error)

/-- A call that gets no result is admitted; only calls that run can end. -/
def step (run : RelayCircuit) : RelayCall → RelayCircuit
  | .begin preparation admitted recorded =>
      match beginCall errors run.breaker preparation admitted recorded with
      | (some _, next) => { run with breaker := next }
      | (none, next) =>
          { run with
            breaker := next
            running := run.running + 1
            sinceHalfOpen :=
              if run.stored = .open ∧ next.inner.state = .halfOpen then []
              else run.sinceHalfOpen }
  | .end publication first second mark =>
      match run.running with
      | 0 => run
      | running + 1 =>
          { breaker := (endCall errors run.breaker publication first second mark).2
            running := running
            attempts := publication.result :: run.attempts
            sinceHalfOpen := publication.result :: run.sinceHalfOpen }

end

/-- The attempts that have failed since the last one that did not. -/
def trailingFailures (attempts : List CallResult) : Nat :=
  (attempts.takeWhile (· = .failure)).length

/-- The failure rate over the last attempts, missing ones counting as successes. -/
def RateReached (config : CircuitBreakerConfig) (attempts : List CallResult) : Prop :=
  config.failureRateThreshold * config.failureRateWindow ≤
    100 * (lastValues config.failureRateWindow .success attempts).count .failure

instance (config : CircuitBreakerConfig) (attempts : List CallResult) :
    Decidable (RateReached config attempts) :=
  inferInstanceAs (Decidable (_ ≤ _))

/-- The circuit opens and closes by what publish attempts have done. -/
def MovesByAttempts (run next : RelayCircuit) : Prop :=
  (run.stored = .closed → next.stored = .open →
    run.config.failureThreshold ≤ trailingFailures next.attempts ∨
      RateReached run.config next.attempts) ∧
  (run.stored = .halfOpen → next.stored = .closed →
    run.config.successThreshold ≤ next.sinceHalfOpen.count .success)

/-- The failure rate in the ring of the breaker, with one more attempt that is recorded
twice. -/
def ringRate (run : RelayCircuit) : ℚ := run.breaker.countFailure.countFailure.failureRate

/-- No threshold is reached by counting attempts twice. -/
def CountsSuffice (run : RelayCircuit) : RelayCall → Prop
  | .begin _ _ _ => True
  | .end publication _ _ _ => 0 < run.running →
      (publication.result = .failure → run.stored = .closed →
        run.config.failureThreshold ≤ 1 ∨ RateReached run.config (.failure :: run.attempts) ∨
          2 * (trailingFailures run.attempts + 1) < run.config.failureThreshold ∧
            run.ringRate < run.config.failureRateThreshold) ∧
      (publication.result = .success → run.stored = .halfOpen →
        run.config.successThreshold ≤ 1 ∨
          2 * (run.sinceHalfOpen.count .success + 1) < run.config.successThreshold)

end RelayCircuit

/-! ## Recording an attempt twice -/

section

variable {breaker : CircuitBreaker}

theorem count_failure_le_set (slots : List CallResult) (index : Nat) :
    slots.count .failure ≤ (slots.set index .failure).count .failure := by
  induction slots generalizing index with
  | nil => exact Nat.le_refl _
  | cons slot rest ih =>
      cases index with
      | zero =>
          rw [List.set_cons_zero, List.count_cons_self]
          cases slot with
          | success => exact Nat.le_succ_of_le (Nat.le_of_eq rfl)
          | failure => exact Nat.le_of_eq List.count_cons_self
      | succ index =>
          rw [List.set_cons_succ, List.count_cons, List.count_cons]
          exact Nat.add_le_add_right (ih index) _

/-- A failure in the ring does not lower its rate. -/
theorem failure_rate_le_count_failure (breaker : CircuitBreaker) :
    breaker.failureRate ≤ breaker.countFailure.failureRate := by
  have ring : breaker.countFailure.inner.recentCalls.take breaker.config.failureRateWindow =
      (breaker.inner.recentCalls.take breaker.config.failureRateWindow).set
        (breaker.inner.callIndex % breaker.config.failureRateWindow) .failure := List.take_set
  have window : breaker.countFailure.config.failureRateWindow =
    breaker.config.failureRateWindow := rfl
  unfold CircuitBreaker.failureRate
  rw [window, ring]
  simp only [List.length_set]
  split_ifs with empty
  · exact le_refl 0
  · have more := count_failure_le_set
      (breaker.inner.recentCalls.take breaker.config.failureRateWindow)
      (breaker.inner.callIndex % breaker.config.failureRateWindow)
    apply mul_le_mul_of_nonneg_right _ (by norm_num)
    exact div_le_div_of_nonneg_right (Nat.cast_le.mpr more) (Nat.cast_nonneg _)

/-- Both results of a failed attempt are counted before the thresholds are looked at. -/
theorem record_failure_closed (closed : breaker.inner.state = .closed) (now : Nat) :
    (breaker.countFailure.Trips ∧ (breaker.recordFailure now).inner.state = .open) ∨
      (¬breaker.countFailure.Trips ∧ breaker.recordFailure now = breaker.countFailure) := by
  have moves : breaker.Moves (.recordFailure now) (breaker.recordFailure now) :=
    CircuitBreaker.moves_failure_closed closed
  generalize breaker.recordFailure now = next at *
  cases moves with
  | fails _ _ calm => exact .inr ⟨calm, rfl⟩
  | trips _ _ trips => exact .inl ⟨trips, rfl⟩
  | testFails _ other | ignoresFailure _ other =>
      have clash := closed.symm.trans other
      cases clash
  | reads _ reads => cases reads
  | tests _ reads => cases reads

theorem record_failure_open (shut : breaker.inner.state = .open) (now : Nat) :
    (breaker.recordFailure now).inner.state = .open := by
  simp [CircuitBreaker.recordFailure, CircuitBreaker.count_failure_state, shut]

theorem record_failure_half_open (testing : breaker.inner.state = .halfOpen) (now : Nat) :
    (breaker.recordFailure now).inner.state = .open := by
  simp [CircuitBreaker.recordFailure, CircuitBreaker.count_failure_state, testing,
    CircuitBreaker.openCircuit]

theorem record_failure_config (breaker : CircuitBreaker) (now : Nat) :
    (breaker.recordFailure now).config = breaker.config := by
  have moves : breaker.Moves (.recordFailure now) (breaker.recordFailure now) :=
    CircuitBreaker.moves_failure
  exact (CircuitBreaker.moves_buffer moves).1

theorem record_success_config (breaker : CircuitBreaker) :
    breaker.recordSuccess.config = breaker.config := by
  have moves : breaker.Moves (.recordSuccess 0) breaker.recordSuccess :=
    CircuitBreaker.moves_success
  exact (CircuitBreaker.moves_buffer moves).1

theorem record_success_closed (closed : breaker.inner.state = .closed) :
    breaker.recordSuccess.inner.state = .closed ∧
      breaker.recordSuccess.inner.consecutiveFailures = 0 := by
  simp [CircuitBreaker.recordSuccess, CircuitBreaker.recordCall, closed]

theorem record_success_open (shut : breaker.inner.state = .open) :
    breaker.recordSuccess.inner.state = .open := by
  simp [CircuitBreaker.recordSuccess, CircuitBreaker.recordCall, shut]

theorem record_success_half_open (testing : breaker.inner.state = .halfOpen)
    (few : breaker.inner.consecutiveSuccesses + 1 < 2 ^ 64) :
    (breaker.config.successThreshold ≤ breaker.inner.consecutiveSuccesses + 1 ∧
        breaker.recordSuccess.inner.state = .closed ∧
        breaker.recordSuccess.inner.consecutiveFailures = 0) ∨
      (breaker.inner.consecutiveSuccesses + 1 < breaker.config.successThreshold ∧
        breaker.recordSuccess.inner.state = .halfOpen ∧
        breaker.recordSuccess.inner.consecutiveSuccesses =
          breaker.inner.consecutiveSuccesses + 1) := by
  have next : (breaker.inner.consecutiveSuccesses + 1) % 2 ^ 64 =
      breaker.inner.consecutiveSuccesses + 1 := Nat.mod_eq_of_lt few
  have moves : breaker.Moves (.recordSuccess 0) breaker.recordSuccess :=
    CircuitBreaker.moves_success
  generalize breaker.recordSuccess = after at *
  cases moves with
  | testSucceeds _ _ fewer =>
      rw [next] at fewer
      exact .inr ⟨fewer, testing, next⟩
  | closes _ _ enough =>
      rw [next] at enough
      exact .inl ⟨enough, rfl, rfl⟩
  | succeeds _ other | ignoresSuccess _ other =>
      have clash := testing.symm.trans other
      cases clash
  | reads _ reads => cases reads
  | tests _ reads => cases reads

def recordTwice (breaker : CircuitBreaker) (first second : Nat) : CallResult → CircuitBreaker
  | .success => breaker.recordSuccess.recordSuccess
  | .failure => (breaker.recordFailure first).recordFailure second

/-- `execute` and the relay both record the result of a publication. -/
theorem end_call_breaker {Error : Type} (errors : RelayErrors Error) (breaker : CircuitBreaker)
    (publication : Publication) (first second : Nat) (mark : Option String) :
    (endCall errors breaker publication first second mark).2 =
      recordTwice breaker first second publication.result := by
  cases publication <;> cases mark <;> rfl

theorem record_twice_config (breaker : CircuitBreaker) (first second : Nat)
    (result : CallResult) : (recordTwice breaker first second result).config = breaker.config := by
  cases result with
  | success => exact (record_success_config _).trans (record_success_config _)
  | failure => exact (record_failure_config _ second).trans (record_failure_config _ first)

/-- An open circuit stays open. -/
theorem record_twice_open (shut : breaker.inner.state = .open) (first second : Nat)
    (result : CallResult) : (recordTwice breaker first second result).inner.state = .open := by
  cases result with
  | success => exact record_success_open (record_success_open shut)
  | failure => exact record_failure_open (record_failure_open shut first) second

/-- A closed circuit opens when either record of a failed attempt trips it. -/
theorem fails_twice (closed : breaker.inner.state = .closed)
    (few : breaker.inner.consecutiveFailures + 1 < 2 ^ 64) (first second : Nat) :
    ((breaker.config.failureThreshold ≤ breaker.inner.consecutiveFailures + 2 ∨
          (breaker.config.failureRateThreshold : ℚ) ≤
            breaker.countFailure.countFailure.failureRate) ∧
        (recordTwice breaker first second .failure).inner.state = .open) ∨
      (breaker.inner.consecutiveFailures + 2 < breaker.config.failureThreshold ∧
        breaker.countFailure.countFailure.failureRate < breaker.config.failureRateThreshold ∧
        (recordTwice breaker first second .failure).inner.state = .closed ∧
        (recordTwice breaker first second .failure).inner.consecutiveFailures =
          breaker.inner.consecutiveFailures + 2) := by
  have once : breaker.countFailure.inner.consecutiveFailures =
      breaker.inner.consecutiveFailures + 1 := Nat.mod_eq_of_lt few
  have rates := failure_rate_le_count_failure breaker.countFailure
  rcases record_failure_closed closed first with ⟨trips, opens⟩ | ⟨calm, counted⟩
  · left
    refine ⟨?_, record_failure_open opens second⟩
    rcases trips with many | often
    · left
      rw [once] at many
      exact Nat.le_succ_of_le many
    · exact .inr (le_trans often rates)
  · have below : breaker.inner.consecutiveFailures + 1 < breaker.config.failureThreshold := by
      rw [← once]
      exact not_le.mp fun many => calm (.inl many)
    have twice : breaker.countFailure.countFailure.inner.consecutiveFailures =
        breaker.inner.consecutiveFailures + 2 := by
      have fits := breaker.config.fits.1
      have again : breaker.countFailure.countFailure.inner.consecutiveFailures =
          (breaker.countFailure.inner.consecutiveFailures + 1) % 2 ^ 64 := rfl
      rw [again, once]
      exact Nat.mod_eq_of_lt (by omega)
    unfold recordTwice
    rw [counted]
    have stillClosed : breaker.countFailure.inner.state = .closed := closed
    rcases record_failure_closed stillClosed second with ⟨trips, opens⟩ | ⟨calmAgain, countedAgain⟩
    · left
      refine ⟨?_, opens⟩
      unfold CircuitBreaker.Trips at trips
      rw [twice] at trips
      exact trips
    · right
      unfold CircuitBreaker.Trips at calmAgain
      rw [twice, not_or, not_le, not_le] at calmAgain
      rw [countedAgain]
      exact ⟨calmAgain.1, calmAgain.2, closed, twice⟩

/-- A half-open circuit closes when either record of a successful attempt is enough. -/
theorem succeeds_twice (testing : breaker.inner.state = .halfOpen)
    (few : breaker.inner.consecutiveSuccesses + 1 < 2 ^ 64) (first second : Nat) :
    (breaker.config.successThreshold ≤ breaker.inner.consecutiveSuccesses + 2 ∧
        (recordTwice breaker first second .success).inner.state = .closed ∧
        (recordTwice breaker first second .success).inner.consecutiveFailures = 0) ∨
      (breaker.inner.consecutiveSuccesses + 2 < breaker.config.successThreshold ∧
        (recordTwice breaker first second .success).inner.state = .halfOpen ∧
        (recordTwice breaker first second .success).inner.consecutiveSuccesses =
          breaker.inner.consecutiveSuccesses + 2) := by
  rcases record_success_half_open testing few with ⟨enough, closes, -⟩ | ⟨fewer, tests, counted⟩
  · exact .inl ⟨Nat.le_succ_of_le enough, record_success_closed closes⟩
  · have fits := breaker.config.fits.2
    have fewAgain : breaker.recordSuccess.inner.consecutiveSuccesses + 1 < 2 ^ 64 := by
      rw [counted]
      omega
    have again := record_success_half_open tests fewAgain
    rw [counted, record_success_config] at again
    exact again

end

/-! ## The counters of the breaker -/

namespace RelayCircuit

/-- The counters of the breaker are twice the attempts. -/
structure Doubled (run : RelayCircuit) : Prop where
  failures : run.stored = .closed →
    run.breaker.inner.consecutiveFailures = 2 * trailingFailures run.attempts ∧
      (trailingFailures run.attempts = 0 ∨
        2 * trailingFailures run.attempts < run.config.failureThreshold)
  successes : run.stored = .halfOpen →
    run.breaker.inner.consecutiveSuccesses = 2 * run.sinceHalfOpen.count .success ∧
      (run.sinceHalfOpen.count .success = 0 ∨
        2 * run.sinceHalfOpen.count .success < run.config.successThreshold)

theorem doubled_of_open {run : RelayCircuit} (shut : run.stored = .open) : run.Doubled where
  failures closed := by cases shut.symm.trans closed
  successes testing := by cases shut.symm.trans testing

theorem doubled_of_closed {run : RelayCircuit} (closed : run.stored = .closed)
    (counted : run.breaker.inner.consecutiveFailures = 2 * trailingFailures run.attempts)
    (few : trailingFailures run.attempts = 0 ∨
      2 * trailingFailures run.attempts < run.config.failureThreshold) : run.Doubled where
  failures _ := ⟨counted, few⟩
  successes testing := by cases closed.symm.trans testing

theorem doubled_of_half_open {run : RelayCircuit} (testing : run.stored = .halfOpen)
    (counted : run.breaker.inner.consecutiveSuccesses = 2 * run.sinceHalfOpen.count .success)
    (few : run.sinceHalfOpen.count .success = 0 ∨
      2 * run.sinceHalfOpen.count .success < run.config.successThreshold) : run.Doubled where
  failures closed := by cases testing.symm.trans closed
  successes _ := ⟨counted, few⟩

theorem start_doubled (config : CircuitBreakerConfig) : (start config).Doubled where
  failures _ := ⟨rfl, .inl rfl⟩
  successes testing := by cases testing

theorem trailing_failures_failure (attempts : List CallResult) :
    trailingFailures (.failure :: attempts) = trailingFailures attempts + 1 := rfl

section

variable {Error : Type} (errors : RelayErrors Error) {run : RelayCircuit}

/-- What a step that begins a call does to the circuit. -/
theorem step_begin (run : RelayCircuit) (preparation : Option String) (admitted recorded : Nat) :
    let next := run.step errors (.begin preparation admitted recorded)
    next.config = run.config ∧ next.attempts = run.attempts ∧
      ((next.stored = .open ∧ run.stored = .open) ∨
        (next.breaker = run.breaker ∧ next.sinceHalfOpen = run.sinceHalfOpen) ∨
        (run.stored = .open ∧ next.stored = .halfOpen ∧ next.sinceHalfOpen = [] ∧
          next.breaker.inner.consecutiveSuccesses = 0)) := by
  cases preparation with
  | some error => exact ⟨rfl, rfl, .inr (.inl ⟨rfl, rfl⟩)⟩
  | none =>
      cases isStored : run.breaker.inner.state with
      | closed =>
          simp [step, beginCall, CircuitBreaker.allowRequest, CircuitBreaker.state, isStored,
            stored, config]
      | halfOpen =>
          simp [step, beginCall, CircuitBreaker.allowRequest, CircuitBreaker.state, isStored,
            stored, config]
      | «open» =>
          have refused := record_failure_open isStored recorded
          have sameConfig := record_failure_config run.breaker recorded
          simp only [step, beginCall, CircuitBreaker.allowRequest, CircuitBreaker.state, isStored,
            stored, config]
          split_ifs <;> simp [recordResult, refused, sameConfig]

/-- What a step that ends a call does to the circuit. -/
theorem step_end (running : 0 < run.running) (publication : Publication) (first second : Nat)
    (mark : Option String) :
    run.step errors (.end publication first second mark) =
      { breaker := recordTwice run.breaker first second publication.result
        running := run.running - 1
        attempts := publication.result :: run.attempts
        sinceHalfOpen := publication.result :: run.sinceHalfOpen } := by
  obtain ⟨left, more⟩ := Nat.exists_eq_succ_of_ne_zero (Nat.ne_of_gt running)
  simp only [step, more, end_call_breaker]
  rfl

theorem few_failures (doubled : run.Doubled) (closed : run.stored = .closed) :
    run.breaker.inner.consecutiveFailures + 1 < 2 ^ 64 := by
  obtain ⟨exactly, few⟩ := doubled.failures closed
  have fits := run.breaker.config.fits.1
  unfold config at few
  omega

theorem few_successes (doubled : run.Doubled) (testing : run.stored = .halfOpen) :
    run.breaker.inner.consecutiveSuccesses + 1 < 2 ^ 64 := by
  obtain ⟨exactly, few⟩ := doubled.successes testing
  have fits := run.breaker.config.fits.2
  unfold config at few
  omega

theorem doubled_end (doubled : run.Doubled) (running : 0 < run.running)
    (publication : Publication) (first second : Nat) (mark : Option String) :
    (run.step errors (.end publication first second mark)).Doubled := by
  rw [step_end errors running]
  have sameConfig := record_twice_config run.breaker first second
  cases isStored : run.breaker.inner.state with
  | «open» => exact doubled_of_open (record_twice_open isStored first second publication.result)
  | closed =>
      obtain ⟨exactly, -⟩ := doubled.failures isStored
      cases publication.result with
      | success =>
          obtain ⟨closed, reset⟩ := record_success_closed (record_success_closed isStored).1
          exact doubled_of_closed closed reset (.inl rfl)
      | failure =>
          rcases fails_twice isStored (few_failures doubled isStored) first second with
            ⟨-, opens⟩ | ⟨below, -, closed, counted⟩
          · exact doubled_of_open opens
          · refine doubled_of_closed closed (counted.trans ?_) ?_
            · rw [trailing_failures_failure]
              omega
            · simp only [config, sameConfig, trailing_failures_failure]
              omega
  | halfOpen =>
      obtain ⟨exactly, -⟩ := doubled.successes isStored
      cases publication.result with
      | success =>
          rcases succeeds_twice isStored (few_successes doubled isStored) first second with
            ⟨-, closed, reset⟩ | ⟨below, testing, counted⟩
          · exact doubled_of_closed closed reset (.inl rfl)
          · refine doubled_of_half_open testing (counted.trans ?_) ?_
            · rw [List.count_cons_self]
              omega
            · simp only [config, sameConfig, List.count_cons_self]
              omega
      | failure =>
          exact doubled_of_open
            (record_failure_open (record_failure_half_open isStored first) second)

theorem doubled_step (doubled : run.Doubled) (call : RelayCall) :
    (run.step errors call).Doubled := by
  cases call with
  | «begin» preparation admitted recorded =>
      obtain ⟨sameConfig, sameAttempts, shut | ⟨sameBreaker, sameSince⟩ | tests⟩ :=
        step_begin errors run preparation admitted recorded
      · exact doubled_of_open shut.1
      · constructor
        · intro closed
          rw [sameConfig, sameAttempts, sameBreaker]
          apply doubled.failures
          rw [← closed, stored, stored, sameBreaker]
        · intro testing
          rw [sameConfig, sameSince, sameBreaker]
          apply doubled.successes
          rw [← testing, stored, stored, sameBreaker]
      · obtain ⟨-, testing, since, none⟩ := tests
        apply doubled_of_half_open testing
        · rw [since, none]
          rfl
        · exact .inl (by rw [since, List.count_nil])
  | «end» publication first second mark =>
      cases Nat.eq_zero_or_pos run.running with
      | inl idle =>
          simp only [step, idle]
          exact doubled
      | inr running => exact doubled_end errors doubled running publication first second mark

theorem moves_by_attempts_begin (preparation : Option String) (admitted recorded : Nat) :
    run.MovesByAttempts (run.step errors (.begin preparation admitted recorded)) := by
  obtain ⟨-, -, shut | ⟨sameBreaker, -⟩ | tests⟩ :=
    step_begin errors run preparation admitted recorded
  · constructor
    · intro closed
      cases shut.2.symm.trans closed
    · intro testing
      cases shut.2.symm.trans testing
  · have same : (run.step errors (.begin preparation admitted recorded)).stored = run.stored := by
      rw [stored, stored, sameBreaker]
    constructor
    · intro closed opens
      cases closed.symm.trans (same.symm.trans opens)
    · intro testing closed
      cases testing.symm.trans (same.symm.trans closed)
  · constructor
    · intro closed
      cases tests.1.symm.trans closed
    · intro testing
      cases tests.1.symm.trans testing

/-- A failed attempt moves a circuit only if it is closed, and then by the attempts exactly if
they reach a threshold or counting them twice does not. -/
theorem moves_by_failure_iff {next : RelayCircuit} (doubled : run.Doubled) (first second : Nat)
    (recorded : next.breaker = recordTwice run.breaker first second .failure)
    (attempts : next.attempts = .failure :: run.attempts) :
    run.MovesByAttempts next ↔ (run.stored = .closed →
      run.config.failureThreshold ≤ 1 ∨ RateReached run.config (.failure :: run.attempts) ∨
        2 * (trailingFailures run.attempts + 1) < run.config.failureThreshold ∧
          run.ringRate < run.config.failureRateThreshold) := by
  have notClosed (testing : run.stored = .halfOpen) : next.stored ≠ .closed := by
    intro closed
    have opens := record_failure_open (record_failure_half_open testing first) second
    rw [stored, recorded] at closed
    cases opens.symm.trans closed
  have movesIff : run.MovesByAttempts next ↔
      (run.stored = .closed → next.stored = .open →
        run.config.failureThreshold ≤ trailingFailures run.attempts + 1 ∨
          RateReached run.config (.failure :: run.attempts)) := by
    rw [MovesByAttempts, attempts, trailing_failures_failure]
    exact and_iff_left fun testing closed => absurd closed (notClosed testing)
  rw [movesIff]
  apply forall_congr'
  intro closed
  obtain ⟨exactly, small⟩ := doubled.failures closed
  have outcome := fails_twice closed (few_failures doubled closed) first second
  rw [← recorded] at outcome
  rcases outcome with ⟨reached, opens⟩ | ⟨below, rate, stays, -⟩
  · have moves : next.stored = .open := opens
    simp only [moves, forall_const]
    constructor
    · intro enough
      rcases enough with many | rate
      · left
        omega
      · exact .inr (.inl rate)
    · intro counts
      rcases counts with one | rate | ⟨few, low⟩
      · left
        omega
      · exact .inr rate
      · rcases reached with many | often
        · unfold config at few
          omega
        · exact absurd often (not_le.mpr low)
  · apply iff_of_true
    · intro opens
      cases stays.symm.trans opens
    · refine .inr (.inr ⟨?_, rate⟩)
      unfold config
      omega

/-- A successful attempt moves a circuit only if it is half-open. -/
theorem moves_by_success_iff {next : RelayCircuit} (doubled : run.Doubled) (first second : Nat)
    (recorded : next.breaker = recordTwice run.breaker first second .success)
    (since : next.sinceHalfOpen = .success :: run.sinceHalfOpen) :
    run.MovesByAttempts next ↔ (run.stored = .halfOpen →
      run.config.successThreshold ≤ 1 ∨
        2 * (run.sinceHalfOpen.count .success + 1) < run.config.successThreshold) := by
  have notOpen (closed : run.stored = .closed) : next.stored ≠ .open := by
    intro opens
    have stays := (record_success_closed (record_success_closed closed).1).1
    rw [stored, recorded] at opens
    cases stays.symm.trans opens
  have movesIff : run.MovesByAttempts next ↔
      (run.stored = .halfOpen → next.stored = .closed →
        run.config.successThreshold ≤ run.sinceHalfOpen.count .success + 1) := by
    rw [MovesByAttempts, since, List.count_cons_self]
    exact and_iff_right fun closed opens => absurd opens (notOpen closed)
  rw [movesIff]
  apply forall_congr'
  intro testing
  obtain ⟨exactly, small⟩ := doubled.successes testing
  have outcome := succeeds_twice testing (few_successes doubled testing) first second
  rw [← recorded] at outcome
  rcases outcome with ⟨reached, closes, -⟩ | ⟨below, stays, -⟩
  · have moves : next.stored = .closed := closes
    simp only [moves, forall_const]
    unfold config
    unfold config at small
    omega
  · apply iff_of_true
    · intro closes
      cases stays.symm.trans closes
    · right
      unfold config
      omega

/-- The circuit moves by attempts at a call that ends exactly if no threshold is reached by
counting attempts twice. -/
theorem moves_by_attempts_end (doubled : run.Doubled) (publication : Publication)
    (first second : Nat) (mark : Option String) :
    run.MovesByAttempts (run.step errors (.end publication first second mark)) ↔
      run.CountsSuffice (.end publication first second mark) := by
  cases Nat.eq_zero_or_pos run.running with
  | inl idle =>
      apply iff_of_true
      · simp only [step, idle]
        constructor
        · intro closed opens
          cases closed.symm.trans opens
        · intro testing closed
          cases testing.symm.trans closed
      · intro running
        exact absurd idle (Nat.ne_of_gt running)
  | inr running =>
      rw [step_end errors running, CountsSuffice]
      cases publication.result with
      | failure =>
          rw [moves_by_failure_iff doubled first second rfl rfl]
          simp [running]
      | success =>
          rw [moves_by_success_iff doubled first second rfl rfl]
          simp [running]

theorem moves_by_attempts_iff (doubled : run.Doubled) (call : RelayCall) :
    run.MovesByAttempts (run.step errors call) ↔ run.CountsSuffice call := by
  cases call with
  | «begin» preparation admitted recorded =>
      exact iff_of_true (moves_by_attempts_begin errors preparation admitted recorded) trivial
  | «end» publication first second mark =>
      exact moves_by_attempts_end errors doubled publication first second mark

end

/-- The circuits of both relays open and close by what publish attempts have done, in exactly
the runs in which no threshold is reached by counting attempts twice. -/
theorem moves_by_attempts_iff_counts_suffice (config : CircuitBreakerConfig)
    (calls : List RelayCall) :
    (EachMove (step CommandRelay.errors)
        (fun run call => run.MovesByAttempts (run.step CommandRelay.errors call))
        (start config) calls ↔
      EachMove (step CommandRelay.errors) CountsSuffice (start config) calls) ∧
    (EachMove (step NatsOutboxRelay.errors)
        (fun run call => run.MovesByAttempts (run.step NatsOutboxRelay.errors call))
        (start config) calls ↔
      EachMove (step NatsOutboxRelay.errors) CountsSuffice (start config) calls) := by
  constructor
  · apply each_move_congr_within (step CommandRelay.errors) Doubled
    · intro run call doubled
      exact moves_by_attempts_iff CommandRelay.errors doubled call
    · intro run call doubled _
      exact doubled_step CommandRelay.errors doubled call
    · exact start_doubled config
  · apply each_move_congr_within (step NatsOutboxRelay.errors) Doubled
    · intro run call doubled
      exact moves_by_attempts_iff NatsOutboxRelay.errors doubled call
    · intro run call doubled _
      exact doubled_step NatsOutboxRelay.errors doubled call
    · exact start_doubled config

/-- The defaults of both relays. -/
def defaultConfig : CircuitBreakerConfig := relayCircuitConfig 5 2 ⟨30000000000⟩

/-- Three calls one after the other, each refused by the server. -/
def refusedThrice : List RelayCall :=
  (List.range 3).flatMap fun time =>
    [.begin none time time, .end (.failed "no responders") time time none]

/-- The circuit opens after three failed attempts, not five. -/
theorem refused_thrice_opens :
    ¬EachMove (step CommandRelay.errors)
      (fun run call => run.MovesByAttempts (run.step CommandRelay.errors call))
      (start defaultConfig) refusedThrice := by
  intro ⟨_, _, _, _, _, ⟨opens, _⟩, _⟩
  have early := opens (by decide +kernel) (by decide +kernel)
  revert early
  decide +kernel

end RelayCircuit

end HodeiJobs.Messaging
