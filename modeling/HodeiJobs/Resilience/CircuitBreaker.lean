import HodeiJobs.Library.Streak
import HodeiJobs.Sagas.CircuitBreaker

/-!
# The resilience circuit breaker

`CircuitBreaker::execute` holds the lock before and after its operation, not while it runs. One
call after the other, the breaker is an automaton that decides by the results since it entered
its state. When calls overlap, a result counts in the state that it finds.
-/

namespace HodeiJobs.Resilience

open HodeiJobs.Library
open HodeiJobs.Sagas (CallResult CircuitState Duration)

structure CircuitBreakerConfig where
  failureThreshold : Nat
  successThreshold : Nat
  timeout : Duration
  fits : failureThreshold < 2 ^ 64 ∧ successThreshold < 2 ^ 64

def CircuitBreakerConfig.default : CircuitBreakerConfig where
  failureThreshold := 5
  successThreshold := 3
  timeout := .fromSecs 30
  fits := by decide

structure CircuitOpenError where
  state : CircuitState

structure CircuitBreaker where
  name : String
  config : CircuitBreakerConfig
  state : CircuitState
  failureCount : Nat
  successCount : Nat
  lastStateChange : Nat

namespace CircuitBreaker

def withConfig (name : String) (config : CircuitBreakerConfig) (now : Nat) : CircuitBreaker where
  name := name
  config := config
  state := .closed
  failureCount := 0
  successCount := 0
  lastStateChange := now

variable {Value : Type} (breaker : CircuitBreaker)

/-- `execute` up to its operation; with an error if it does not get there. -/
def beginExecute (now : Nat) : Option CircuitOpenError × CircuitBreaker :=
  let breaker :=
    if breaker.state = .open ∧ breaker.config.timeout.nanos ≤ now - breaker.lastStateChange then
      { breaker with
        state := .halfOpen
        successCount := 0
        failureCount := 0
        lastStateChange := now }
    else breaker
  if breaker.state = .open then (some ⟨breaker.state⟩, breaker) else (none, breaker)

/-- `execute` after its operation. -/
def endExecute (result : Except CircuitOpenError Value) (now : Nat) : CircuitBreaker :=
  match result with
  | .ok _ =>
      let counted := { breaker with
        successCount := (breaker.successCount + 1) % 2 ^ 64
        failureCount := 0 }
      if counted.state = .halfOpen ∧ counted.config.successThreshold ≤ counted.successCount then
        { counted with state := .closed, lastStateChange := now }
      else counted
  | .error _ =>
      let counted := { breaker with
        failureCount := (breaker.failureCount + 1) % 2 ^ 64
        successCount := 0 }
      if counted.state = .halfOpen then { counted with state := .open, lastStateChange := now }
      else if counted.state = .closed ∧
          counted.config.failureThreshold ≤ counted.failureCount then
        { counted with state := .open, lastStateChange := now }
      else counted

def execute (operation : Except CircuitOpenError Value) (begun ended : Nat) :
    Except CircuitOpenError Value × CircuitBreaker :=
  match breaker.beginExecute begun with
  | (some error, breaker) => (.error error, breaker)
  | (none, breaker) => (operation, breaker.endExecute operation ended)

def reset (now : Nat) : CircuitBreaker :=
  { breaker with state := .closed, failureCount := 0, successCount := 0, lastStateChange := now }

def forceOpen (now : Nat) : CircuitBreaker :=
  { breaker with state := .open, lastStateChange := now }

end CircuitBreaker

def resultOf {Value : Type} : Except CircuitOpenError Value → CallResult
  | .ok _ => .success
  | .error _ => .failure

/-! ## The automaton -/

/-- A circuit that remembers the results since it entered its state, newest first. -/
inductive Phase where
  | closed (results : List CallResult)
  | «open» (since : Nat)
  | halfOpen (results : List CallResult)

namespace Phase

def failed : CallResult → Bool := (· = .failure)

variable (config : CircuitBreakerConfig)

def state : Phase → CircuitState
  | closed _ => .closed
  | «open» _ => .open
  | halfOpen _ => .halfOpen

/-- Whether an operation may run. -/
def letIn (now : Nat) : Phase → Bool × Phase
  | «open» since =>
      if since + config.timeout.nanos ≤ now then (true, halfOpen []) else (false, «open» since)
  | closed results => (true, closed results)
  | halfOpen results => (true, halfOpen results)

def record (result : CallResult) (now : Nat) : Phase → Phase
  | closed results =>
      if streak failed (result :: results) = config.failureThreshold then «open» now
      else closed (result :: results)
  | «open» since => «open» since
  | halfOpen results =>
      match result with
      | .failure => «open» now
      | .success =>
          if (CallResult.success :: results).count .success = config.successThreshold then
            closed []
          else halfOpen (.success :: results)

def execute (result : CallResult) (begun ended : Nat) (phase : Phase) : Phase :=
  match phase.letIn config begun with
  | (true, admitted) => admitted.record config result ended
  | (false, refused) => refused

end Phase

/-! ## One call after the other -/

inductive CircuitCall (Value : Type) where
  | execute (operation : Except CircuitOpenError Value) (begun ended : Nat)
  | reset (now : Nat)
  | forceOpen (now : Nat)

/-- The breaker beside the automaton. -/
structure SequentialRun where
  breaker : CircuitBreaker
  phase : Phase
  clock : Nat

namespace SequentialRun

variable {Value : Type}

def start (name : String) (config : CircuitBreakerConfig) (now : Nat) : SequentialRun :=
  ⟨.withConfig name config now, .closed [], now⟩

def config (run : SequentialRun) : CircuitBreakerConfig := run.breaker.config

def step (run : SequentialRun) : CircuitCall Value → SequentialRun
  | .execute operation begun ended =>
      { breaker := (run.breaker.execute operation begun ended).2
        phase := run.phase.execute run.config (resultOf operation) begun ended
        clock := ended }
  | .reset now => { breaker := run.breaker.reset now, phase := .closed [], clock := now }
  | .forceOpen now => { breaker := run.breaker.forceOpen now, phase := .open now, clock := now }

/-- The clock never goes back. -/
def InOrder (run : SequentialRun) : CircuitCall Value → Prop
  | .execute _ begun ended => run.clock ≤ begun ∧ begun ≤ ended
  | .reset now | .forceOpen now => run.clock ≤ now

/-- The breaker ends in the state of the automaton, and runs an operation when it does. -/
def Behaves (run : SequentialRun) (call : CircuitCall Value) : Prop :=
  (run.step call).breaker.state = (run.step call).phase.state ∧
    ∀ operation begun ended, call = .execute operation begun ended →
      ((run.breaker.beginExecute begun).1.isNone ↔
        (run.phase.letIn run.config begun).1 = true)

end SequentialRun

/-! ## Calls that overlap -/

inductive CircuitMove (Value : Type) where
  | «begin» (now : Nat)
  | «end» (position : Nat) (result : Except CircuitOpenError Value) (now : Nat)
  | reset (now : Nat)
  | forceOpen (now : Nat)

/-- How often the circuit became half-open before a call was admitted then; none if the call
was admitted while the circuit was closed. -/
abbrev Admission := Option Nat

/-- The breaker, the operations that run, how often the circuit became half-open, and the
operations that have ended since it last did, newest first. -/
structure ConcurrentRun where
  breaker : CircuitBreaker
  running : List Admission
  tests : Nat
  ended : List (Admission × CallResult)

namespace ConcurrentRun

variable {Value : Type}

def start (name : String) (config : CircuitBreakerConfig) (now : Nat) : ConcurrentRun :=
  ⟨.withConfig name config now, [], 0, []⟩

def stored (run : ConcurrentRun) : CircuitState := run.breaker.state

def config (run : ConcurrentRun) : CircuitBreakerConfig := run.breaker.config

/-- What is seen of a call that `execute` lets through. -/
def letIn (run : ConcurrentRun) (next : CircuitBreaker) : ConcurrentRun :=
  if run.stored = .open then
    { breaker := next
      running := run.running ++ [some (run.tests + 1)]
      tests := run.tests + 1
      ended := [] }
  else
    { run with
      breaker := next
      running := run.running ++ [if next.state = .halfOpen then some run.tests else none] }

/-- Only operations that run can end. -/
def step (run : ConcurrentRun) : CircuitMove Value → ConcurrentRun
  | .begin now =>
      match run.breaker.beginExecute now with
      | (some _, next) => { run with breaker := next }
      | (none, next) => run.letIn next
  | .end position result now =>
      match run.running[position]? with
      | none => run
      | some admission =>
          { run with
            breaker := run.breaker.endExecute result now
            running := run.running.eraseIdx position
            ended := (admission, resultOf result) :: run.ended }
  | .reset now => { run with breaker := run.breaker.reset now }
  | .forceOpen now => { run with breaker := run.breaker.forceOpen now }

/-- Admitted while the circuit was half-open, now or at an earlier time. -/
def whileHalfOpen (_ : Nat) (admission : Admission) : Bool := admission.isSome

/-- Admitted since the circuit last became half-open. -/
def inThisTest (tests : Nat) (admission : Admission) : Bool := admission = some tests

variable (admitted : Nat → Admission → Bool)

/-- A success of an operation that was admitted in that way. -/
def isTest (run : ConcurrentRun) (entry : Admission × CallResult) : Bool :=
  admitted run.tests entry.1 && entry.2 = .success

/-- The circuit closes, unless by a reset, only after the threshold of such successes. -/
def ClosesAfterTests (run : ConcurrentRun) (move : CircuitMove Value) : Prop :=
  ∀ position result now, move = .end position result now → run.stored = .halfOpen →
    (run.step move).stored = .closed →
      run.config.successThreshold ≤ (run.step move).ended.countP (run.isTest admitted)

def succeeded (entry : Admission × CallResult) : Bool := entry.2 = .success

/-- The success that completes the threshold since the circuit became half-open, and all those
that it counts with, come from operations that were admitted in that way. -/
def NoStaleSuccess (run : ConcurrentRun) (move : CircuitMove Value) : Prop :=
  ∀ position value now admission, move = .end position (.ok value) now →
    run.running[position]? = some admission → run.stored = .halfOpen →
    run.ended.countP succeeded + 1 = run.config.successThreshold →
      ∀ entry ∈ (admission, CallResult.success) :: run.ended, succeeded entry →
        admitted run.tests entry.1

end ConcurrentRun

/-! ## What a phase of a call does -/

namespace CircuitBreaker

variable {Value : Type} {breaker : CircuitBreaker} (now : Nat)

/-- The breaker when it starts to test its operations. -/
def test (breaker : CircuitBreaker) (now : Nat) : CircuitBreaker :=
  { breaker with
    state := .halfOpen
    successCount := 0
    failureCount := 0
    lastStateChange := now }

theorem begin_execute_not_open (notOpen : breaker.state ≠ .open) :
    breaker.beginExecute now = (none, breaker) := by
  simp [beginExecute, notOpen]

theorem begin_execute_waiting (isOpen : breaker.state = .open)
    (early : now - breaker.lastStateChange < breaker.config.timeout.nanos) :
    breaker.beginExecute now = (some ⟨.open⟩, breaker) := by
  simp [beginExecute, isOpen, Nat.not_le.mpr early]

theorem begin_execute_elapsed (isOpen : breaker.state = .open)
    (elapsed : breaker.config.timeout.nanos ≤ now - breaker.lastStateChange) :
    breaker.beginExecute now = (none, breaker.test now) := by
  simp [beginExecute, isOpen, elapsed, test]

theorem end_execute_config (result : Except CircuitOpenError Value) :
    (breaker.endExecute result now).config = breaker.config := by
  cases result with
  | ok value =>
      unfold endExecute
      dsimp only
      split_ifs <;> rfl
  | error error =>
      unfold endExecute
      dsimp only
      split_ifs <;> rfl

variable (breaker) in
theorem begin_execute_config : (breaker.beginExecute now).2.config = breaker.config := by
  unfold beginExecute
  dsimp only
  split_ifs <;> rfl

variable {result : Except CircuitOpenError Value}

/-- In a half-open circuit, below the threshold, a success counts once. -/
theorem end_success_half_open (succeeds : resultOf result = .success)
    (isHalfOpen : breaker.state = .halfOpen)
    (few : breaker.successCount < breaker.config.successThreshold) :
    breaker.endExecute result now =
      if breaker.successCount + 1 = breaker.config.successThreshold then
        { breaker with
          state := .closed
          successCount := breaker.successCount + 1
          failureCount := 0
          lastStateChange := now }
      else { breaker with successCount := breaker.successCount + 1, failureCount := 0 } := by
  have small := breaker.config.fits.2
  have next : (breaker.successCount + 1) % 2 ^ 64 = breaker.successCount + 1 :=
    Nat.mod_eq_of_lt (by omega)
  have reached : breaker.config.successThreshold ≤ breaker.successCount + 1 ↔
      breaker.successCount + 1 = breaker.config.successThreshold := by omega
  cases result with
  | ok value => simp only [endExecute, next, isHalfOpen, reached, true_and]
  | error error => cases succeeds

theorem end_success_not_half_open (succeeds : resultOf result = .success)
    (notHalfOpen : breaker.state ≠ .halfOpen) :
    breaker.endExecute result now = { breaker with
      successCount := (breaker.successCount + 1) % 2 ^ 64
      failureCount := 0 } := by
  cases result with
  | ok value => simp only [endExecute, notHalfOpen, false_and, if_false]
  | error error => cases succeeds

theorem end_failure_half_open (fails : resultOf result = .failure)
    (isHalfOpen : breaker.state = .halfOpen) :
    breaker.endExecute result now = { breaker with
      state := .open
      failureCount := (breaker.failureCount + 1) % 2 ^ 64
      successCount := 0
      lastStateChange := now } := by
  cases result with
  | ok value => cases fails
  | error error => simp only [endExecute, isHalfOpen, if_true]

/-- In a closed circuit, below the threshold, a failure counts once. -/
theorem end_failure_closed (fails : resultOf result = .failure)
    (isClosed : breaker.state = .closed)
    (few : breaker.failureCount < breaker.config.failureThreshold) :
    breaker.endExecute result now =
      if breaker.failureCount + 1 = breaker.config.failureThreshold then
        { breaker with
          state := .open
          failureCount := breaker.failureCount + 1
          successCount := 0
          lastStateChange := now }
      else { breaker with failureCount := breaker.failureCount + 1, successCount := 0 } := by
  have small := breaker.config.fits.1
  have next : (breaker.failureCount + 1) % 2 ^ 64 = breaker.failureCount + 1 :=
    Nat.mod_eq_of_lt (by omega)
  have reached : breaker.config.failureThreshold ≤ breaker.failureCount + 1 ↔
      breaker.failureCount + 1 = breaker.config.failureThreshold := by omega
  cases result with
  | ok value => cases fails
  | error error => simp [endExecute, next, isClosed, reached, -Nat.reducePow]

theorem end_failure_leaves (fails : resultOf result = .failure) :
    (breaker.endExecute result now).state ≠ .halfOpen := by
  cases result with
  | ok value => cases fails
  | error error =>
      unfold endExecute
      dsimp only
      split_ifs with isHalfOpen reached
      · intro isHalf
        cases isHalf
      · intro isHalf
        cases isHalf
      · exact isHalfOpen

variable (result) in
/-- The state and its time stay as they are in an open circuit. -/
theorem end_execute_open (isOpen : breaker.state = .open) :
    (breaker.endExecute result now).state = .open ∧
      (breaker.endExecute result now).lastStateChange = breaker.lastStateChange := by
  cases result with
  | ok value => simp [endExecute, isOpen]
  | error error => simp [endExecute, isOpen]

end CircuitBreaker

theorem result_of_cases {Value : Type} (result : Except CircuitOpenError Value) :
    resultOf result = .success ∨ resultOf result = .failure := by
  cases result with
  | ok value => exact Or.inl rfl
  | error error => exact Or.inr rfl

/-! ## The breaker follows the automaton -/

/-- The counter of the state counts what the automaton remembers. -/
def Represents (breaker : CircuitBreaker) : Phase → Prop
  | .closed results => breaker.state = .closed ∧
      breaker.failureCount = streak Phase.failed results ∧
      breaker.failureCount < breaker.config.failureThreshold
  | .open since => breaker.state = .open ∧ breaker.lastStateChange = since
  | .halfOpen results => breaker.state = .halfOpen ∧
      breaker.successCount = results.count .success ∧
      breaker.successCount < breaker.config.successThreshold

section Simulation

variable {Value : Type} {breaker : CircuitBreaker} {phase : Phase} {now : Nat}

theorem represents_state (related : Represents breaker phase) : breaker.state = phase.state := by
  cases phase with
  | closed results => exact related.1
  | «open» since => exact related.1
  | halfOpen results => exact related.1

theorem represents_let_in (successes : 0 < breaker.config.successThreshold)
    (related : Represents breaker phase) (past : ∀ since, phase = .open since → since ≤ now) :
    ((breaker.beginExecute now).1.isNone ↔ (phase.letIn breaker.config now).1 = true) ∧
      Represents (breaker.beginExecute now).2 (phase.letIn breaker.config now).2 := by
  cases phase with
  | closed results =>
      rw [CircuitBreaker.begin_execute_not_open now (by simp [related.1])]
      exact ⟨by simp [Phase.letIn], related⟩
  | halfOpen results =>
      rw [CircuitBreaker.begin_execute_not_open now (by simp [related.1])]
      exact ⟨by simp [Phase.letIn], related⟩
  | «open» since =>
      obtain ⟨isOpen, lastChange⟩ := related
      have inTime := past since rfl
      by_cases elapsed : breaker.config.timeout.nanos ≤ now - breaker.lastStateChange
      · have waited : since + breaker.config.timeout.nanos ≤ now := by omega
        rw [CircuitBreaker.begin_execute_elapsed now isOpen elapsed]
        simp only [Phase.letIn, if_pos waited]
        exact ⟨by simp, rfl, rfl, successes⟩
      · have early : ¬since + breaker.config.timeout.nanos ≤ now := by omega
        rw [CircuitBreaker.begin_execute_waiting now isOpen (Nat.lt_of_not_le elapsed)]
        simp only [Phase.letIn, if_neg early]
        exact ⟨by simp, isOpen, lastChange⟩

theorem represents_record (failures : 0 < breaker.config.failureThreshold)
    (related : Represents breaker phase) (result : Except CircuitOpenError Value) :
    Represents (breaker.endExecute result now)
      (phase.record breaker.config (resultOf result) now) := by
  cases phase with
  | «open» since =>
      obtain ⟨isOpen, lastChange⟩ := related
      obtain ⟨stays, sameChange⟩ := CircuitBreaker.end_execute_open now result isOpen
      exact ⟨stays, sameChange.trans lastChange⟩
  | closed results =>
      obtain ⟨isClosed, counts, few⟩ := related
      rcases result_of_cases result with succeeds | fails
      · have broken : streak Phase.failed (.success :: results) = 0 :=
          streak_cons_of_breaks results (by decide)
        rw [CircuitBreaker.end_success_not_half_open now succeeds (by simp [isClosed]), succeeds]
        simp only [Phase.record, broken, if_neg (Nat.ne_of_lt failures)]
        exact ⟨isClosed, broken.symm, failures⟩
      · have longer : streak Phase.failed (.failure :: results) = breaker.failureCount + 1 := by
          rw [streak_cons_of_counts results (by decide), counts]
        rw [CircuitBreaker.end_failure_closed now fails isClosed few, fails]
        simp only [Phase.record, longer]
        split_ifs with reached
        · exact ⟨rfl, rfl⟩
        · exact ⟨isClosed, longer.symm, Nat.lt_of_le_of_ne few reached⟩
  | halfOpen results =>
      obtain ⟨isHalfOpen, counts, few⟩ := related
      rcases result_of_cases result with succeeds | fails
      · have more : (CallResult.success :: results).count .success = breaker.successCount + 1 := by
          rw [List.count_cons_self, counts]
        rw [CircuitBreaker.end_success_half_open now succeeds isHalfOpen few, succeeds]
        simp only [Phase.record, more]
        split_ifs with reached
        · exact ⟨rfl, rfl, failures⟩
        · exact ⟨isHalfOpen, more.symm, Nat.lt_of_le_of_ne few reached⟩
      · rw [CircuitBreaker.end_failure_half_open now fails isHalfOpen, fails]
        exact ⟨rfl, rfl⟩

theorem represents_execute (failures : 0 < breaker.config.failureThreshold)
    (successes : 0 < breaker.config.successThreshold) (related : Represents breaker phase)
    {begun : Nat} (past : ∀ since, phase = .open since → since ≤ begun)
    (operation : Except CircuitOpenError Value) (ended : Nat) :
    Represents (breaker.execute operation begun ended).2
      (phase.execute breaker.config (resultOf operation) begun ended) := by
  obtain ⟨runs, admitted⟩ := represents_let_in successes related past
  have sameConfig := CircuitBreaker.begin_execute_config breaker begun
  unfold CircuitBreaker.execute Phase.execute
  generalize breaker.beginExecute begun = began at *
  generalize phase.letIn breaker.config begun = answer at *
  obtain ⟨refusal, next⟩ := began
  obtain ⟨allowed, entered⟩ := answer
  cases refusal with
  | none =>
      have isAllowed : allowed = true := runs.mp rfl
      subst isAllowed
      rw [← sameConfig] at failures ⊢
      exact represents_record failures admitted operation
  | some error =>
      have isRefused : allowed = false := by
        rw [← Bool.not_eq_true, ← runs]
        simp
      subst isRefused
      exact admitted

end Simulation

namespace SequentialRun

variable {Value : Type} {run : SequentialRun} {call : CircuitCall Value}

/-- What holds between the calls. -/
structure Follows (config : CircuitBreakerConfig) (run : SequentialRun) : Prop where
  config : run.config = config
  represents : Represents run.breaker run.phase
  past : ∀ since, run.phase = .open since → since ≤ run.clock

theorem follows_start (name : String) {config : CircuitBreakerConfig} (now : Nat)
    (failures : 0 < config.failureThreshold) : Follows config (start name config now) := by
  refine ⟨rfl, ⟨rfl, rfl, failures⟩, ?_⟩
  intro since isOpen
  cases isOpen

theorem let_in_past (config : CircuitBreakerConfig) {phase : Phase} {clock now : Nat}
    (past : ∀ since, phase = .open since → since ≤ clock) (later : clock ≤ now) :
    ∀ since, (phase.letIn config now).2 = .open since → since ≤ now := by
  intro since isOpen
  cases phase with
  | closed results => cases isOpen
  | halfOpen results => cases isOpen
  | «open» opened =>
      have earlier := past opened rfl
      simp only [Phase.letIn] at isOpen
      split_ifs at isOpen
      cases isOpen
      omega

theorem record_past {config : CircuitBreakerConfig} {phase : Phase} {result : CallResult}
    {begun ended : Nat} (past : ∀ since, phase = .open since → since ≤ begun)
    (later : begun ≤ ended) :
    ∀ since, phase.record config result ended = .open since → since ≤ ended := by
  intro since isOpen
  cases phase with
  | «open» opened =>
      cases isOpen
      exact (past since rfl).trans later
  | closed results =>
      simp only [Phase.record] at isOpen
      split_ifs at isOpen
      cases isOpen
      exact Nat.le_refl _
  | halfOpen results =>
      cases result with
      | failure =>
          cases isOpen
          exact Nat.le_refl _
      | success =>
          simp only [Phase.record] at isOpen
          split_ifs at isOpen

theorem execute_past {config : CircuitBreakerConfig} {phase : Phase} {result : CallResult}
    {begun ended : Nat} (past : ∀ since, phase = .open since → since ≤ begun)
    (later : begun ≤ ended) :
    ∀ since, phase.execute config result begun ended = .open since → since ≤ ended := by
  have admitted := let_in_past config past (Nat.le_refl begun)
  unfold Phase.execute
  generalize phase.letIn config begun = answer at *
  obtain ⟨allowed, entered⟩ := answer
  cases allowed with
  | true => exact record_past admitted later
  | false => exact fun since isOpen => (admitted since isOpen).trans later

theorem execute_config (breaker : CircuitBreaker) (operation : Except CircuitOpenError Value)
    (begun ended : Nat) : (breaker.execute operation begun ended).2.config = breaker.config := by
  have sameConfig := CircuitBreaker.begin_execute_config breaker begun
  unfold CircuitBreaker.execute
  generalize breaker.beginExecute begun = began at *
  obtain ⟨refusal, next⟩ := began
  cases refusal with
  | none => exact (CircuitBreaker.end_execute_config ended operation).trans sameConfig
  | some error => exact sameConfig

theorem follows_step {config : CircuitBreakerConfig} (failures : 0 < config.failureThreshold)
    (successes : 0 < config.successThreshold) (follows : Follows config run)
    (inOrder : run.InOrder call) : Follows config (run.step call) ∧ run.Behaves call := by
  obtain ⟨sameConfig, represents, past⟩ := follows
  cases call with
  | reset now =>
      refine ⟨⟨sameConfig, ⟨rfl, rfl, ?_⟩, ?_⟩, rfl, ?_⟩
      · simpa [step, CircuitBreaker.reset, ← sameConfig, SequentialRun.config] using failures
      · intro since isOpen
        cases isOpen
      · intro operation begun ended isExecute
        cases isExecute
  | forceOpen now =>
      refine ⟨⟨sameConfig, ⟨rfl, rfl⟩, ?_⟩, rfl, ?_⟩
      · intro since isOpen
        cases isOpen
        exact Nat.le_refl _
      · intro operation begun ended isExecute
        cases isExecute
  | execute operation begun ended =>
      obtain ⟨afterLast, afterBegin⟩ := inOrder
      have begunPast : ∀ since, run.phase = .open since → since ≤ begun :=
        fun since isOpen => (past since isOpen).trans afterLast
      have enough : 0 < run.breaker.config.failureThreshold := by rwa [← sameConfig] at failures
      have tested : 0 < run.breaker.config.successThreshold := by rwa [← sameConfig] at successes
      have represented :=
        represents_execute enough tested represents begunPast operation ended
      refine ⟨⟨?_, represented, ?_⟩, represents_state represented, ?_⟩
      · exact (execute_config run.breaker operation begun ended).trans sameConfig
      · exact execute_past begunPast afterBegin
      · rintro _ _ _ ⟨⟩
        exact (represents_let_in tested represents begunPast).1

end SequentialRun

/-! ## Results of other phases -/

namespace ConcurrentRun

variable {Value : Type} {run : ConcurrentRun} {move : CircuitMove Value}

/-- A half-open circuit counts the successes that have ended in it. -/
structure Tested (config : CircuitBreakerConfig) (run : ConcurrentRun) : Prop where
  sameConfig : run.config = config
  counts : run.stored = .halfOpen → run.breaker.successCount = run.ended.countP succeeded ∧
    run.breaker.successCount < config.successThreshold

variable {config : CircuitBreakerConfig}

theorem tested_start (name : String) (config : CircuitBreakerConfig) (now : Nat) :
    Tested config (start name config now) := by
  refine ⟨rfl, ?_⟩
  intro isHalfOpen
  cases isHalfOpen

theorem tested_begin (successes : 0 < config.successThreshold) (tested : Tested config run)
    (now : Nat) : Tested config (run.step (.begin now : CircuitMove Value)) := by
  by_cases isOpen : run.stored = .open
  · by_cases elapsed :
        run.breaker.config.timeout.nanos ≤ now - run.breaker.lastStateChange
    · simp only [step, CircuitBreaker.begin_execute_elapsed now isOpen elapsed, letIn, isOpen,
        if_true]
      exact ⟨tested.sameConfig, fun _ => ⟨rfl, successes⟩⟩
    · simp only [step, CircuitBreaker.begin_execute_waiting now isOpen (Nat.lt_of_not_le elapsed)]
      exact tested
  · simp only [step, CircuitBreaker.begin_execute_not_open now isOpen, letIn, isOpen, if_false]
    exact ⟨tested.sameConfig, tested.counts⟩

theorem step_end {position : Nat} {admission : Admission}
    (runs : run.running[position]? = some admission) (result : Except CircuitOpenError Value)
    (now : Nat) :
    run.step (.end position result now) = { run with
      breaker := run.breaker.endExecute result now
      running := run.running.eraseIdx position
      ended := (admission, resultOf result) :: run.ended } := by
  simp only [step, runs]

/-- A success in a half-open circuit is one more, and closes it with the last of the
threshold. -/
theorem success_half_open (tested : Tested config run) (isHalfOpen : run.stored = .halfOpen)
    {result : Except CircuitOpenError Value} (succeeds : resultOf result = .success)
    (now : Nat) :
    run.breaker.endExecute result now =
      if run.ended.countP succeeded + 1 = config.successThreshold then
        { run.breaker with
          state := .closed
          successCount := run.ended.countP succeeded + 1
          failureCount := 0
          lastStateChange := now }
      else { run.breaker with
        successCount := run.ended.countP succeeded + 1
        failureCount := 0 } := by
  obtain ⟨counts, few⟩ := tested.counts isHalfOpen
  have sameConfig : run.breaker.config = config := tested.sameConfig
  rw [← sameConfig] at few ⊢
  rw [CircuitBreaker.end_success_half_open now succeeds isHalfOpen few, counts]

theorem tested_end (tested : Tested config run) (position : Nat)
    (result : Except CircuitOpenError Value) (now : Nat) :
    Tested config (run.step (.end position result now)) := by
  cases runs : run.running[position]? with
  | none =>
      simp only [step, runs]
      exact tested
  | some admission =>
      rw [step_end runs]
      refine ⟨(CircuitBreaker.end_execute_config now result).trans tested.sameConfig, ?_⟩
      intro isHalfOpen
      simp only [stored] at isHalfOpen
      rcases result_of_cases result with succeeds | fails
      · by_cases was : run.stored = .halfOpen
        · obtain ⟨counts, few⟩ := tested.counts was
          rw [success_half_open tested was succeeds] at isHalfOpen ⊢
          split_ifs at isHalfOpen ⊢ with reached
          have below : run.ended.countP succeeded < config.successThreshold := counts ▸ few
          exact ⟨by simp [succeeded, succeeds], Nat.lt_of_le_of_ne below reached⟩
        · rw [CircuitBreaker.end_success_not_half_open now succeeds was] at isHalfOpen
          exact absurd isHalfOpen was
      · exact absurd isHalfOpen (CircuitBreaker.end_failure_leaves now fails)

theorem tested_step (successes : 0 < config.successThreshold) (tested : Tested config run)
    (move : CircuitMove Value) : Tested config (run.step move) := by
  cases move with
  | «begin» now => exact tested_begin successes tested now
  | «end» position result now => exact tested_end tested position result now
  | reset now =>
      refine ⟨tested.sameConfig, ?_⟩
      intro isHalfOpen
      cases isHalfOpen
  | forceOpen now =>
      refine ⟨tested.sameConfig, ?_⟩
      intro isHalfOpen
      cases isHalfOpen

variable (admitted : Nat → Admission → Bool)

theorem end_closes_after_tests_iff (tested : Tested config run)
    (isHalfOpen : run.stored = .halfOpen) {position : Nat} {admission : Admission}
    (runs : run.running[position]? = some admission) {result : Except CircuitOpenError Value}
    (succeeds : resultOf result = .success) (now : Nat) :
    ((run.step (.end position result now)).stored = .closed →
      run.config.successThreshold ≤
        (run.step (.end position result now)).ended.countP (run.isTest admitted)) ↔
    (run.ended.countP succeeded + 1 = run.config.successThreshold →
      ∀ entry ∈ (admission, CallResult.success) :: run.ended, succeeded entry →
        admitted run.tests entry.1) := by
  have counts : ((admission, CallResult.success) :: run.ended).countP succeeded =
      run.ended.countP succeeded + 1 := List.countP_cons_of_pos rfl
  have closes : (run.step (.end position result now)).stored = .closed ↔
      run.ended.countP succeeded + 1 = run.config.successThreshold := by
    rw [step_end runs, stored, tested.sameConfig]
    rw [success_half_open tested isHalfOpen succeeds]
    split_ifs with reached
    · exact iff_of_true rfl reached
    · refine iff_of_false ?_ reached
      intro closed
      exact absurd (isHalfOpen.symm.trans closed) (by decide)
  rw [closes, step_end runs, succeeds]
  refine imp_congr_right fun reached => ?_
  rw [← reached, ← counts]
  exact countP_le_countP_and_iff succeeded _ _

theorem closes_after_tests_iff (tested : Tested config run) :
    run.ClosesAfterTests admitted move ↔ run.NoStaleSuccess admitted move := by
  constructor
  · intro closes position value now admission isEnd runs isHalfOpen
    subst isEnd
    exact (end_closes_after_tests_iff admitted tested isHalfOpen runs rfl now).mp
      (closes position (.ok value) now rfl isHalfOpen)
  · intro fresh position result now isEnd isHalfOpen closed
    subst isEnd
    cases runs : run.running[position]? with
    | none =>
        have stays : run.step (.end position result now) = run := by simp only [step, runs]
        rw [stays, isHalfOpen] at closed
        cases closed
    | some admission =>
        cases result with
        | ok value =>
            have tests := fresh position value now admission rfl runs isHalfOpen
            exact (end_closes_after_tests_iff admitted tested isHalfOpen runs rfl now).mpr
              tests closed
        | error error =>
            rw [step_end runs, stored,
              CircuitBreaker.end_failure_half_open now rfl isHalfOpen] at closed
            cases closed

/-- With overlapping calls the circuit closes by tests exactly when no stale success counts. -/
theorem each_closes_iff (name : String) {config : CircuitBreakerConfig}
    (successes : 0 < config.successThreshold) (now : Nat) (moves : List (CircuitMove Value)) :
    EachMove step (ClosesAfterTests admitted) (start name config now) moves ↔
      EachMove step (NoStaleSuccess admitted) (start name config now) moves :=
  each_move_congr_within step (Tested config)
    (fun _ _ tested => closes_after_tests_iff admitted tested)
    (fun _ move tested _ => tested_step successes tested move) moves _
    (tested_start name config now)

end ConcurrentRun

/-- One call after the other the breaker is the automaton. When calls overlap, it closes after
as many successes of operations admitted while half-open as the threshold asks for exactly when
no other success is among those that close it. -/
theorem circuit_behaves_and_closes_by_tests {Value : Type} (name : String)
    (config : CircuitBreakerConfig) (now : Nat) (failures : 0 < config.failureThreshold)
    (successes : 0 < config.successThreshold) :
    (∀ calls : List (CircuitCall Value),
      EachMove SequentialRun.step SequentialRun.InOrder (.start name config now) calls →
        EachMove SequentialRun.step SequentialRun.Behaves (.start name config now) calls) ∧
    ∀ moves : List (CircuitMove Value),
      (EachMove ConcurrentRun.step (ConcurrentRun.ClosesAfterTests ConcurrentRun.whileHalfOpen)
          (.start name config now) moves ↔
        EachMove ConcurrentRun.step (ConcurrentRun.NoStaleSuccess ConcurrentRun.whileHalfOpen)
          (.start name config now) moves) ∧
      (EachMove ConcurrentRun.step (ConcurrentRun.ClosesAfterTests ConcurrentRun.inThisTest)
          (.start name config now) moves ↔
        EachMove ConcurrentRun.step (ConcurrentRun.NoStaleSuccess ConcurrentRun.inThisTest)
          (.start name config now) moves) := by
  refine ⟨?_, fun moves => ⟨?_, ?_⟩⟩
  · intro calls inOrder
    have follows : ∀ (run : SequentialRun) (call : CircuitCall Value),
        SequentialRun.Follows config run → run.InOrder call →
          SequentialRun.Follows config (run.step call) ∧ run.Behaves call :=
      fun _ _ follows inOrder => SequentialRun.follows_step failures successes follows inOrder
    exact (always_within SequentialRun.step (SequentialRun.Follows config)
      (fun run call known inOrder => (follows run call known inOrder).1)
      (fun run call known inOrder => (follows run call known inOrder).2) calls _
      (SequentialRun.follows_start name now failures) inOrder).2
  · exact ConcurrentRun.each_closes_iff _ name successes now moves
  · exact ConcurrentRun.each_closes_iff _ name successes now moves

/-- One failure opens, one success closes, and the timeout is one second. -/
def oneAndOne : CircuitBreakerConfig where
  failureThreshold := 1
  successThreshold := 1
  timeout := .fromSecs 1
  fits := by decide

theorem circuit_behaves_in_recovery :
    EachMove SequentialRun.step SequentialRun.Behaves (.start "" oneAndOne 0)
      [.execute (.error ⟨.open⟩) 1 2, .execute (.ok ()) 3 4,
        .execute (.ok ()) 1000000002 1000000003] :=
  (circuit_behaves_and_closes_by_tests "" oneAndOne 0 (by decide) (by decide)).1 _
    ⟨⟨by decide, by decide⟩, ⟨by decide, by decide⟩, ⟨by decide, by decide⟩, trivial⟩

/-- Two operations start; one fails and opens the circuit, and the other one succeeds when the
circuit has become half-open for a third. -/
def staleSuccess : List (CircuitMove Unit) :=
  [.begin 0, .begin 0, .end 1 (.error ⟨.open⟩) 1, .begin 1000000001, .end 0 (.ok ()) 1000000002]

theorem stale_success_closes :
    ¬EachMove ConcurrentRun.step (ConcurrentRun.ClosesAfterTests ConcurrentRun.whileHalfOpen)
      (.start "" oneAndOne 0) staleSuccess := by
  rintro ⟨_, _, _, _, closes, _⟩
  have enough := closes 0 (.ok ()) 1000000002 rfl rfl rfl
  exact absurd enough (by decide)

end HodeiJobs.Resilience
