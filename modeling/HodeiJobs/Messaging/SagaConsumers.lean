import HodeiJobs.Sagas.CircuitBreaker

/-!
# The loop of the saga consumers

`start` of the execution, the cleanup and the cancellation saga consumer. Each message is checked
against the circuit breaker and then executed under it, so that what becomes of it is recorded
twice. A message that finds the circuit open is one more failure; like one that has failed, it is
acknowledged and not delivered again. The clock of the breaker shows whole milliseconds.
-/

namespace HodeiJobs.Messaging

open HodeiJobs.Library
open HodeiJobs.Sagas

/-- What the three configurations say about the circuit breaker. -/
structure SagaConsumerConfig where
  failureThreshold : Nat
  openDuration : Duration
  successThreshold : Nat
  fits : failureThreshold < 2 ^ 64 ∧ successThreshold < 2 ^ 64

def SagaConsumerConfig.circuitBreaker (config : SagaConsumerConfig) : CircuitBreakerConfig where
  failureThreshold := config.failureThreshold
  openDuration := config.openDuration
  successThreshold := config.successThreshold
  failureRateThreshold := 50
  failureRateWindow := 100
  fits := config.fits

/-- How the processing of a message ends under the time limit of a call. -/
inductive Processed where
  | done
  | failed
  | timedOut
  deriving DecidableEq

/-- The call on the breaker that records it. -/
def Processed.record (processed : Processed) (now : Nat) : CircuitCall :=
  match processed with
  | .done => .recordSuccess now
  | .failed | .timedOut => .recordFailure now

structure SagaConsumer (World Payload : Type) where
  config : SagaConsumerConfig
  processMessage : Payload → World → Processed × World

/-- When the breaker is asked, when `execute` asks it again and records, and when the loop does. -/
structure Times where
  checked : Nat
  entered : Nat
  ended : Nat
  recorded : Nat

/-- `acked` tells whether the server takes the acknowledgement, if it is sent. -/
inductive Delivery (Payload : Type) where
  | message (payload : Payload) (times : Times) (acked : Bool)
  | receiveError (now : Nat)

/-- `shutdown` tells that the receiver of the signal is not empty, if there is one. -/
structure Arrival (Payload : Type) where
  shutdown : Bool
  now : Nat
  delivery : Delivery Payload

inductive Phase where
  | running
  | draining (deadline : Nat)
  | stopped
  deriving DecidableEq

/-- `acknowledged` are the messages whose acknowledgement was taken. -/
structure ConsumerRun (World Payload : Type) where
  breaker : CircuitBreaker
  world : World
  phase : Phase
  acknowledged : List Payload

/-- A message that was processed. -/
structure SagaConsumer.Attempt where
  checked : Nat
  ended : Nat
  processed : Processed
  deriving DecidableEq

namespace ConsumerRun

variable {World Payload : Type} (run : ConsumerRun World Payload)

def call (call : CircuitCall) : ConsumerRun World Payload :=
  { run with breaker := run.breaker.after call }

/-- `message.ack()`; a refusal is only logged. -/
def ack (payload : Payload) (acked : Bool) : ConsumerRun World Payload :=
  { run with acknowledged := run.acknowledged ++ if acked then [payload] else [] }

end ConsumerRun

/-- The check for the signal, and for the end of the drain. -/
def Phase.next (phase : Phase) (shutdown : Bool) (now : Nat) : Phase :=
  match phase with
  | .running => if shutdown then .draining (now + 10000) else .running
  | .draining deadline => if deadline ≤ now then .stopped else .draining deadline
  | .stopped => .stopped

/-- The clock does not go back between the two records, and fits its 64 bits. -/
def Arrival.InTime {Payload : Type} (arrival : Arrival Payload) : Prop :=
  match arrival.delivery with
  | .message _ times _ => times.ended ≤ times.recorded ∧ times.recorded < 2 ^ 64
  | .receiveError _ => True

/-- The message that the arrival brings, if its acknowledgement is taken. -/
def Arrival.acked {Payload : Type} (arrival : Arrival Payload) : Option Payload :=
  match arrival.delivery with
  | .message payload _ acked => if acked then some payload else none
  | .receiveError _ => none

namespace SagaConsumer

variable {World Payload : Type} (consumer : SagaConsumer World Payload)

def start (world : World) : ConsumerRun World Payload :=
  ⟨.new consumer.config.circuitBreaker, world, .running, []⟩

/-- `execute` with the processing of the message, which it may refuse. -/
def execute (payload : Payload) (times : Times) (run : ConsumerRun World Payload) :
    Option Processed × ConsumerRun World Payload :=
  let read := run.call (.allowRequest times.entered)
  if (run.breaker.allowRequest times.entered).1 then
    let (processed, world) := consumer.processMessage payload run.world
    (some processed, { read with world }.call (processed.record times.ended))
  else (none, read)

def onMessage (payload : Payload) (times : Times) (run : ConsumerRun World Payload) :
    Option Processed × ConsumerRun World Payload :=
  let read := run.call (.allowRequest times.checked)
  if (run.breaker.allowRequest times.checked).1 then
    match consumer.execute payload times read with
    | (some processed, after) => (some processed, after.call (processed.record times.recorded))
    | (none, after) => (none, after.call (.recordFailure times.recorded))
  else (none, read.call (.recordFailure times.recorded))

/-- One turn of the loop, with the attempt that it makes. -/
def turn (run : ConsumerRun World Payload) (arrival : Arrival Payload) :
    Option Attempt × ConsumerRun World Payload :=
  match run.phase.next arrival.shutdown arrival.now, arrival.delivery with
  | .running, .message payload times acked =>
      let (processed, after) := consumer.onMessage payload times run
      (processed.map (⟨times.checked, times.ended, ·⟩), after.ack payload acked)
  | .running, .receiveError now => (none, run.call (.recordFailure now))
  | .draining deadline, .message payload _ acked =>
      (none, { run.ack payload acked with phase := .draining deadline })
  | .draining _, .receiveError _ | .stopped, _ => (none, { run with phase := .stopped })

def step (run : ConsumerRun World Payload) (arrival : Arrival Payload) :
    ConsumerRun World Payload :=
  (consumer.turn run arrival).2

def attempts : ConsumerRun World Payload → List (Arrival Payload) → List Attempt
  | _, [] => []
  | run, arrival :: rest =>
      (consumer.turn run arrival).1.toList ++ attempts (consumer.step run arrival) rest

/-! ## What a turn does -/

/-- Every way in which a turn can leave the breaker. -/
inductive Turned (breaker : CircuitBreaker) :
    Delivery Payload → Option Attempt → CircuitBreaker → Prop where
  | quiet (delivery : Delivery Payload) : Turned breaker delivery none breaker
  | receiveError (now : Nat) :
      Turned breaker (.receiveError now) none (breaker.after (.recordFailure now))
  | skipped (payload : Payload) (times : Times) (acked : Bool)
      (refuses : (breaker.allowRequest times.checked).1 = false) :
      Turned breaker (.message payload times acked) none
        ((breaker.after (.allowRequest times.checked)).after (.recordFailure times.recorded))
  | processed (payload : Payload) (times : Times) (acked : Bool) (processed : Processed)
      (lets : (breaker.allowRequest times.checked).1 = true) :
      Turned breaker (.message payload times acked)
        (some ⟨times.checked, times.ended, processed⟩)
        ((((breaker.after (.allowRequest times.checked)).after (.allowRequest times.entered)).after
          (processed.record times.ended)).after (processed.record times.recorded))

/-- A closed circuit has counted fewer failures than open it. -/
def Below (breaker : CircuitBreaker) : Prop :=
  breaker.inner.state = .closed →
    breaker.inner.consecutiveFailures < breaker.config.failureThreshold

section Breaker

variable {consumer}

theorem below_after {breaker : CircuitBreaker} (failures : 0 < breaker.config.failureThreshold)
    (below : Below breaker) (call : CircuitCall) :
    Below (breaker.after call) ∧ (breaker.after call).config = breaker.config := by
  have moves := CircuitBreaker.moves_after breaker call
  generalize breaker.after call = next at *
  cases moves with
  | reads => exact ⟨below, rfl⟩
  | succeeds | closes => exact ⟨fun _ => failures, rfl⟩
  | fails _ _ calm => exact ⟨fun _ => Nat.lt_of_not_le fun many => calm (.inl many), rfl⟩
  | tests | trips | testFails => exact ⟨fun closed => CircuitState.noConfusion closed, rfl⟩
  | testSucceeds _ other | ignoresSuccess _ other | ignoresFailure _ other =>
      exact ⟨fun closed => CircuitState.noConfusion (other.symm.trans closed), rfl⟩

theorem allow_shut {breaker : CircuitBreaker} (shut : breaker.inner.state ≠ .open) (now : Nat) :
    breaker.allowRequest now = (true, breaker) := by
  unfold CircuitBreaker.allowRequest CircuitBreaker.state
  cases stored : breaker.inner.state with
  | closed | halfOpen => rfl
  | «open» => exact absurd stored shut

/-- An open circuit lets nothing through, or is tested once its time is over. -/
theorem allow_open {breaker : CircuitBreaker} (isOpen : breaker.inner.state = .open) (now : Nat) :
    breaker.allowRequest now = (false, breaker) ∨
      (breaker.config.openDuration.nanos ≤ (now - breaker.inner.openedAt) * 1000000 ∧
        ∃ tested, breaker.allowRequest now = (true, tested) ∧ tested.inner.state = .halfOpen ∧
          tested.config = breaker.config) := by
  simp only [CircuitBreaker.allowRequest, CircuitBreaker.state, isOpen]
  split_ifs with elapsed
  · exact .inr ⟨elapsed.2, _, rfl, rfl, rfl⟩
  · exact .inl rfl

theorem refused {breaker : CircuitBreaker} {now : Nat}
    (refuses : (breaker.allowRequest now).1 = false) :
    breaker.after (.allowRequest now) = breaker := by
  by_cases isOpen : breaker.inner.state = .open
  · obtain same | ⟨_, tested, asked, _⟩ := allow_open isOpen now
    · exact congrArg Prod.snd same
    · rw [asked] at refuses
      cases refuses
  · rw [allow_shut isOpen] at refuses
    cases refuses

/-- A request is let through once the open circuit's time is over; otherwise it changes nothing. -/
theorem allowed_cases {breaker tested : CircuitBreaker} {now : Nat}
    (lets : breaker.allowRequest now = (true, tested)) :
    (tested = breaker ∧ breaker.inner.state ≠ .open) ∨
      (tested.inner.state = .halfOpen ∧ tested.config = breaker.config ∧
        breaker.config.openDuration.nanos ≤ (now - breaker.inner.openedAt) * 1000000) := by
  by_cases isOpen : breaker.inner.state = .open
  · obtain refuses | ⟨elapsed, other, asked, halfOpen, same⟩ := allow_open isOpen now
    · rw [refuses] at lets
      cases lets
    · rw [asked] at lets
      cases lets
      exact .inr ⟨halfOpen, same, elapsed⟩
  · rw [allow_shut isOpen] at lets
    cases lets
    exact .inl ⟨rfl, isOpen⟩

/-- What was let through by the loop is let through by `execute`, which leaves the circuit. -/
theorem allowed_again {breaker read : CircuitBreaker} {now : Nat}
    (lets : breaker.allowRequest now = (true, read)) (later : Nat) :
    read.allowRequest later = (true, read) := by
  apply allow_shut
  obtain ⟨rfl, shut⟩ | ⟨halfOpen, _⟩ := allowed_cases lets
  · exact shut
  · exact fun isOpen => CircuitState.noConfusion (halfOpen.symm.trans isOpen)

/-- A failure leaves the circuit open, or closed and with one more failure. -/
theorem failure_cases (breaker : CircuitBreaker) (now : Nat) :
    let next := breaker.after (.recordFailure now)
    next.config = breaker.config ∧
      ((breaker.inner.state = .open ∧ next.inner.state = .open ∧
          next.inner.openedAt = breaker.inner.openedAt) ∨
        (breaker.inner.state ≠ .open ∧ next.inner.state = .open ∧
          next.inner.openedAt = now % 2 ^ 64) ∨
        (breaker.inner.state = .closed ∧ next.inner.state = .closed ∧
          next.inner.consecutiveFailures = (breaker.inner.consecutiveFailures + 1) % 2 ^ 64 ∧
          next.inner.consecutiveFailures < breaker.config.failureThreshold)) := by
  intro next
  have moves : breaker.Moves (.recordFailure now) next := CircuitBreaker.moves_after breaker _
  clear_value next
  cases moves with
  | reads _ reads => cases reads
  | tests _ reads => cases reads
  | fails _ closed calm =>
      refine ⟨rfl, .inr (.inr ⟨closed, closed, rfl, ?_⟩)⟩
      by_contra many
      exact calm (.inl (Nat.le_of_not_lt many))
  | trips _ closed => exact ⟨rfl, .inr (.inl ⟨by simp [closed], rfl, rfl⟩)⟩
  | testFails _ halfOpen => exact ⟨rfl, .inr (.inl ⟨by simp [halfOpen], rfl, rfl⟩)⟩
  | ignoresFailure _ isOpen => exact ⟨rfl, .inl ⟨isOpen, isOpen, rfl⟩⟩

theorem turned_turn (run : ConsumerRun World Payload) (arrival : Arrival Payload) :
    Turned run.breaker arrival.delivery (consumer.turn run arrival).1
      (consumer.turn run arrival).2.breaker := by
  unfold turn
  cases run.phase.next arrival.shutdown arrival.now with
  | stopped => exact .quiet _
  | draining deadline => cases arrival.delivery <;> exact .quiet _
  | running =>
      cases arrival.delivery with
      | receiveError now => exact .receiveError now
      | message payload times acked =>
          cases lets : (run.breaker.allowRequest times.checked).1 with
          | false =>
              simp only [onMessage, lets, Bool.false_eq_true, if_false]
              exact .skipped payload times acked lets
          | true =>
              have again : ((run.breaker.after (.allowRequest times.checked)).allowRequest
                  times.entered).1 = true :=
                congrArg Prod.fst (allowed_again (Prod.ext lets rfl) times.entered)
              simp only [onMessage, lets, if_true, execute, ConsumerRun.call, again]
              exact .processed payload times acked _ lets

/-- The circuit after the two records of a message that failed. -/
theorem two_failures {breaker : CircuitBreaker} (ended recorded : Nat) (below : Below breaker) :
    let next := (breaker.after (.recordFailure ended)).after (.recordFailure recorded)
    next.config = breaker.config ∧ ((next.inner.state = .open ∧ (breaker.inner.state ≠ .open →
        next.inner.openedAt = ended % 2 ^ 64 ∨ next.inner.openedAt = recorded % 2 ^ 64)) ∨
      (breaker.inner.state = .closed ∧ next.inner.state = .closed ∧
        next.inner.consecutiveFailures = breaker.inner.consecutiveFailures + 2 ∧
        breaker.inner.consecutiveFailures + 2 < breaker.config.failureThreshold)) := by
  intro next
  obtain ⟨sameConfig, first⟩ := failure_cases breaker ended
  obtain ⟨sameAgain, second⟩ := failure_cases (breaker.after (.recordFailure ended)) recorded
  have bound := breaker.config.fits.1
  refine ⟨sameAgain.trans sameConfig, ?_⟩
  have still (isOpen : (breaker.after (.recordFailure ended)).inner.state = .open) :
      next.inner.state = .open ∧
        next.inner.openedAt = (breaker.after (.recordFailure ended)).inner.openedAt := by
    obtain ⟨_, again⟩ | ⟨shut, _⟩ | ⟨shut, _⟩ := second
    · exact again
    · exact absurd isOpen shut
    · cases isOpen.symm.trans shut
  obtain ⟨wasOpen, isOpen, _⟩ | ⟨_, isOpen, time⟩ | ⟨closed, stays, count, few⟩ := first
  · exact .inl ⟨(still isOpen).1, fun notOpen => absurd wasOpen notOpen⟩
  · exact .inl ⟨(still isOpen).1, fun _ => .inl ((still isOpen).2.trans time)⟩
  · obtain ⟨isOpen, _⟩ | ⟨_, isOpen, time⟩ | ⟨_, still, countAgain, fewAgain⟩ := second
    · cases stays.symm.trans isOpen
    · exact .inl ⟨isOpen, fun _ => .inr time⟩
    · right
      have less := below closed
      rw [Nat.mod_eq_of_lt (by omega)] at count
      rw [sameConfig, countAgain, count, Nat.mod_eq_of_lt (by omega)] at fewAgain
      rw [count, Nat.mod_eq_of_lt (by omega)] at countAgain
      exact ⟨closed, still, countAgain, fewAgain⟩

/-- The attempts that still come wait for the circuit once it is open. -/
structure Waits (breaker : CircuitBreaker) (attempts : List Attempt) : Prop where
  first : breaker.inner.state = .open → ∀ attempt ∈ attempts.head?,
    breaker.config.openDuration.nanos ≤ (attempt.checked - breaker.inner.openedAt) * 1000000
  rest : ∀ (index : Nat) (attempt next : Attempt),
    (breaker.inner.state = .closed → breaker.config.failureThreshold ≤
      breaker.inner.consecutiveFailures + 2 * (index + 1)) →
    attempts[index]? = some attempt → attempts[index + 1]? = some next →
      breaker.config.openDuration.nanos ≤ (next.checked - attempt.ended) * 1000000

/-- A failure without an attempt brings the circuit no further from its opening. -/
theorem waits_failure {breaker : CircuitBreaker} {now : Nat} {attempts : List Attempt}
    (below : Below breaker) (later : Waits (breaker.after (.recordFailure now)) attempts) :
    Waits breaker attempts := by
  obtain ⟨sameConfig, left⟩ := failure_cases breaker now
  have bound := breaker.config.fits.1
  obtain ⟨first, rest⟩ := later
  rw [sameConfig] at first rest
  obtain ⟨_, isOpen, sameTime⟩ | ⟨notOpen, isOpen, _⟩ | ⟨closed, stays, count, few⟩ := left
  · rw [sameTime] at first
    constructor
    · exact fun _ => first isOpen
    · intro index attempt next _
      exact rest index attempt next fun closed => nomatch isOpen.symm.trans closed
  · constructor
    · exact fun isOpen => absurd isOpen notOpen
    · intro index attempt next _
      exact rest index attempt next fun closed => nomatch isOpen.symm.trans closed
  · constructor
    · intro isOpen
      cases closed.symm.trans isOpen
    · intro index attempt next enough
      apply rest
      intro _
      have less := below closed
      have reached := enough closed
      rw [count, Nat.mod_eq_of_lt (by omega)]
      omega

/-- An attempt that fails is one of those that open the circuit. -/
theorem waits_attempt {breaker tested : CircuitBreaker} (attempt : Attempt) {recorded : Nat}
    {attempts : List Attempt} (below : Below breaker)
    (lets : breaker.allowRequest attempt.checked = (true, tested))
    (order : attempt.ended ≤ recorded) (inTime : recorded < 2 ^ 64)
    (later : Waits ((tested.after (.recordFailure attempt.ended)).after
      (.recordFailure recorded)) attempts) :
    Waits breaker (attempt :: attempts) := by
  have read := allowed_cases lets
  have known : Below tested ∧ tested.config = breaker.config ∧ tested.inner.state ≠ .open ∧
      (tested.inner.state = .closed → tested = breaker) := by
    obtain ⟨rfl, shut⟩ | ⟨halfOpen, same, _⟩ := read
    · exact ⟨below, rfl, shut, fun _ => rfl⟩
    · rw [Below, halfOpen]
      exact ⟨nofun, same, nofun, nofun⟩
  obtain ⟨stillBelow, same, notOpen, unchanged⟩ := known
  obtain ⟨sameConfig, left⟩ := two_failures attempt.ended recorded stillBelow
  obtain ⟨first, rest⟩ := later
  rw [sameConfig, same] at first rest
  constructor
  · intro isOpen other isOther
    cases isOther
    obtain ⟨_, shut⟩ | ⟨_, _, elapsed⟩ := read
    · exact absurd isOpen shut
    · exact elapsed
  · intro index other next enough found follows
    obtain ⟨isOpen, times⟩ | ⟨closed, stays, count, few⟩ := left
    · cases index with
      | zero =>
          cases found
          have waited := first isOpen next (by rwa [List.head?_eq_getElem?])
          obtain time | time := times notOpen
          · rw [time, Nat.mod_eq_of_lt (order.trans_lt inTime)] at waited
            exact waited
          · rw [time, Nat.mod_eq_of_lt inTime] at waited
            have sooner : next.checked - recorded ≤ next.checked - attempt.ended :=
              Nat.sub_le_sub_left order next.checked
            exact waited.trans (Nat.mul_le_mul_right _ sooner)
      | succ index =>
          exact rest index other next (fun closed => nomatch isOpen.symm.trans closed) found follows
    · have unread := unchanged closed
      have failures := congrArg (fun read => read.inner.consecutiveFailures) unread
      have limit := congrArg (fun read => read.config.failureThreshold) unread
      have reached := enough (unread ▸ closed)
      cases index with
      | zero => omega
      | succ index =>
          apply rest index other next _ found follows
          intro _
          omega

theorem record_of_not_done {processed : Processed} (fails : processed ≠ .done) (now : Nat) :
    processed.record now = .recordFailure now := by
  cases processed with
  | done => exact absurd rfl fails
  | failed | timedOut => rfl

theorem waits_turned {breaker next : CircuitBreaker} {arrival : Arrival Payload}
    {attempt : Option Attempt} {attempts : List Attempt}
    (turned : Turned breaker arrival.delivery attempt next) (below : Below breaker)
    (inTime : arrival.InTime) (fails : ∀ made ∈ attempt, made.processed ≠ .done)
    (later : Waits next attempts) : Waits breaker (attempt.toList ++ attempts) := by
  obtain ⟨shutdown, now, delivery⟩ := arrival
  cases turned with
  | quiet => exact later
  | receiveError now => exact waits_failure below later
  | skipped payload times acked refuses =>
      have same : breaker.after (.allowRequest times.checked) = breaker := refused refuses
      apply waits_failure below
      rw [← same]
      exact later
  | processed payload times acked processed lets =>
      have failed := fails _ rfl
      rw [record_of_not_done failed, record_of_not_done failed] at later
      have order : times.ended ≤ times.recorded ∧ times.recorded < 2 ^ 64 := inTime
      have asked : breaker.allowRequest times.checked =
          (true, breaker.after (.allowRequest times.checked)) := Prod.ext lets rfl
      have again : (breaker.after (.allowRequest times.checked)).after
          (.allowRequest times.entered) = breaker.after (.allowRequest times.checked) :=
        (congrArg Prod.snd (allowed_again asked times.entered) :)
      apply waits_attempt ⟨times.checked, times.ended, processed⟩ below asked order.1 order.2
      show Waits (((breaker.after (.allowRequest times.checked)).after
        (.recordFailure times.ended)).after (.recordFailure times.recorded)) attempts
      rw [← again]
      exact later

theorem below_turned {breaker next : CircuitBreaker} {delivery : Delivery Payload}
    {attempt : Option Attempt} (turned : Turned breaker delivery attempt next)
    (failures : 0 < breaker.config.failureThreshold) (below : Below breaker) :
    Below next ∧ next.config = breaker.config := by
  have call {reached : CircuitBreaker} (made : CircuitCall)
      (before : Below reached ∧ reached.config = breaker.config) :
      Below (reached.after made) ∧ (reached.after made).config = breaker.config := by
    obtain ⟨kept, same⟩ := below_after (before.2 ▸ failures) before.1 made
    exact ⟨kept, same.trans before.2⟩
  cases turned with
  | quiet => exact ⟨below, rfl⟩
  | receiveError now => exact call _ ⟨below, rfl⟩
  | skipped payload times acked => exact call _ (call _ ⟨below, rfl⟩)
  | processed payload times acked => exact call _ (call _ (call _ (call _ ⟨below, rfl⟩)))

end Breaker

/-! ## Runs -/

def Ready (run : ConsumerRun World Payload) : Prop :=
  Below run.breaker ∧ run.breaker.config = consumer.config.circuitBreaker

theorem ready_step (failures : 0 < consumer.config.failureThreshold)
    (run : ConsumerRun World Payload) (arrival : Arrival Payload) (ready : consumer.Ready run) :
    consumer.Ready (consumer.step run arrival) := by
  have positive : 0 < run.breaker.config.failureThreshold := by
    rw [ready.2]
    exact failures
  obtain ⟨below, same⟩ := below_turned (turned_turn run arrival) positive ready.1
  exact ⟨below, same.trans ready.2⟩

theorem waits_attempts (failures : 0 < consumer.config.failureThreshold)
    (arrivals : List (Arrival Payload)) {run : ConsumerRun World Payload}
    (ready : consumer.Ready run)
    (inTime : ∀ arrival ∈ arrivals, arrival.InTime)
    (fails : ∀ attempt ∈ consumer.attempts run arrivals, attempt.processed ≠ .done) :
    Waits run.breaker (consumer.attempts run arrivals) := by
  induction arrivals generalizing run with
  | nil =>
      constructor
      · intro _ attempt nothing
        cases nothing
      · intro index attempt next _ nothing
        cases nothing
  | cons arrival rest ih =>
      obtain ⟨first, others⟩ := List.forall_mem_cons.mp inTime
      apply waits_turned (turned_turn run arrival) ready.1 first
      · intro made isMade
        exact fails made (List.mem_append_left _ (Option.mem_toList.mpr isMade))
      · apply ih (consumer.ready_step failures run arrival ready) others
        intro attempt member
        exact fails attempt (List.mem_append_right _ member)

/-- The messages of a part of the arrivals are acknowledged, where the server takes it: of all, or
of those before the one that ends the loop. -/
def AcknowledgesUntilStopped (run : ConsumerRun World Payload) (arrivals : List (Arrival Payload)) :
    Prop :=
  ∃ taken left, arrivals = taken ++ left ∧
    (taken.foldl consumer.step run).phase ≠ .stopped ∧
    (∀ arrival ∈ left.head?, (consumer.step (taken.foldl consumer.step run) arrival).phase =
      .stopped) ∧
    (arrivals.foldl consumer.step run).acknowledged =
      run.acknowledged ++ taken.filterMap Arrival.acked

section Acknowledgements

variable {consumer} {run : ConsumerRun World Payload} {arrival : Arrival Payload}

variable (consumer run) in
theorem on_message_keeps (payload : Payload) (times : Times) :
    (consumer.onMessage payload times run).2.phase = run.phase ∧
      (consumer.onMessage payload times run).2.acknowledged = run.acknowledged := by
  have executed : (consumer.execute payload times
        (run.call (.allowRequest times.checked))).2.phase = run.phase ∧
      (consumer.execute payload times
        (run.call (.allowRequest times.checked))).2.acknowledged = run.acknowledged := by
    unfold execute
    dsimp only
    split <;> exact ⟨rfl, rfl⟩
  unfold onMessage
  dsimp only
  split
  · generalize consumer.execute payload times (run.call (.allowRequest times.checked)) = outcome
      at executed
    obtain ⟨processed, after⟩ := outcome
    cases processed <;> exact executed
  · exact ⟨rfl, rfl⟩

/-- A message whose turn does not end the loop is acknowledged, whatever became of it. -/
theorem acknowledged_step :
    (consumer.step run arrival).acknowledged = run.acknowledged ++
      if (consumer.step run arrival).phase = .stopped then [] else arrival.acked.toList := by
  obtain ⟨shutdown, now, delivery⟩ := arrival
  unfold step turn Arrival.acked
  cases next : run.phase.next shutdown now with
  | stopped => cases delivery <;> exact (List.append_nil _).symm
  | draining deadline =>
      cases delivery with
      | receiveError now => exact (List.append_nil _).symm
      | message payload times acked =>
          rw [if_neg (by exact Phase.noConfusion)]
          cases acked <;> rfl
  | running =>
      have running : run.phase = .running := by
        revert next
        unfold Phase.next
        cases run.phase with
        | running => exact fun _ => rfl
        | stopped => exact nofun
        | draining deadline =>
            dsimp only
            split <;> exact nofun
      cases delivery with
      | receiveError now =>
          dsimp only
          split <;> exact (List.append_nil _).symm
      | message payload times acked =>
          obtain ⟨phase, acknowledged⟩ := on_message_keeps consumer run payload times
          have goesOn : (consumer.onMessage payload times run).2.phase ≠ .stopped := by
            rw [phase, running]
            exact Phase.noConfusion
          show (consumer.onMessage payload times run).2.acknowledged ++
              (if acked then [payload] else []) = run.acknowledged ++
            if (consumer.onMessage payload times run).2.phase = .stopped then []
            else (if acked then some payload else none).toList
          rw [acknowledged, if_neg goesOn]
          cases acked <;> rfl

theorem stopped_step (stopped : run.phase = .stopped) :
    (consumer.step run arrival).phase = .stopped := by
  unfold step turn
  rw [stopped]
  cases arrival.delivery <;> rfl

theorem acknowledged_of_stopped (arrivals : List (Arrival Payload)) :
    ∀ {run : ConsumerRun World Payload}, run.phase = .stopped →
      (arrivals.foldl consumer.step run).acknowledged = run.acknowledged := by
  induction arrivals with
  | nil => exact fun _ => rfl
  | cons arrival rest ih =>
      intro run stopped
      have still : (consumer.step run arrival).phase = .stopped := stopped_step stopped
      rw [List.foldl_cons, ih still, acknowledged_step, if_pos still, List.append_nil]

variable (consumer) in
theorem acknowledges (arrivals : List (Arrival Payload)) :
    ∀ {run : ConsumerRun World Payload}, run.phase ≠ .stopped →
      consumer.AcknowledgesUntilStopped run arrivals := by
  induction arrivals with
  | nil =>
      exact fun {run} runs => ⟨[], [], rfl, runs, nofun, (List.append_nil _).symm⟩
  | cons arrival rest ih =>
      intro run runs
      by_cases stops : (consumer.step run arrival).phase = .stopped
      · refine ⟨[], arrival :: rest, rfl, runs, ?_, ?_⟩
        · intro other isOther
          cases isOther
          exact stops
        · rw [List.foldl_cons, acknowledged_of_stopped rest stops, acknowledged_step, if_pos stops]
          rfl
      · obtain ⟨taken, left, split, goesOn, ends, acknowledged⟩ := ih stops
        refine ⟨arrival :: taken, left, congrArg (arrival :: ·) split, goesOn, ends, ?_⟩
        rw [List.foldl_cons, acknowledged, acknowledged_step, if_neg stops, List.append_assoc]
        cases taking : arrival.acked with
        | none => rw [List.filterMap_cons_none taking]; rfl
        | some payload => rw [List.filterMap_cons_some taking]; rfl

end Acknowledgements

/-- As long as nothing that is processed succeeds, the first messages alone fail one after the
other: half as many as the threshold, since each is counted twice. Every later one is processed
only when the circuit has been open for its duration since the end of the one before. What comes in
between is acknowledged all the same and so is lost, until a shutdown ends the loop. -/
theorem outage_spaces_attempts (failures : 0 < consumer.config.failureThreshold) (world : World)
    (earlier outage : List (Arrival Payload)) (inTime : ∀ arrival ∈ outage, arrival.InTime)
    (fails : ∀ attempt ∈ consumer.attempts
      (earlier.foldl consumer.step (consumer.start world)) outage, attempt.processed ≠ .done) :
    (∀ (index : Nat) (attempt next : Attempt),
      consumer.config.failureThreshold ≤ 2 * (index + 1) →
      (consumer.attempts (earlier.foldl consumer.step (consumer.start world))
        outage)[index]? = some attempt →
      (consumer.attempts (earlier.foldl consumer.step (consumer.start world))
        outage)[index + 1]? = some next →
      consumer.config.openDuration.nanos ≤ (next.checked - attempt.ended) * 1000000) ∧
    consumer.AcknowledgesUntilStopped (consumer.start world) (earlier ++ outage) := by
  have always : Always consumer.step consumer.Ready (consumer.start world) earlier :=
    always_of_preserved consumer.step _ (consumer.ready_step failures) earlier _
      ⟨fun _ => failures, rfl⟩
  have ready := always_final consumer.step earlier _ always
  obtain ⟨_, rest⟩ := consumer.waits_attempts failures outage ready inTime fails
  rw [ready.2] at rest
  constructor
  · intro index attempt next enough found follows
    exact rest index attempt next (fun _ => enough.trans (Nat.le_add_left _ _)) found follows
  · exact consumer.acknowledges _ Phase.noConfusion

theorem default_fits : 5 < 2 ^ 64 ∧ 2 < 2 ^ 64 := by decide

/-- With the default configuration; a message says whether its processing succeeds. -/
def defaultConsumer : SagaConsumer Unit Bool where
  config := ⟨5, ⟨30 * 1000000000⟩, 2, default_fits⟩
  processMessage succeeds _ := (if succeeds then .done else .failed, ())

def arrivesAt (now : Nat) (succeeds : Bool) : Arrival Bool :=
  ⟨false, now, .message succeeds ⟨now, now, now + 1, now + 1⟩ true⟩

/-- Three jobs fail, the fourth is lost, and the fifth is tried half a minute later. -/
theorem five_failures_spaced :
    defaultConsumer.config.openDuration.nanos ≤ (30040 - 31) * 1000000 :=
  (defaultConsumer.outage_spaces_attempts (by decide) () [arrivesAt 5 true]
    ([10, 20, 30, 40, 30040].map (arrivesAt · false)) (by simp [arrivesAt, Arrival.InTime])
    (by decide +kernel)).1 2 ⟨30, 31, .failed⟩ ⟨30040, 30041, .failed⟩ (by decide)
    (by decide +kernel) (by decide +kernel)

end SagaConsumer

end HodeiJobs.Messaging
