import HodeiJobs.Library.Retry
import HodeiJobs.Library.TimeSpan
import HodeiJobs.Messaging.RelayCircuit

/-!
# Retries of the relays

`process_command_with_retry` and `process_event_with_retry` on one record. An attempt publishes
the record and then marks it, and is repeated as a whole. Between two attempts the relay sleeps,
for a delay that doubles; where it exceeds the range of `Duration`, the relay panics. Floating-point
numbers are read as exact rationals.
-/

namespace HodeiJobs.Messaging

open HodeiJobs.Library

/-- How far one attempt gets. Only a relay with a circuit breaker is refused or timed out. -/
inductive Attempt (MarkError : Type) where
  | unprepared (error : String)
  | refused
  | timedOut
  | failed (error : String)
  | published (mark : Option MarkError)

inductive RelayAction where
  | publish (succeeded : Bool)
  | mark (succeeded : Bool)
  | giveUp (reason : String) (attempts : Nat)
  deriving DecidableEq

namespace Attempt

variable {MarkError : Type}

def actions : Attempt MarkError → List RelayAction
  | .unprepared _ | .refused => []
  | .timedOut | .failed _ => [.publish false]
  | .published none => [.publish true, .mark true]
  | .published (some _) => [.publish true, .mark false]

def Publishes : Attempt MarkError → Prop
  | .published _ => True
  | _ => False

def Marks : Attempt MarkError → Prop
  | .published none => True
  | _ => False

end Attempt

/-! ## Delays -/

/-- The end of both `calculate_backoff`, for a number that `rand::random` has drawn. -/
def jittered (baseSecs random : ℚ) : Except SpanPanic TimeSpan :=
  let jitterRange := baseSecs * (1 / 4)
  let jitter := (random * 2 - 1) * jitterRange
  -- The least delay is the `f64` 0.1.
  TimeSpan.fromSecsF64 (max (baseSecs + jitter) (3602879701896397 / 2 ^ 55))

/-- The loop goes on after a delay, unless computing it panicked. -/
def slept {Result : Type} : Except SpanPanic TimeSpan → Except (Except SpanPanic Result) Unit
  | .ok _ => .ok ()
  | .error panic => .error (.error panic)

/-! ## `CommandRelay` -/

/-- `Display::fmt`. -/
def CommandProcessorError.display : CommandProcessorError → String
  | .handlerError message => "Handler error: " ++ message
  | .retryableError message => "Retryable error: " ++ message
  | .permanentError message => "Permanent error: " ++ message

/-- The configuration, as far as the retries read it. -/
structure CommandRetryConfig where
  maxRetries : Int
  pollIntervalMs : UInt64

namespace CommandRelay

def calculateBackoff (config : CommandRetryConfig) (random : ℚ) (retryCount : Nat) :
    Except SpanPanic TimeSpan :=
  jittered (config.pollIntervalMs.toNat * 2 ^ retryCount / 1000) random

def processSingleCommand (guarded : Bool) (attempt : Attempt String) :
    Except CommandProcessorError Unit × List RelayAction :=
  (match attempt with
    | .unprepared error => .error (errors.ofPreparation error)
    | .refused => .error (errors.ofCircuit .open)
    | .timedOut => .error (errors.ofCircuit .timeout)
    | .failed error =>
        if guarded then .error (errors.ofCircuit (.failed (errors.publishFailed ++ error)))
        else .error (.retryableError ("NATS publish failed: " ++ error))
    | .published none => .ok ()
    | .published (some error) => .error (errors.ofMark error),
   attempt.actions)

/-- After the last attempt the record is marked as failed. -/
def retryLoop (guarded : Bool) (config : CommandRetryConfig) (random : Nat → ℚ) :
    RetryLoop (Attempt String) CommandProcessorError RelayAction
      (Except SpanPanic (Except CommandProcessorError Unit)) where
  attempt := processSingleCommand guarded
  done := .ok (.ok ())
  wait failed := slept (calculateBackoff config (random failed) failed)
  giveUp error attempts :=
    (.ok (.error (.permanentError ("Max retries exceeded: " ++ error.display))),
      [.giveUp error.display attempts])

def processCommandWithRetry (guarded : Bool) (config : CommandRetryConfig) (random : Nat → ℚ)
    (attempts : Nat → Attempt String) :
    Except SpanPanic (Except CommandProcessorError Unit) × List RelayAction :=
  (retryLoop guarded config random).run config.maxRetries.toNat attempts

end CommandRelay

/-! ## `NatsOutboxRelay` -/

/-- The errors of the repository, each with the text that it shows. -/
inductive PostgresOutboxRepositoryError where
  | database (error : String)
  | outbox (error : String)
  | serialization (error : String)
  | infrastructureError (message : String)

/-- `NatsOutboxRelayError` with all its variants; an `EventBusError` is the text that it shows. -/
inductive NatsEventError where
  | database (error : String)
  | outbox (error : String)
  | eventBus (error : String)
  | serialization (error : String)
  | maxRetries (eventId : String)
  | infrastructureError (message : String)

namespace NatsEventError

def ofRepository : PostgresOutboxRepositoryError → NatsEventError
  | .database error => .database error
  | .outbox error => .outbox error
  | .serialization error => .serialization error
  | .infrastructureError message => .infrastructureError message

/-- `EventBusError::PublishError`. -/
def ofPublish (error : String) : NatsEventError := .eventBus ("Failed to publish event: " ++ error)

/-- `Display::fmt`. -/
def display : NatsEventError → String
  | .database error => "Database error: " ++ error
  | .outbox error => "Outbox error: " ++ error
  | .eventBus error => "NATS event bus error: " ++ error
  | .serialization error => "Serialization error: " ++ error
  | .maxRetries eventId => "Event exceeded max retries, sent to DLQ: " ++ eventId
  | .infrastructureError message => "Infrastructure error: " ++ message

end NatsEventError

/-- The configuration, as far as the retries read it. -/
structure EventRetryConfig where
  maxRetries : UInt32
  retryDelay : TimeSpan
  maxRetryDelay : TimeSpan
  enableDlq : Bool

namespace NatsOutboxRelay

/-- The cap comes after the conversion to a `Duration`. -/
def calculateBackoff (config : EventRetryConfig) (random : ℚ) (retryCount : Nat) :
    Except SpanPanic TimeSpan :=
  (jittered (config.retryDelay.asSecsF64 * 2 ^ retryCount) random).map
    (·.min config.maxRetryDelay)

def processEvent (guarded : Bool) (attempt : Attempt PostgresOutboxRepositoryError) :
    Except NatsEventError Unit × List RelayAction :=
  (match attempt with
    | .unprepared error => .error (.serialization error)
    | .refused => .error (.infrastructureError "Circuit breaker open")
    | .timedOut => .error (.infrastructureError "Circuit breaker timeout")
    | .failed error =>
        if guarded then
          .error (.ofPublish ("Infrastructure error: Event bus publish failed: " ++ error))
        else .error (.eventBus error)
    | .published none => .ok ()
    | .published (some error) => .error (.ofRepository error),
   attempt.actions)

/-- After the last attempt the event is sent to the dead letter queue, which may fail. -/
def retryLoop (guarded : Bool) (config : EventRetryConfig) (random : Nat → ℚ) (eventId : String)
    (deadLetter : Option NatsEventError) :
    RetryLoop (Attempt PostgresOutboxRepositoryError) NatsEventError RelayAction
      (Except SpanPanic (Except NatsEventError Unit)) where
  attempt := processEvent guarded
  done := .ok (.ok ())
  wait failed := slept (calculateBackoff config (random failed) failed)
  giveUp error attempts :=
    if config.enableDlq then
      (.ok (.error (deadLetter.getD (.maxRetries eventId))), [.giveUp error.display attempts])
    else (.ok (.error (.maxRetries eventId)), [])

def processEventWithRetry (guarded : Bool) (config : EventRetryConfig) (random : Nat → ℚ)
    (eventId : String) (deadLetter : Option NatsEventError)
    (attempts : Nat → Attempt PostgresOutboxRepositoryError) :
    Except SpanPanic (Except NatsEventError Unit) × List RelayAction :=
  (retryLoop guarded config random eventId deadLetter).run config.maxRetries.toNat attempts

end NatsOutboxRelay

/-! ## Publishing once -/

/-- After a publication there are only marks, and one that fails is followed by another. -/
def Settled (later : List RelayAction) : Prop :=
  (∀ action ∈ later, ∃ succeeded, action = .mark succeeded) ∧
    ∀ before rest, later = before ++ .mark false :: rest →
      ∃ succeeded others, rest = .mark succeeded :: others

/-- The record is published once at most, and once it is published, it is only marked. -/
structure PublishesOnce (actions : List RelayAction) : Prop where
  once : actions.count (.publish true) ≤ 1
  settled : ∀ before later, actions = before ++ .publish true :: later → Settled later

/-- The first attempt of the budget that publishes the record marks it as well, if the delays
before it can be computed. -/
def FirstPublicationMarked {MarkError : Type} (delays : Nat → Except SpanPanic TimeSpan)
    (budget : Nat) (attempts : Nat → Attempt MarkError) : Prop :=
  ∀ index ≤ budget - 1, (∀ earlier < index, ∃ delay, delays (earlier + 1) = .ok delay) →
    (∀ earlier < index, ¬(attempts earlier).Publishes) →
      (attempts index).Publishes → (attempts index).Marks

def StartsWithoutMark (actions : List RelayAction) : Prop :=
  ∀ succeeded others, actions ≠ .mark succeeded :: others

theorem publishes_once_nil : PublishesOnce [] := by
  constructor
  · exact Nat.zero_le 1
  · intro before later split
    cases before <;> cases split

theorem publishes_once_cons {action : RelayAction} (other : action ≠ .publish true)
    (rest : List RelayAction) : PublishesOnce (action :: rest) ↔ PublishesOnce rest := by
  have counted : (action :: rest).count (.publish true) = rest.count (.publish true) :=
    List.count_cons_of_ne other
  constructor
  · intro publishes
    constructor
    · rw [← counted]
      exact publishes.once
    · intro before later split
      exact publishes.settled (action :: before) later (by rw [split]; rfl)
  · intro publishes
    constructor
    · rw [counted]
      exact publishes.once
    · intro before later split
      cases before with
      | nil => exact absurd (List.cons.inj split).1 other
      | cons first before => exact publishes.settled before later (List.cons.inj split).2

/-- A published record that is marked at the first try. -/
theorem publishes_once_marked : PublishesOnce [.publish true, .mark true] := by
  constructor
  · decide
  · intro before later split
    cases before with
    | nil =>
        rw [← (List.cons.inj split).2]
        constructor
        · intro action member
          exact ⟨true, List.mem_singleton.mp member⟩
        · intro before rest split
          cases before with
          | nil => cases split
          | cons first before => cases before <;> cases split
    | cons first before =>
        cases before with
        | nil => cases split
        | cons second before => cases before <;> cases split

/-- A mark that fails has to be followed by another one. -/
theorem not_publishes_once_unmarked {rest : List RelayAction}
    (noMark : StartsWithoutMark rest) : ¬PublishesOnce (.publish true :: .mark false :: rest) := by
  intro publishes
  rcases (publishes.settled [] _ rfl).2 [] rest rfl with ⟨succeeded, others, marked⟩
  exact noMark succeeded others marked

section

variable {MarkError Error Result : Type} {delays : Nat → Except SpanPanic TimeSpan}

theorem slept_eq_ok {delay : Except SpanPanic TimeSpan} :
    (slept delay : Except (Except SpanPanic Result) Unit) = .ok () ↔ ∃ slept, delay = .ok slept := by
  cases delay <;> simp [slept]

/-- The actions of a relay's attempts are those of `Attempt.actions`, it waits for the delays,
and it gives up without publishing or marking. -/
structure IsRelayLoop (delays : Nat → Except SpanPanic TimeSpan)
    (loop : RetryLoop (Attempt MarkError) Error RelayAction (Except SpanPanic Result)) :
    Prop where
  actions : ∀ attempt, (loop.attempt attempt).2 = attempt.actions
  succeeds : ∀ attempt, (loop.attempt attempt).1 = .ok () ↔ attempt.Marks
  waits : ∀ failed, loop.wait failed = slept (delays failed)
  givesUp : ∀ error attempts, ∀ action ∈ (loop.giveUp error attempts).2,
    ∃ reason count, action = .giveUp reason count

variable {loop : RetryLoop (Attempt MarkError) Error RelayAction (Except SpanPanic Result)}

theorem actions_start_without_mark (attempt : Attempt MarkError) {rest : List RelayAction}
    (noMark : StartsWithoutMark rest) : StartsWithoutMark (attempt.actions ++ rest) := by
  intro succeeded others
  cases attempt with
  | unprepared error => exact noMark succeeded others
  | refused => exact noMark succeeded others
  | timedOut => exact fun same => by cases same
  | failed error => exact fun same => by cases same
  | published mark => cases mark <;> exact fun same => by cases same

theorem publishes_once_of_none {actions : List RelayAction}
    (none : ∀ action ∈ actions, action ≠ .publish true) : PublishesOnce actions := by
  induction actions with
  | nil => exact publishes_once_nil
  | cons action rest ih =>
      rw [publishes_once_cons (none action List.mem_cons_self)]
      exact ih fun other member => none other (List.mem_cons_of_mem _ member)

namespace IsRelayLoop

theorem given_up_without_mark (isRelay : IsRelayLoop delays loop) (error : Error) (failed : Nat) :
    StartsWithoutMark (loop.giveUp error failed).2 := by
  intro succeeded others same
  have marked := isRelay.givesUp error failed (.mark succeeded) (by rw [same]; exact .head _)
  rcases marked with ⟨reason, count, isGivenUp⟩
  cases isGivenUp

/-- No part of the loop begins with a mark. -/
theorem starts_without_mark (isRelay : IsRelayLoop delays loop) (left failed : Nat)
    (attempts : Nat → Attempt MarkError) :
    StartsWithoutMark (loop.runFrom left failed attempts).2 := by
  apply RetryLoop.run_from_induction StartsWithoutMark
  · intro attempt actions attempted
    have own := isRelay.actions attempt
    rw [attempted] at own
    dsimp only at own
    rw [own, ← List.append_nil attempt.actions]
    exact actions_start_without_mark attempt fun _ _ same => by cases same
  · intro attempt error actions rest attempted noMark
    have own := isRelay.actions attempt
    rw [attempted] at own
    dsimp only at own
    rw [own]
    exact actions_start_without_mark attempt noMark
  · exact fun _ _ same => by cases same
  · exact isRelay.given_up_without_mark

/-- An attempt that publishes decides: either it marks the record as well, or another
attempt, or giving up, follows a mark that has failed. -/
theorem publishing_decides (isRelay : IsRelayLoop delays loop) (left failed : Nat)
    (attempts : Nat → Attempt MarkError) (publishes : (attempts 0).Publishes) :
    PublishesOnce (loop.runFrom left failed attempts).2 ↔ (attempts 0).Marks := by
  have own := isRelay.actions (attempts 0)
  have success := isRelay.succeeds (attempts 0)
  generalize isFirst : attempts 0 = first at *
  cases first with
  | unprepared error => exact publishes.elim
  | refused => exact publishes.elim
  | timedOut => exact publishes.elim
  | failed error => exact publishes.elim
  | published mark =>
      rcases attempted : loop.attempt (attempts 0) with ⟨result, actions⟩
      rw [isFirst] at attempted
      rw [attempted] at own success
      dsimp only at own success
      rw [← isFirst] at attempted
      cases mark with
      | none =>
          rw [success.mpr trivial] at attempted
          rw [RetryLoop.run_from_of_ok attempted, own]
          exact iff_of_true publishes_once_marked trivial
      | some error =>
          cases result with
          | ok _ => exact (success.mp rfl).elim
          | error error =>
              rw [RetryLoop.run_from_of_error attempted, own]
              apply iff_of_false _ not_false
              apply not_publishes_once_unmarked
              cases left with
              | zero => exact isRelay.given_up_without_mark _ _
              | succ left =>
                  dsimp only
                  split
                  · exact fun _ _ same => by cases same
                  · exact isRelay.starts_without_mark _ _ _

/-- An attempt that does not publish fails, and leaves the question to the others. -/
theorem other_attempt_skipped (isRelay : IsRelayLoop delays loop) (attempt : Attempt MarkError)
    (other : ¬attempt.Publishes) :
    ∃ error actions, loop.attempt attempt = (.error error, actions) ∧
      ∀ rest, PublishesOnce (actions ++ rest) ↔ PublishesOnce rest := by
  have own := isRelay.actions attempt
  have success := isRelay.succeeds attempt
  rcases attempted : loop.attempt attempt with ⟨result, actions⟩
  rw [attempted] at own success
  dsimp only at own success
  subst own
  have noMark : ¬attempt.Marks := by
    cases attempt with
    | published mark => exact absurd trivial other
    | _ => exact not_false
  cases result with
  | ok _ => exact absurd (success.mp rfl) noMark
  | error error =>
      refine ⟨error, attempt.actions, rfl, ?_⟩
      intro rest
      cases attempt with
      | unprepared error => exact Iff.rfl
      | refused => exact Iff.rfl
      | timedOut => exact publishes_once_cons (by decide) rest
      | failed error => exact publishes_once_cons (by decide) rest
      | published mark => exact absurd trivial other

theorem publishes_once_iff (isRelay : IsRelayLoop delays loop) (budget : Nat)
    (attempts : Nat → Attempt MarkError) :
    PublishesOnce (loop.run budget attempts).2 ↔
      FirstPublicationMarked delays budget attempts := by
  have reached : ∀ index, loop.Reaches 0 index ↔
      ∀ earlier < index, ∃ delay, delays (earlier + 1) = .ok delay := by
    intro index
    unfold RetryLoop.Reaches
    simp only [isRelay.waits, slept_eq_ok, Nat.zero_add]
  unfold FirstPublicationMarked
  simp only [← reached]
  apply RetryLoop.run_from_iff
  · exact isRelay.other_attempt_skipped
  · exact publishes_once_nil
  · intro error failed
    apply publishes_once_of_none
    intro action member
    rcases isRelay.givesUp error failed action member with ⟨reason, count, isGivenUp⟩
    rw [isGivenUp]
    exact fun same => by cases same
  · exact isRelay.publishing_decides

end IsRelayLoop

end

/-! ## The two relays -/

theorem command_relay_loop (guarded : Bool) (config : CommandRetryConfig) (random : Nat → ℚ) :
    IsRelayLoop (fun failed => CommandRelay.calculateBackoff config (random failed) failed)
      (CommandRelay.retryLoop guarded config random) where
  actions := fun _ => rfl
  waits := fun _ => rfl
  succeeds := by
    intro attempt
    cases attempt with
    | published mark => cases mark <;> simp [CommandRelay.retryLoop,
        CommandRelay.processSingleCommand, Attempt.Marks]
    | _ => cases guarded <;> simp [CommandRelay.retryLoop, CommandRelay.processSingleCommand,
        Attempt.Marks]
  givesUp := by
    intro error attempts action member
    exact ⟨_, _, List.mem_singleton.mp member⟩

theorem nats_relay_loop (guarded : Bool) (config : EventRetryConfig) (random : Nat → ℚ)
    (eventId : String) (deadLetter : Option NatsEventError) :
    IsRelayLoop (fun failed => NatsOutboxRelay.calculateBackoff config (random failed) failed)
      (NatsOutboxRelay.retryLoop guarded config random eventId deadLetter) where
  actions := fun _ => rfl
  waits := fun _ => rfl
  succeeds := by
    intro attempt
    cases attempt with
    | published mark => cases mark <;> simp [NatsOutboxRelay.retryLoop,
        NatsOutboxRelay.processEvent, Attempt.Marks]
    | _ => cases guarded <;> simp [NatsOutboxRelay.retryLoop, NatsOutboxRelay.processEvent,
        Attempt.Marks]
  givesUp := by
    intro error attempts action member
    unfold NatsOutboxRelay.retryLoop at member
    dsimp only at member
    split_ifs at member
    · exact ⟨_, _, List.mem_singleton.mp member⟩
    · cases member

/-- A run of either relay publishes its record once at most, and only marks it from then on,
exactly if the first of its attempts that publishes the record also marks it. -/
theorem published_once_iff_first_marked (guarded : Bool) (commandConfig : CommandRetryConfig)
    (commandAttempts : Nat → Attempt String) (config : EventRetryConfig) (random : Nat → ℚ)
    (eventId : String) (deadLetter : Option NatsEventError)
    (eventAttempts : Nat → Attempt PostgresOutboxRepositoryError) :
    (PublishesOnce
          (CommandRelay.processCommandWithRetry guarded commandConfig random commandAttempts).2 ↔
        FirstPublicationMarked
          (fun failed => CommandRelay.calculateBackoff commandConfig (random failed) failed)
          commandConfig.maxRetries.toNat commandAttempts) ∧
      (PublishesOnce
          (NatsOutboxRelay.processEventWithRetry guarded config random eventId deadLetter
            eventAttempts).2 ↔
        FirstPublicationMarked
          (fun failed => NatsOutboxRelay.calculateBackoff config (random failed) failed)
          config.maxRetries.toNat eventAttempts) := by
  constructor
  · exact (command_relay_loop guarded commandConfig random).publishes_once_iff
      commandConfig.maxRetries.toNat commandAttempts
  · exact (nats_relay_loop guarded config random eventId deadLetter).publishes_once_iff
      config.maxRetries.toNat eventAttempts

/-- Every publication succeeds and no mark does: with two attempts the command is published twice
and marked as failed, with one the event is published and sent to the dead letter queue. -/
theorem unmarked_record_published_again :
    ¬PublishesOnce (CommandRelay.processCommandWithRetry true ⟨2, 100⟩ (fun _ => 1 / 2)
        fun _ => .published (some "connection reset")).2 ∧
      ¬PublishesOnce (NatsOutboxRelay.processEventWithRetry true
        ⟨1, .fromSecs 1, .fromSecs 60, true⟩ (fun _ => 1 / 2) "e1" none
        fun _ => .published (some (.database "connection reset"))).2 := by
  constructor
  · intro publishes
    exact absurd publishes.once (by decide +kernel)
  · intro publishes
    have settled := publishes.settled [] _ rfl
    rcases settled.1 _ (.tail _ (.head _)) with ⟨succeeded, isMark⟩
    cases isMark

end HodeiJobs.Messaging
