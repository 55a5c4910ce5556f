import HodeiJobs.Library.Runs
import HodeiJobs.Sagas.Types

/-!
# Admission of concurrent calls

The semaphore part of `execute_saga` in both orchestrators, one move for each
point where the permit count or the active count changes. A permit value gives
its permit back when it is dropped. In `PostgresSagaOrchestrator` it is bound in
a match arm and dropped at the end of that arm, and the guard adds another
permit when the call returns; `InMemorySagaOrchestrator` keeps it to the end of
the call and its guard only counts down.
-/

namespace HodeiJobs.Sagas

open HodeiJobs.Library

inductive OrchestratorKind where
  | postgres
  | inMemory
  deriving DecidableEq

/-- Where a call is. From `matched` on it has been admitted. -/
inductive CallPhase where
  | waiting
  | matched
  | entered
  | running
  | returned
  deriving DecidableEq

/-- Between a successful admission and the return. -/
def CallPhase.inFlight : CallPhase → Bool
  | .matched | .entered | .running => true
  | .waiting | .returned => false

structure Admissions where
  permits : Nat
  activeSagas : Nat
  calls : List CallPhase
  deriving DecidableEq

inductive AdmissionMove where
  | tryAcquire (call : Nat) (rateLimited : Bool)
  | leaveMatch (call : Nat)
  | installGuard (call : Nat)
  | returns (call : Nat)

/-- Permits that come back at the end of the statement that took one. -/
def OrchestratorKind.permitsAtMatchEnd : OrchestratorKind → Nat
  | .postgres => 1
  | .inMemory => 0

namespace Admissions

def start (maxConcurrentSagas calls : Nat) : Admissions :=
  ⟨maxConcurrentSagas, 0, List.replicate calls .waiting⟩

def inFlight (state : Admissions) : Nat := state.calls.countP CallPhase.inFlight

/-- One move. A move of a call that is not at that point does nothing. -/
def step (kind : OrchestratorKind) (state : Admissions) : AdmissionMove → Admissions
  | .tryAcquire call rateLimited =>
      if state.calls[call]? = some .waiting then
        if rateLimited ∨ state.permits = 0 then
          { state with calls := state.calls.set call .returned }
        else
          { state with permits := state.permits - 1, calls := state.calls.set call .matched }
      else state
  | .leaveMatch call =>
      if state.calls[call]? = some .matched then
        { state with
          permits := state.permits + kind.permitsAtMatchEnd
          calls := state.calls.set call .entered }
      else state
  | .installGuard call =>
      if state.calls[call]? = some .entered then
        { state with
          activeSagas := state.activeSagas + 1
          calls := state.calls.set call .running }
      else state
  | .returns call =>
      if state.calls[call]? = some .running then
        { state with
          permits := state.permits + 1
          activeSagas := state.activeSagas - 1
          calls := state.calls.set call .returned }
      else state

/-- No more calls in flight than allowed, and every permit accounted for. -/
def Within (maxConcurrentSagas : Nat) (state : Admissions) : Prop :=
  state.inFlight ≤ maxConcurrentSagas ∧
    state.permits + state.inFlight = maxConcurrentSagas

/-! ## Counting calls in flight -/

theorem count_set (after : CallPhase) {calls : List CallPhase} {call : Nat} {before : CallPhase}
    (found : calls[call]? = some before) :
    (calls.set call after).countP CallPhase.inFlight + (if before.inFlight then 1 else 0) =
      calls.countP CallPhase.inFlight + (if after.inFlight then 1 else 0) := by
  obtain ⟨bound, value⟩ := List.getElem?_eq_some_iff.mp found
  have counted : (if before.inFlight then 1 else 0) ≤ calls.countP CallPhase.inFlight := by
    split_ifs with flying
    · apply List.countP_pos_iff.mpr
      exact ⟨before, value ▸ List.getElem_mem bound, flying⟩
    · exact Nat.zero_le _
  rw [List.countP_set bound, value]
  omega

/-- Each move keeps the sum of permits and calls in flight, but for the permits
that come back at the end of the match. -/
theorem step_sum (kind : OrchestratorKind) (state : Admissions) (move : AdmissionMove) :
    (step kind state move).permits + (step kind state move).inFlight =
      state.permits + state.inFlight +
        match move with
        | .leaveMatch call =>
            if state.calls[call]? = some .matched then kind.permitsAtMatchEnd else 0
        | _ => 0 := by
  cases move with
  | tryAcquire call rateLimited =>
      simp only [step]
      split_ifs with waiting refused
      · have count := count_set .returned waiting
        simp only [CallPhase.inFlight] at count
        simp only [inFlight]
        simpa using count
      · have count := count_set .matched waiting
        simp only [CallPhase.inFlight] at count
        simp only [inFlight]
        rw [not_or] at refused
        have available := refused.2
        simp only [Bool.false_eq_true, if_false, if_true] at count
        omega
      · rfl
  | leaveMatch call =>
      simp only [step]
      split_ifs with matched
      · have count := count_set .entered matched
        simp only [CallPhase.inFlight, if_true] at count
        simp only [inFlight]
        omega
      · rfl
  | installGuard call =>
      simp only [step]
      split_ifs with entered
      · have count := count_set .running entered
        simp only [CallPhase.inFlight, if_true] at count
        simp only [inFlight]
        omega
      · rfl
  | returns call =>
      simp only [step]
      split_ifs with running
      · have count := count_set .returned running
        simp only [CallPhase.inFlight, if_true, Bool.false_eq_true, if_false] at count
        simp only [inFlight]
        omega
      · rfl

theorem start_within (maxConcurrentSagas calls : Nat) :
    Within maxConcurrentSagas (start maxConcurrentSagas calls) := by
  have idle : (start maxConcurrentSagas calls).inFlight = 0 := by
    unfold start inFlight
    rw [List.countP_replicate]
    rfl
  unfold Within
  rw [idle]
  exact ⟨Nat.zero_le _, rfl⟩

/-- The move takes an admitted call past the end of its match arm. -/
def PassesMatch (state : Admissions) (move : AdmissionMove) : Prop :=
  ∃ call, move = .leaveMatch call ∧ state.calls[call]? = some .matched

theorem postgres_step_within_iff (maxConcurrentSagas : Nat) (state : Admissions)
    (move : AdmissionMove) (within : Within maxConcurrentSagas state) :
    Within maxConcurrentSagas (step .postgres state move) ↔ ¬PassesMatch state move := by
  have sum := step_sum .postgres state move
  unfold Within at *
  constructor
  · intro after passes
    obtain ⟨call, same, matched⟩ := passes
    subst same
    simp only [matched, if_true, OrchestratorKind.permitsAtMatchEnd] at sum
    omega
  · intro keeps
    have kept : (step .postgres state move).permits + (step .postgres state move).inFlight =
        state.permits + state.inFlight := by
      cases move with
      | leaveMatch call =>
          have unmatched : ¬state.calls[call]? = some .matched := by
            intro matched
            exact keeps ⟨call, rfl, matched⟩
          simpa only [unmatched, if_false, Nat.add_zero] using sum
      | tryAcquire call rateLimited => exact sum
      | installGuard call => exact sum
      | returns call => exact sum
    omega

/-- In every interleaving of any number of calls, the bound and the permit
count hold throughout exactly when no admitted call gets past its match arm. -/
theorem postgres_admissions_within_iff (maxConcurrentSagas calls : Nat)
    (moves : List AdmissionMove) :
    Always (step .postgres) (Within maxConcurrentSagas) (start maxConcurrentSagas calls) moves ↔
      EachMove (step .postgres) (fun state move => ¬PassesMatch state move)
        (start maxConcurrentSagas calls) moves :=
  always_iff_each_move _ _ _ (postgres_step_within_iff maxConcurrentSagas) moves _
    (start_within maxConcurrentSagas calls)

/-- With one permit, two calls end up running at once. -/
theorem postgres_admits_two_calls_on_one_permit :
    ¬Always (step .postgres) (Within 1) (start 1 2)
      [.tryAcquire 0 false, .leaveMatch 0, .installGuard 0, .tryAcquire 1 false] := by
  intro always
  exact absurd always.2.2.2.2.1 (by decide)

/-- The sibling that keeps its permit stays within the bound. -/
theorem in_memory_admissions_within (maxConcurrentSagas calls : Nat)
    (moves : List AdmissionMove) :
    Always (step .inMemory) (Within maxConcurrentSagas) (start maxConcurrentSagas calls) moves := by
  apply always_of_preserved _ _ _ moves _ (start_within maxConcurrentSagas calls)
  intro state move within
  have sum := step_sum .inMemory state move
  have kept : (step .inMemory state move).permits + (step .inMemory state move).inFlight =
      state.permits + state.inFlight := by
    cases move with
    | leaveMatch call => simpa [OrchestratorKind.permitsAtMatchEnd] using sum
    | tryAcquire call rateLimited => exact sum
    | installGuard call => exact sum
    | returns call => exact sum
  unfold Within at *
  omega

end Admissions

end HodeiJobs.Sagas
