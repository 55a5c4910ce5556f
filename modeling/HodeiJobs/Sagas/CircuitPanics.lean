import HodeiJobs.Library.Panics
import HodeiJobs.Sagas.CircuitBreaker

/-!
# Where the circuit breaker of the saga consumers panics

The ring of recent results has a fixed number of slots, and the window over it is a
number of the configuration. The calls stand here again with every remainder and every
index checked, as the source checks them.
-/

namespace HodeiJobs.Sagas

open HodeiJobs.Library

namespace CircuitBreakerConfig

theorem standard_fits : 5 < 2 ^ 64 ∧ 3 < 2 ^ 64 := by decide

/-- `CircuitBreakerConfig::default`. -/
def standard : CircuitBreakerConfig where
  failureThreshold := 5
  openDuration := ⟨60 * 1000000000⟩
  successThreshold := 3
  failureRateThreshold := 50
  failureRateWindow := 100
  fits := standard_fits

def forSagaConsumer : CircuitBreakerConfig where
  failureThreshold := 5
  openDuration := ⟨30 * 1000000000⟩
  successThreshold := 2
  failureRateThreshold := 50
  failureRateWindow := 50
  fits := by decide

def highThroughput : CircuitBreakerConfig where
  failureThreshold := 10
  openDuration := ⟨10 * 1000000000⟩
  successThreshold := 5
  failureRateThreshold := 30
  failureRateWindow := 200
  fits := by decide

end CircuitBreakerConfig

structure CircuitBreakerStats where
  name : String
  state : CircuitState
  totalCalls : Nat
  totalFailures : Nat
  failureRate : ℚ
  consecutiveFailures : Nat

namespace CircuitBreaker

/-! ## The checked calls -/

/-- The circular buffer, on the way into `record_success` and `record_failure`. -/
def checkedRecordCall (breaker : CircuitBreaker) (result : CallResult) :
    Except Panic CircuitBreaker := do
  let slot ← remainder breaker.inner.callIndex breaker.config.failureRateWindow
  let recentCalls ← writeSlot breaker.inner.recentCalls slot result
  return { breaker with
    inner := { breaker.inner with
      totalCalls := (breaker.inner.totalCalls + 1) % 2 ^ 64
      recentCalls
      callIndex := (breaker.inner.callIndex + 1) % 2 ^ 64 } }

/-- The rest of `record_success`. -/
def settleSuccess (breaker : CircuitBreaker) : CircuitBreaker :=
  match breaker.inner.state with
  | .halfOpen =>
      let successes := (breaker.inner.consecutiveSuccesses + 1) % 2 ^ 64
      let inner := { breaker.inner with consecutiveSuccesses := successes }
      if breaker.config.successThreshold ≤ successes then
        { breaker with inner := { inner with state := .closed, consecutiveFailures := 0 } }
      else { breaker with inner := inner }
  | .closed => { breaker with inner := { breaker.inner with consecutiveFailures := 0 } }
  | .open => breaker

def checkedRecordSuccess (breaker : CircuitBreaker) : Except Panic CircuitBreaker := do
  let recorded ← breaker.checkedRecordCall .success
  return recorded.settleSuccess

/-- The failures and the slots counted so far. -/
def tally (counted : Nat × Nat) (result : CallResult) : Nat × Nat :=
  (if result = .failure then counted.1 + 1 else counted.1, counted.2 + 1)

def checkedFailureRate (breaker : CircuitBreaker) : Except Panic ℚ := do
  let (failures, total) ←
    foldSlots breaker.inner.recentCalls tally (0, 0) breaker.config.failureRateWindow
  return if total = 0 then 0 else (failures : ℚ) / total * 100

/-- The two counters that only a failure moves. -/
def addFailure (breaker : CircuitBreaker) : CircuitBreaker :=
  { breaker with
    inner := { breaker.inner with
      totalFailures := (breaker.inner.totalFailures + 1) % 2 ^ 64
      consecutiveFailures := (breaker.inner.consecutiveFailures + 1) % 2 ^ 64 } }

/-- The check of `record_failure` on the number of failures. -/
def checkFailures (counted : CircuitBreaker) (now : Nat) : CircuitBreaker :=
  if counted.config.failureThreshold ≤ counted.inner.consecutiveFailures then
    counted.openCircuit now
  else counted

/-- The rest of `record_failure`. -/
def checkedSettleFailure (counted : CircuitBreaker) (now : Nat) : Except Panic CircuitBreaker :=
  match counted.inner.state with
  | .closed => do
      let checked := counted.checkFailures now
      let rate ← checked.checkedFailureRate
      return if (checked.config.failureRateThreshold : ℚ) ≤ rate then checked.openCircuit now
        else checked
  | .halfOpen => .ok (counted.openCircuit now)
  | .open => .ok counted

def checkedRecordFailure (breaker : CircuitBreaker) (now : Nat) :
    Except Panic CircuitBreaker := do
  let recorded ← breaker.checkedRecordCall .failure
  recorded.addFailure.checkedSettleFailure now

/-- `stats` reads the state first, and so may move it. -/
def stats (breaker : CircuitBreaker) (name : String) (now : Nat) :
    Except Panic (CircuitBreakerStats × CircuitBreaker) := do
  let (state, read) := breaker.state now
  let failureRate ← read.checkedFailureRate
  return (⟨name, state, read.inner.totalCalls, read.inner.totalFailures, failureRate,
    read.inner.consecutiveFailures⟩, read)

end CircuitBreaker

inductive BreakerCall where
  | call (call : CircuitCall)
  | stats (name : String) (now : Nat)

namespace BreakerCall

/-- `stats` moves the breaker as `state` does. -/
def plain : BreakerCall → CircuitCall
  | .call made => made
  | .stats _ now => .state now

def recordsSuccess : BreakerCall → Bool
  | .call (.recordSuccess _) => true
  | _ => false

def recordsFailure : BreakerCall → Bool
  | .call (.recordFailure _) => true
  | _ => false

def isStats : BreakerCall → Bool
  | .stats _ _ => true
  | .call _ => false

/-- None of the calls goes over the whole window, and the successes fit in the slots after
those that are used. -/
def FitAfter (used : Nat) (calls : List BreakerCall) : Prop :=
  (∀ call ∈ calls, call.recordsFailure = false ∧ call.isStats = false) ∧
    used + calls.countP (·.recordsSuccess) ≤ 100

theorem fit_after_success (used now : Nat) (calls : List BreakerCall) :
    FitAfter used (.call (.recordSuccess now) :: calls) ↔ FitAfter (used + 1) calls := by
  unfold FitAfter
  have another : (BreakerCall.call (.recordSuccess now) :: calls).countP (·.recordsSuccess) =
      calls.countP (·.recordsSuccess) + 1 := List.countP_cons_of_pos rfl
  rw [List.forall_mem_cons, another, Nat.add_right_comm, ← Nat.add_assoc]
  exact and_congr_left' (and_iff_right ⟨rfl, rfl⟩)

end BreakerCall

/-- The calls under which no access goes wrong, by the window of the configuration. -/
def CircuitBreakerConfig.InBounds (config : CircuitBreakerConfig) (calls : List BreakerCall) :
    Prop :=
  if config.failureRateWindow = 0 then
    ∀ call ∈ calls, call.recordsSuccess = false ∧ call.recordsFailure = false
  else 100 < config.failureRateWindow → BreakerCall.FitAfter 0 calls

namespace CircuitBreaker

def checkedAfter (breaker : CircuitBreaker) : BreakerCall → Except Panic CircuitBreaker
  | .call (.recordSuccess _) => breaker.checkedRecordSuccess
  | .call (.recordFailure now) => breaker.checkedRecordFailure now
  | .call call => .ok (breaker.after call)
  | .stats name now => (breaker.stats name now).map Prod.snd

/-- The slot that the next result goes to. -/
def HasSlot (breaker : CircuitBreaker) : Prop :=
  0 < breaker.config.failureRateWindow ∧
    breaker.inner.callIndex % breaker.config.failureRateWindow <
      breaker.inner.recentCalls.length

/-- The window reaches over no slot that is missing. -/
def HasWindow (breaker : CircuitBreaker) : Prop :=
  breaker.config.failureRateWindow ≤ breaker.inner.recentCalls.length

/-- The call accesses slots that exist. -/
def Safe (breaker : CircuitBreaker) : BreakerCall → Prop
  | .call (.recordSuccess _) => breaker.HasSlot
  | .call (.recordFailure _) =>
      breaker.HasSlot ∧ (breaker.inner.state = .closed → breaker.HasWindow)
  | .call _ => True
  | .stats _ _ => breaker.HasWindow

def advance (breaker : CircuitBreaker) (call : BreakerCall) : CircuitBreaker :=
  breaker.after call.plain

/-! ## One call -/

section Calls

variable {breaker next : CircuitBreaker} {now : Nat}

theorem checked_record_call_ok {result : CallResult} :
    breaker.checkedRecordCall result = .ok next ↔
      breaker.HasSlot ∧ next = breaker.recordCall result := by
  unfold checkedRecordCall HasSlot
  simp only [bind_eq_ok, remainder_eq_ok_iff, write_slot_eq_ok_iff, pure, Except.pure,
    Except.ok.injEq]
  constructor
  · rintro ⟨slot, ⟨positive, rfl⟩, recentCalls, ⟨inside, rfl⟩, rfl⟩
    exact ⟨⟨positive, inside⟩, rfl⟩
  · rintro ⟨⟨positive, inside⟩, rfl⟩
    exact ⟨_, ⟨positive, rfl⟩, _, ⟨inside, rfl⟩, rfl⟩

theorem tally_fold (results : List CallResult) (counted : Nat × Nat) :
    results.foldl tally counted =
      (counted.1 + results.count .failure, counted.2 + results.length) := by
  induction results generalizing counted with
  | nil => rfl
  | cons result rest ih =>
      rw [List.foldl_cons, ih]
      cases result <;> simp [tally] <;> omega

theorem checked_failure_rate_ok {rate : ℚ} :
    breaker.checkedFailureRate = .ok rate ↔ breaker.HasWindow ∧ rate = breaker.failureRate := by
  unfold checkedFailureRate HasWindow failureRate
  rw [fold_slots_eq, tally_fold]
  split_ifs with reaches
  · simp only [bind, Except.bind, pure, Except.pure, Except.ok.injEq, Nat.zero_add, reaches,
      true_and, eq_comm]
  · simp [bind, Except.bind, reaches]

theorem checked_record_success_ok :
    breaker.checkedRecordSuccess = .ok next ↔
      breaker.HasSlot ∧ next = breaker.recordSuccess := by
  have settled : (breaker.recordCall .success).settleSuccess = breaker.recordSuccess := rfl
  unfold checkedRecordSuccess
  simp only [bind_eq_ok, checked_record_call_ok, pure, Except.pure, Except.ok.injEq]
  constructor
  · rintro ⟨recorded, ⟨slot, rfl⟩, rfl⟩
    exact ⟨slot, settled⟩
  · rintro ⟨slot, rfl⟩
    exact ⟨_, ⟨slot, rfl⟩, settled⟩

/-- Opening the circuit touches no slot. -/
theorem open_circuit_window : (breaker.openCircuit now).HasWindow ↔ breaker.HasWindow := Iff.rfl

theorem count_failure_window : breaker.countFailure.HasWindow ↔ breaker.HasWindow := by
  have length : breaker.countFailure.inner.recentCalls.length =
      breaker.inner.recentCalls.length := List.length_set
  unfold HasWindow
  rw [length]
  rfl

/-- The check on the rate, after which the breaker is `rated`. -/
theorem checked_rate_ok {rated : ℚ → CircuitBreaker} :
    (do let rate ← breaker.checkedFailureRate; return rated rate) = .ok next ↔
      breaker.HasWindow ∧ next = rated breaker.failureRate := by
  simp only [bind_eq_ok, checked_failure_rate_ok, pure, Except.pure, Except.ok.injEq]
  constructor
  · rintro ⟨rate, ⟨reaches, rfl⟩, rfl⟩
    exact ⟨reaches, rfl⟩
  · rintro ⟨reaches, rfl⟩
    exact ⟨_, ⟨reaches, rfl⟩, rfl⟩

theorem check_failures_window : (breaker.checkFailures now).HasWindow ↔ breaker.HasWindow := by
  unfold checkFailures
  split_ifs
  · exact open_circuit_window
  · exact Iff.rfl

theorem checked_settle_failure_ok :
    breaker.countFailure.checkedSettleFailure now = .ok next ↔
      (breaker.inner.state = .closed → breaker.HasWindow) ∧ next = breaker.recordFailure now := by
  unfold checkedSettleFailure recordFailure
  simp only [count_failure_state]
  cases stored : breaker.inner.state with
  | closed =>
      rw [checked_rate_ok, check_failures_window, count_failure_window]
      simp only [forall_const]
      rfl
  | halfOpen => simp [eq_comm]
  | «open» => simp [eq_comm]

theorem checked_record_failure_ok :
    breaker.checkedRecordFailure now = .ok next ↔
      (breaker.HasSlot ∧ (breaker.inner.state = .closed → breaker.HasWindow)) ∧
        next = breaker.recordFailure now := by
  unfold checkedRecordFailure
  rw [bind_eq_ok, and_assoc]
  constructor
  · rintro ⟨recorded, made, settled⟩
    obtain ⟨slot, rfl⟩ := checked_record_call_ok.mp made
    exact ⟨slot, checked_settle_failure_ok.mp settled⟩
  · rintro ⟨slot, settled⟩
    exact ⟨_, checked_record_call_ok.mpr ⟨slot, rfl⟩, checked_settle_failure_ok.mpr settled⟩

theorem stats_ok {name : String} :
    (breaker.stats name now).map Prod.snd = .ok next ↔
      breaker.HasWindow ∧ next = (breaker.state now).2 := by
  have sameWindow : (breaker.state now).2.HasWindow ↔ breaker.HasWindow := by
    unfold state
    cases breaker.inner.state with
    | closed => exact Iff.rfl
    | halfOpen => exact Iff.rfl
    | «open» => split_ifs <;> exact Iff.rfl
  rw [← sameWindow]
  unfold stats
  by_cases reaches : (breaker.state now).2.HasWindow
  · have rate := checked_failure_rate_ok.mpr ⟨reaches, rfl⟩
    simp [rate, bind, Except.bind, pure, Except.pure, Except.map, reaches, eq_comm]
  · cases rate : (breaker.state now).2.checkedFailureRate with
    | error panic => simp [rate, bind, Except.bind, Except.map, reaches]
    | ok value => exact absurd (checked_failure_rate_ok.mp rate).1 reaches

/-- A checked call ends well exactly if it is safe, and then as the call of the model
without checks does. -/
theorem checked_after_ok (breaker : CircuitBreaker) (call : BreakerCall) (next : CircuitBreaker) :
    breaker.checkedAfter call = .ok next ↔ breaker.Safe call ∧ next = breaker.advance call := by
  cases call with
  | stats name now => exact stats_ok
  | call made =>
      cases made with
      | recordSuccess now => exact checked_record_success_ok
      | recordFailure now => exact checked_record_failure_ok
      | state now => simp [checkedAfter, Safe, advance, BreakerCall.plain, eq_comm]
      | allowRequest now => simp [checkedAfter, Safe, advance, BreakerCall.plain, eq_comm]

theorem advance_config (call : BreakerCall) :
    (breaker.advance call).config = breaker.config :=
  (moves_buffer (moves_after breaker call.plain)).1

theorem advance_slots (call : BreakerCall) :
    (breaker.advance call).inner.recentCalls.length = breaker.inner.recentCalls.length := by
  rcases (moves_buffer (moves_after breaker call.plain)).2 with
    ⟨_, same, _⟩ | ⟨result, _, same, _⟩
  · exact congrArg List.length same
  · exact (congrArg List.length same).trans List.length_set

end Calls

/-! ## Runs of calls -/

section Runs

variable {breaker : CircuitBreaker} {calls : List BreakerCall}

/-- A window of at least one slot and no more than there are is always safe. -/
theorem each_safe_inside (positive : 0 < breaker.config.failureRateWindow)
    (reaches : breaker.HasWindow) : EachMove advance Safe breaker calls := by
  induction calls generalizing breaker with
  | nil => trivial
  | cons call rest ih =>
      have slot : breaker.HasSlot :=
        ⟨positive, lt_of_lt_of_le (Nat.mod_lt _ positive) reaches⟩
      have safe : breaker.Safe call := by
        cases call with
        | stats name now => exact reaches
        | call made =>
            cases made with
            | recordSuccess now => exact slot
            | recordFailure now => exact ⟨slot, fun _ => reaches⟩
            | state now => trivial
            | allowRequest now => trivial
      refine ⟨safe, ih ?_ ?_⟩
      · rw [advance_config]
        exact positive
      · unfold HasWindow
        rw [advance_config, advance_slots]
        exact reaches

/-- Without a window no result can be recorded, and nothing else matters. -/
theorem each_safe_empty (empty : breaker.config.failureRateWindow = 0) :
    EachMove advance Safe breaker calls ↔
      ∀ call ∈ calls, call.recordsSuccess = false ∧ call.recordsFailure = false := by
  induction calls generalizing breaker with
  | nil => simp [EachMove]
  | cons call rest ih =>
      have stillEmpty : (breaker.advance call).config.failureRateWindow = 0 := by
        rw [advance_config, empty]
      have later := ih stillEmpty
      have noSlot : ¬breaker.HasSlot := fun slot => by
        rw [HasSlot, empty] at slot
        exact absurd slot.1 (Nat.lt_irrefl 0)
      have safe : breaker.Safe call ↔
          call.recordsSuccess = false ∧ call.recordsFailure = false := by
        cases call with
        | stats name now =>
            have reaches : breaker.HasWindow := by
              rw [HasWindow, empty]
              exact Nat.zero_le _
            simp [Safe, reaches, BreakerCall.recordsSuccess, BreakerCall.recordsFailure]
        | call made =>
            cases made <;>
              simp [Safe, noSlot, BreakerCall.recordsSuccess, BreakerCall.recordsFailure]
      rw [List.forall_mem_cons, ← safe, ← later]
      rfl

theorem advance_read (closed : breaker.inner.state = .closed) {call : BreakerCall}
    (reads : call.plain.recorded = []) : breaker.advance call = breaker := by
  have same (now : Nat) : (breaker.state now).2 = breaker := by
    simp only [state, closed]
  unfold advance
  cases plain : call.plain with
  | state now => exact same now
  | allowRequest now =>
      rw [after_allow_request]
      exact same now
  | recordSuccess now =>
      rw [plain] at reads
      cases reads
  | recordFailure now =>
      rw [plain] at reads
      cases reads

theorem record_success_closed (closed : breaker.inner.state = .closed) :
    breaker.recordSuccess.inner.state = .closed ∧
      breaker.recordSuccess.inner.callIndex = (breaker.inner.callIndex + 1) % 2 ^ 64 := by
  simp only [recordSuccess, recordCall, closed, and_self]

/-- Where the window is larger than the ring, a closed circuit takes as many successes as
there are slots left, no failure and no question for statistics. -/
theorem each_safe_beyond (closed : breaker.inner.state = .closed)
    (slots : breaker.inner.recentCalls.length = 100)
    (beyond : 100 < breaker.config.failureRateWindow) (used : breaker.inner.callIndex ≤ 100) :
    EachMove advance Safe breaker calls ↔
      BreakerCall.FitAfter breaker.inner.callIndex calls := by
  have noWindow : ¬breaker.HasWindow := by
    unfold HasWindow
    omega
  induction calls generalizing breaker with
  | nil => simpa [EachMove, BreakerCall.FitAfter] using used
  | cons call rest ih =>
      have refused (wrong : ¬breaker.Safe call)
          (excluded : ¬(call.recordsFailure = false ∧ call.isStats = false)) :
          EachMove advance Safe breaker (call :: rest) ↔
            BreakerCall.FitAfter breaker.inner.callIndex (call :: rest) :=
        iff_of_false (fun each => wrong each.1)
          (fun fit => excluded (fit.1 call List.mem_cons_self))
      have read (reads : call.plain.recorded = []) (safe : breaker.Safe call)
          (kind : call.recordsFailure = false ∧ call.isStats = false ∧
            call.recordsSuccess = false) :
          EachMove advance Safe breaker (call :: rest) ↔
            BreakerCall.FitAfter breaker.inner.callIndex (call :: rest) := by
        have later := ih closed slots beyond used noWindow
        simp only [EachMove, safe, true_and, advance_read closed reads, later,
          BreakerCall.FitAfter, List.forall_mem_cons, kind, List.countP_cons, and_self,
          Bool.false_eq_true, if_false, Nat.add_zero]
      cases call with
      | stats name now => exact refused noWindow (by simp [BreakerCall.isStats])
      | call made =>
          cases made with
          | state now => exact read rfl trivial ⟨rfl, rfl, rfl⟩
          | allowRequest now => exact read rfl trivial ⟨rfl, rfl, rfl⟩
          | recordFailure now =>
              exact refused (fun safe => noWindow (safe.2 closed))
                (by simp [BreakerCall.recordsFailure])
          | recordSuccess now =>
              rw [BreakerCall.fit_after_success]
              by_cases room : breaker.inner.callIndex < 100
              · obtain ⟨stillClosed, index⟩ := record_success_closed closed
                have index : breaker.recordSuccess.inner.callIndex =
                    breaker.inner.callIndex + 1 := by omega
                have slot : breaker.HasSlot := by
                  refine ⟨by omega, ?_⟩
                  rw [Nat.mod_eq_of_lt (by omega), slots]
                  exact room
                have sameWindow : breaker.recordSuccess.config = breaker.config :=
                  advance_config (.call (.recordSuccess now))
                have sameSlots : breaker.recordSuccess.inner.recentCalls.length = 100 :=
                  (advance_slots (.call (.recordSuccess now))).trans slots
                have later := ih stillClosed sameSlots (by rwa [sameWindow]) (by omega) (by
                  rwa [HasWindow, sameWindow, sameSlots, ← slots])
                rw [index] at later
                exact (and_iff_right slot).trans later
              · -- The index has reached the slot after the last.
                have full : breaker.inner.callIndex = 100 := by omega
                have noSlot : ¬breaker.HasSlot := by
                  intro slot
                  have inside := slot.2
                  rw [full, slots, Nat.mod_eq_of_lt beyond] at inside
                  omega
                apply iff_of_false
                · intro each
                  exact noSlot each.1
                · intro fit
                  have total := fit.2
                  omega

/-- Every access of a run is in bounds exactly under the configurations and calls above. -/
theorem each_safe_iff (config : CircuitBreakerConfig) (calls : List BreakerCall) :
    EachMove advance Safe (new config) calls ↔ config.InBounds calls := by
  unfold CircuitBreakerConfig.InBounds
  split_ifs with empty
  · exact each_safe_empty empty
  · by_cases beyond : 100 < config.failureRateWindow
    · rw [forall_prop_of_true beyond]
      exact each_safe_beyond rfl rfl beyond (Nat.zero_le _)
    · have reaches : (new config).HasWindow := Nat.le_of_not_lt beyond
      exact iff_of_true (each_safe_inside (Nat.pos_of_ne_zero empty) reaches)
        (fun larger => absurd larger beyond)

/-- No call panics, whatever calls are made, exactly if the window is neither empty nor
larger than the ring. -/
theorem always_safe_iff (config : CircuitBreakerConfig) :
    (∀ calls, EachMove advance Safe (new config) calls) ↔
      0 < config.failureRateWindow ∧ config.failureRateWindow ≤ 100 := by
  constructor
  · intro always
    have slot : (new config).HasSlot := (always [.call (.recordSuccess 0)]).1
    have reaches : (new config).HasWindow := (always [.stats "" 0]).1
    exact ⟨slot.1, reaches⟩
  · intro ⟨positive, reaches⟩ calls
    exact each_safe_inside positive reaches

example : ∀ calls, EachMove advance Safe (new .standard) calls :=
  (always_safe_iff .standard).mpr (by decide)

example : ∀ calls, EachMove advance Safe (new .forSagaConsumer) calls :=
  (always_safe_iff .forSagaConsumer).mpr (by decide)

/-- A run of calls ends without a panic exactly if the window has slots for its results, and
all its slots are in the ring wherever a call goes over them. -/
theorem no_panic_iff (config : CircuitBreakerConfig) (calls : List BreakerCall) :
    (∃ final, calls.foldlM checkedAfter (new config) = .ok final) ↔ config.InBounds calls := by
  rw [← each_safe_iff]
  constructor
  · intro ⟨final, ended⟩
    exact ((fold_m_ok_iff checked_after_ok calls _ final).mp ended).1
  · intro safe
    exact ⟨_, (fold_m_ok_iff checked_after_ok calls _ _).mpr ⟨safe, rfl⟩⟩

/-- Under `high_throughput` the first failure panics. -/
theorem high_throughput_panics :
    ¬∀ (config : CircuitBreakerConfig) (calls : List BreakerCall),
      ∃ final, calls.foldlM checkedAfter (new config) = .ok final := by
  intro never
  obtain ⟨final, ended⟩ := never .highThroughput [.call (.recordFailure 0)]
  have safe := ((fold_m_ok_iff checked_after_ok _ _ final).mp ended).1.1
  have reaches : 200 ≤ 100 := safe.2 rfl
  exact absurd reaches (by decide)

end Runs
end CircuitBreaker
end HodeiJobs.Sagas
