import Mathlib.Algebra.Order.Archimedean.Basic
import Mathlib.Data.Rat.Floor
import Mathlib.Tactic.Linarith
import HodeiJobs.Library.Runs
import HodeiJobs.Sagas.Types

/-!
# The token bucket

`TokenBucketRateLimiter` of the in-memory orchestrator, its `f64` values read as
rationals. `refill` adds the tokens of the whole time since the limiter was made
and `last_refill` is never moved, so a later call is given the same tokens again.
The calls made so far, their kinds and times, say what the counter holds: it is
the largest surplus of tokens over attempts since some call, or since the full
bucket at the start.
-/

namespace HodeiJobs.Sagas

open HodeiJobs.Library

/-- The number of values of a `usize`. -/
def usizeRange : Nat := 2 ^ 64

structure RateLimitConfig where
  maxPermits : Nat
  window : Duration
  refillRate : ℚ
  fits : maxPermits < usizeRange

/-- `last_refill` is an instant in nanoseconds. -/
structure TokenBucketRateLimiter where
  permits : Nat
  maxPermits : Nat
  refillRate : ℚ
  lastRefill : Nat
  window : Duration

namespace TokenBucketRateLimiter

def new (config : RateLimitConfig) (now : Nat) : TokenBucketRateLimiter where
  permits := config.maxPermits
  maxPermits := config.maxPermits
  refillRate := config.refillRate
  lastRefill := now
  window := config.window

/-- `(intervals * self.refill_rate) as usize`, which saturates. Over an empty window
the quotient is infinite, and not a number if there is nothing to multiply. -/
def tokensFor (limiter : TokenBucketRateLimiter) (elapsed : Nat) : Nat :=
  if limiter.window.nanos = 0 then
    if 0 < elapsed ∧ 0 < limiter.refillRate then usizeRange - 1 else 0
  else
    min ⌊(elapsed : ℚ) / limiter.window.nanos * limiter.refillRate⌋.toNat (usizeRange - 1)

/-- The tokens that a refill adds to the counter. -/
def added (limiter : TokenBucketRateLimiter) (now : Nat) : Nat :=
  let elapsed := now - limiter.lastRefill
  if limiter.window.nanos ≤ elapsed then min (limiter.tokensFor elapsed) limiter.maxPermits else 0

def refill (limiter : TokenBucketRateLimiter) (now : Nat) : TokenBucketRateLimiter :=
  if limiter.window.nanos ≤ now - limiter.lastRefill then
    { limiter with
      permits := (min limiter.permits limiter.maxPermits + limiter.added now) % usizeRange }
  else limiter

/-- Whether a permit was taken. -/
def tryAcquire (limiter : TokenBucketRateLimiter) (now : Nat) : Bool × TokenBucketRateLimiter :=
  let refilled := limiter.refill now
  if 0 < refilled.permits then (true, { refilled with permits := refilled.permits - 1 })
  else (false, refilled)

def remaining (limiter : TokenBucketRateLimiter) (now : Nat) : Nat × TokenBucketRateLimiter :=
  let refilled := limiter.refill now
  (min refilled.permits refilled.maxPermits, refilled)

end TokenBucketRateLimiter

/-! ## Runs of calls -/

inductive LimiterCall where
  | tryAcquire (now : Nat)
  | remaining (now : Nat)

def LimiterCall.now : LimiterCall → Nat
  | .tryAcquire now | .remaining now => now

def LimiterCall.isAttempt : LimiterCall → Bool
  | .tryAcquire _ => true
  | .remaining _ => false

/-- The limiter, the time of the last call, the permits taken and the calls so far. -/
structure Usage where
  limiter : TokenBucketRateLimiter
  clock : Nat
  acquired : Nat
  history : List LimiterCall

namespace Usage

def start (config : RateLimitConfig) (now : Nat) : Usage :=
  ⟨.new config now, now, 0, []⟩

def step (usage : Usage) (call : LimiterCall) : Usage :=
  match call with
  | .tryAcquire now =>
      let (taken, limiter) := usage.limiter.tryAcquire now
      ⟨limiter, now, if taken then usage.acquired + 1 else usage.acquired,
        usage.history ++ [call]⟩
  | .remaining now =>
      ⟨(usage.limiter.remaining now).2, now, usage.acquired, usage.history ++ [call]⟩

def InOrder (usage : Usage) (call : LimiterCall) : Prop := usage.clock ≤ call.now

/-- At no time from the last call on are more permits taken than the bucket and the
rate allow. Both sides are multiplied by the window, which may be empty. -/
def WithinRate (config : RateLimitConfig) (created : Nat) (usage : Usage) : Prop :=
  ∀ now, usage.clock ≤ now →
    (usage.acquired : ℚ) * config.window.nanos ≤
      config.maxPermits * config.window.nanos + config.refillRate * ((now - created : Nat) : ℚ)

/-- The counter stays within its maximum, also between the refill and the rest of
the call. -/
def CounterWithin (usage : Usage) (call : LimiterCall) : Prop :=
  (usage.limiter.refill call.now).permits ≤ usage.limiter.maxPermits ∧
    (usage.step call).limiter.permits ≤ usage.limiter.maxPermits

end Usage

/-! ## What the calls ask for and bring -/

/-- The tokens of the time since the limiter was made, once the window has passed,
up to a full bucket. -/
def RateLimitConfig.tokensAt (config : RateLimitConfig) (elapsed : Nat) : Nat :=
  if elapsed < config.window.nanos then 0
  else if config.window.nanos = 0 then
    if 0 < elapsed ∧ 0 < config.refillRate then config.maxPermits else 0
  else min ⌊(elapsed : ℚ) / config.window.nanos * config.refillRate⌋.toNat config.maxPermits

def RateLimitConfig.credits (config : RateLimitConfig) (created : Nat)
    (calls : List LimiterCall) : Nat :=
  (calls.map fun call => config.tokensAt (call.now - created)).sum

def attempts (calls : List LimiterCall) : Nat := calls.countP LimiterCall.isAttempt

/-- There is room for the tokens of a call: the calls before it ask for as many
permits as all of them bring, and those since any call for as many but a full
bucket. -/
def RoomFor (config : RateLimitConfig) (created : Nat) (history : List LimiterCall)
    (call : LimiterCall) : Prop :=
  config.credits created (history ++ [call]) ≤ attempts history ∧
    ∀ count ≤ history.length, config.credits created (history.drop count ++ [call]) ≤
      attempts (history.drop count) + config.maxPermits

/-- The rate allows what the calls ask for, or what some of them bring with what the
calls after these ask for. -/
def RateAllows (config : RateLimitConfig) (created : Nat) (history : List LimiterCall)
    (elapsed : Nat) : Prop :=
  (attempts history : ℚ) * config.window.nanos ≤
      config.maxPermits * config.window.nanos + config.refillRate * elapsed ∨
    ∃ count ≤ history.length,
      ((config.credits created (history.take count) + attempts (history.drop count) : Nat) : ℚ) *
        config.window.nanos ≤ config.refillRate * elapsed

instance (config : RateLimitConfig) (created : Nat) (history : List LimiterCall)
    (call : LimiterCall) : Decidable (RoomFor config created history call) :=
  inferInstanceAs (Decidable (_ ∧ _))

instance (config : RateLimitConfig) (created : Nat) (history : List LimiterCall)
    (elapsed : Nat) : Decidable (RateAllows config created history elapsed) :=
  inferInstanceAs (Decidable (_ ∨ _))

theorem tokens_at_le (config : RateLimitConfig) (elapsed : Nat) :
    config.tokensAt elapsed ≤ config.maxPermits := by
  unfold RateLimitConfig.tokensAt
  split_ifs
  · exact Nat.zero_le _
  · exact Nat.le_refl _
  · exact Nat.zero_le _
  · exact Nat.min_le_right _ _

theorem credits_append (config : RateLimitConfig) (created : Nat)
    (earlier later : List LimiterCall) :
    config.credits created (earlier ++ later) =
      config.credits created earlier + config.credits created later := by
  unfold RateLimitConfig.credits
  rw [List.map_append, List.sum_append]

theorem credits_single (config : RateLimitConfig) (created : Nat) (call : LimiterCall) :
    config.credits created [call] = config.tokensAt (call.now - created) :=
  List.sum_singleton

theorem credits_take_drop (config : RateLimitConfig) (created : Nat) (calls : List LimiterCall)
    (count : Nat) :
    config.credits created (calls.take count) + config.credits created (calls.drop count) =
      config.credits created calls := by
  rw [← credits_append, List.take_append_drop]

theorem attempts_append (earlier later : List LimiterCall) :
    attempts (earlier ++ later) = attempts earlier + attempts later :=
  List.countP_append

namespace Usage

/-! ## The accounts -/

/-- The limiter was made from the configuration, and its counter is the largest
surplus of tokens over attempts. -/
structure Balanced (config : RateLimitConfig) (created : Nat) (usage : Usage) : Prop where
  maxPermits : usage.limiter.maxPermits = config.maxPermits
  refillRate : usage.limiter.refillRate = config.refillRate
  window : usage.limiter.window = config.window
  lastRefill : usage.limiter.lastRefill = created
  started : created ≤ usage.clock
  within : usage.limiter.permits ≤ config.maxPermits
  accounted : usage.acquired + usage.limiter.permits =
    config.maxPermits + config.credits created usage.history
  full : config.maxPermits + config.credits created usage.history ≤
    usage.limiter.permits + attempts usage.history
  since : ∀ count ≤ usage.history.length, config.credits created (usage.history.drop count) ≤
    usage.limiter.permits + attempts (usage.history.drop count)
  attained : usage.limiter.permits + attempts usage.history =
      config.maxPermits + config.credits created usage.history ∨
    ∃ count ≤ usage.history.length, usage.limiter.permits + attempts (usage.history.drop count) =
      config.credits created (usage.history.drop count)

section Step

variable {config : RateLimitConfig} {created : Nat} {usage : Usage} {call : LimiterCall}

theorem balanced_start : Balanced config created (start config created) := by
  constructor <;> simp [start, TokenBucketRateLimiter.new, RateLimitConfig.credits, attempts]

/-- The fields that no call changes. -/
theorem refill_fields (limiter : TokenBucketRateLimiter) (now : Nat) :
    (limiter.refill now).maxPermits = limiter.maxPermits ∧
      (limiter.refill now).refillRate = limiter.refillRate ∧
      (limiter.refill now).window = limiter.window ∧
      (limiter.refill now).lastRefill = limiter.lastRefill := by
  unfold TokenBucketRateLimiter.refill
  split_ifs <;> exact ⟨rfl, rfl, rfl, rfl⟩

/-- The cast to `usize` saturates above every bucket. -/
theorem added_eq (balanced : Balanced config created usage) (now : Nat) :
    usage.limiter.added now = config.tokensAt (now - created) := by
  have fits := config.fits
  unfold TokenBucketRateLimiter.added TokenBucketRateLimiter.tokensFor RateLimitConfig.tokensAt
  rw [balanced.window, balanced.maxPermits, balanced.refillRate, balanced.lastRefill]
  dsimp only
  split_ifs <;> omega

theorem refill_permits (balanced : Balanced config created usage) (now : Nat) :
    (usage.limiter.refill now).permits =
      (usage.limiter.permits + config.tokensAt (now - created)) % usizeRange := by
  have full : min usage.limiter.permits usage.limiter.maxPermits = usage.limiter.permits := by
    rw [balanced.maxPermits]
    exact Nat.min_eq_left balanced.within
  rw [← added_eq balanced]
  by_cases due : usage.limiter.window.nanos ≤ now - usage.limiter.lastRefill
  · simp only [TokenBucketRateLimiter.refill, if_pos due, full]
  · have nothing : usage.limiter.added now = 0 := by
      simp only [TokenBucketRateLimiter.added, if_neg due]
    simp only [TokenBucketRateLimiter.refill, if_neg due, nothing, Nat.add_zero]
    exact (Nat.mod_eq_of_lt (Nat.lt_of_le_of_lt balanced.within config.fits)).symm

/-- The counter has room for the tokens exactly if the calls so far leave room. -/
theorem room_iff (balanced : Balanced config created usage) :
    usage.limiter.permits + config.tokensAt (call.now - created) ≤ config.maxPermits ↔
      RoomFor config created usage.history call := by
  have full := balanced.full
  unfold RoomFor
  simp only [credits_append, credits_single]
  constructor
  · intro room
    refine ⟨by omega, ?_⟩
    intro count bound
    have surplus := balanced.since count bound
    omega
  · intro ⟨sinceStart, sinceCall⟩
    rcases balanced.attained with filled | ⟨count, bound, surplus⟩
    · omega
    · have room := sinceCall count bound
      omega

/-- The permits taken are within the rate exactly if the rate allows the calls. -/
theorem within_rate_iff (balanced : Balanced config created usage) (rate : 0 ≤ config.refillRate) :
    usage.WithinRate config created ↔
      RateAllows config created usage.history (usage.clock - created) := by
  have accounted := balanced.accounted
  have window : (0 : ℚ) ≤ config.window.nanos := Nat.cast_nonneg _
  have taken_le : ∀ {bound : Nat}, usage.acquired ≤ bound →
      (usage.acquired : ℚ) * config.window.nanos ≤ bound * config.window.nanos := by
    intro bound below
    exact mul_le_mul_of_nonneg_right (by exact_mod_cast below) window
  constructor
  · intro within
    have now := within usage.clock (Nat.le_refl _)
    rcases balanced.attained with filled | ⟨count, bound, surplus⟩
    · left
      have same : usage.acquired = attempts usage.history := by omega
      rwa [same] at now
    · refine .inr ⟨count, bound, ?_⟩
      have split := credits_take_drop config created usage.history count
      have same : usage.acquired = config.maxPermits +
          (config.credits created (usage.history.take count) +
            attempts (usage.history.drop count)) := by omega
      rw [same, Nat.cast_add, add_mul] at now
      exact le_of_add_le_add_left now
  · intro allows now later
    have elapsed : ((usage.clock - created : Nat) : ℚ) ≤ ((now - created : Nat) : ℚ) := by
      exact_mod_cast (by omega : usage.clock - created ≤ now - created)
    have waited := mul_le_mul_of_nonneg_left elapsed rate
    rcases allows with few | ⟨count, bound, kept⟩
    · have full := balanced.full
      have taken := taken_le (by omega : usage.acquired ≤ attempts usage.history)
      linarith
    · have split := credits_take_drop config created usage.history count
      have surplus := balanced.since count bound
      have taken := taken_le (by omega : usage.acquired ≤ config.maxPermits +
        (config.credits created (usage.history.take count) +
          attempts (usage.history.drop count)))
      rw [Nat.cast_add, add_mul] at taken
      linarith

/-- The surplus since each call, after one more. -/
theorem balanced_history {permits : Nat} (after : Nat) (next : LimiterCall)
    (full : config.maxPermits + config.credits created usage.history ≤
      permits + attempts usage.history)
    (since : ∀ count ≤ usage.history.length, config.credits created (usage.history.drop count) ≤
      permits + attempts (usage.history.drop count))
    (attained : permits + attempts usage.history =
        config.maxPermits + config.credits created usage.history ∨
      ∃ count ≤ usage.history.length, permits + attempts (usage.history.drop count) =
        config.credits created (usage.history.drop count))
    (moved : permits + config.tokensAt (next.now - created) ≤ after + attempts [next])
    (exactly : after + attempts [next] = permits + config.tokensAt (next.now - created) ∨
      after = 0) :
    let history := usage.history ++ [next]
    config.maxPermits + config.credits created history ≤ after + attempts history ∧
      (∀ count ≤ history.length, config.credits created (history.drop count) ≤
        after + attempts (history.drop count)) ∧
      (after + attempts history = config.maxPermits + config.credits created history ∨
        ∃ count ≤ history.length, after + attempts (history.drop count) =
          config.credits created (history.drop count)) := by
  have length : (usage.history ++ [next]).length = usage.history.length + 1 := List.length_append
  have dropped : ∀ count ≤ usage.history.length,
      (usage.history ++ [next]).drop count = usage.history.drop count ++ [next] :=
    fun count bound => List.drop_append_of_le_length bound
  have none : ∀ count, usage.history.length < count → (usage.history ++ [next]).drop count = [] := by
    intro count beyond
    exact List.drop_eq_nil_of_le (by omega)
  dsimp only
  refine ⟨?_, ?_, ?_⟩
  · rw [credits_append, credits_single, attempts_append]
    omega
  · intro count bound
    by_cases old : count ≤ usage.history.length
    · rw [dropped count old, credits_append, credits_single, attempts_append]
      have surplus := since count old
      omega
    · rw [none count (by omega)]
      exact Nat.zero_le _
  · rcases exactly with same | empty
    · rcases attained with filled | ⟨count, bound, surplus⟩
      · left
        rw [credits_append, credits_single, attempts_append]
        omega
      · refine .inr ⟨count, by omega, ?_⟩
        rw [dropped count bound, credits_append, credits_single, attempts_append]
        omega
    · refine .inr ⟨usage.history.length + 1, Nat.le_of_eq length.symm, ?_⟩
      rw [none _ (Nat.lt_succ_self _), empty]
      rfl

/-- A call in order for whose tokens there is room keeps the accounts. -/
theorem balanced_step (balanced : Balanced config created usage) (inOrder : usage.InOrder call)
    (room : RoomFor config created usage.history call) :
    Balanced config created (usage.step call) := by
  have fits := (room_iff balanced).mpr room
  have permits := refill_permits balanced call.now
  rw [Nat.mod_eq_of_lt (Nat.lt_of_le_of_lt fits config.fits)] at permits
  obtain ⟨sameMax, sameRate, sameWindow, sameRefill⟩ := refill_fields usage.limiter call.now
  have accounted := balanced.accounted
  have started : created ≤ call.now := Nat.le_trans balanced.started inOrder
  have history := fun after => balanced_history after call balanced.full balanced.since
    balanced.attained
  have brought := credits_append config created usage.history [call]
  rw [credits_single] at brought
  rw [balanced.maxPermits] at sameMax
  rw [balanced.refillRate] at sameRate
  rw [balanced.window] at sameWindow
  rw [balanced.lastRefill] at sameRefill
  cases call with
  | tryAcquire now =>
      have one : attempts [.tryAcquire now] = 1 := rfl
      simp only [LimiterCall.now, one] at *
      by_cases available : 0 < (usage.limiter.refill now).permits
      · have taken : usage.acquired + 1 + ((usage.limiter.refill now).permits - 1) =
            config.maxPermits + config.credits created (usage.history ++ [.tryAcquire now]) := by
          omega
        obtain ⟨full, since, attained⟩ := history ((usage.limiter.refill now).permits - 1)
          (by omega) (.inl (by omega))
        simp only [step, TokenBucketRateLimiter.tryAcquire, if_pos available]
        exact ⟨sameMax, sameRate, sameWindow, sameRefill, started,
          (Nat.sub_le _ _).trans (permits ▸ fits), taken, full, since, attained⟩
      · have kept : usage.acquired + (usage.limiter.refill now).permits =
            config.maxPermits + config.credits created (usage.history ++ [.tryAcquire now]) := by
          omega
        obtain ⟨full, since, attained⟩ := history (usage.limiter.refill now).permits
          (by omega) (.inr (by omega))
        simp only [step, TokenBucketRateLimiter.tryAcquire, if_neg available]
        exact ⟨sameMax, sameRate, sameWindow, sameRefill, started, permits ▸ fits, kept, full,
          since, attained⟩
  | remaining now =>
      have zero : attempts [.remaining now] = 0 := rfl
      simp only [LimiterCall.now, zero] at *
      have kept : usage.acquired + (usage.limiter.refill now).permits =
          config.maxPermits + config.credits created (usage.history ++ [.remaining now]) := by
        omega
      obtain ⟨full, since, attained⟩ := history (usage.limiter.refill now).permits
        (by omega) (.inl (by omega))
      simp only [step, TokenBucketRateLimiter.remaining]
      exact ⟨sameMax, sameRate, sameWindow, sameRefill, started, permits ▸ fits, kept, full,
        since, attained⟩

theorem counter_within_of_room (balanced : Balanced config created usage)
    (inOrder : usage.InOrder call) (room : RoomFor config created usage.history call) :
    usage.CounterWithin call := by
  have fits := (room_iff balanced).mpr room
  have later := (balanced_step balanced inOrder room).within
  unfold CounterWithin
  rw [refill_permits balanced, balanced.maxPermits,
    Nat.mod_eq_of_lt (Nat.lt_of_le_of_lt fits config.fits)]
  exact ⟨fits, later⟩

/-- A counter that cannot wrap around is within its maximum only if there was room. -/
theorem room_of_counter_within (noWrap : 2 * config.maxPermits < usizeRange)
    (balanced : Balanced config created usage) (within : usage.CounterWithin call) :
    RoomFor config created usage.history call := by
  have tokens := tokens_at_le config (call.now - created)
  have permits := balanced.within
  have counter := within.1
  rw [refill_permits balanced, balanced.maxPermits, Nat.mod_eq_of_lt (by omega)] at counter
  exact (room_iff balanced).mp counter

end Step

theorem step_history (usage : Usage) (call : LimiterCall) :
    (usage.step call).history = usage.history ++ [call] ∧ (usage.step call).clock = call.now := by
  cases call <;> exact ⟨rfl, rfl⟩

/-- The call has room for its tokens, and the rate allows the calls up to it. -/
def KeepsPace (config : RateLimitConfig) (created : Nat) (usage : Usage) (call : LimiterCall) :
    Prop :=
  RoomFor config created usage.history call ∧
    RateAllows config created (usage.history ++ [call]) (call.now - created)

instance (usage : Usage) (call : LimiterCall) : Decidable (usage.InOrder call) :=
  inferInstanceAs (Decidable (_ ≤ _))

instance (config : RateLimitConfig) (created : Nat) (usage : Usage) (call : LimiterCall) :
    Decidable (KeepsPace config created usage call) :=
  inferInstanceAs (Decidable (_ ∧ _))

theorem within_rate_step_iff {config : RateLimitConfig} {created : Nat} {usage : Usage}
    {call : LimiterCall} (rate : 0 ≤ config.refillRate) (balanced : Balanced config created usage)
    (inOrder : usage.InOrder call) (room : RoomFor config created usage.history call) :
    (usage.step call).WithinRate config created ↔
      RateAllows config created (usage.history ++ [call]) (call.now - created) := by
  obtain ⟨history, clock⟩ := step_history usage call
  rw [within_rate_iff (balanced_step balanced inOrder room) rate, history, clock]

/-- A bucket that loses tokens is overdrawn at some time. -/
theorem rate_nonneg_of_within_rate {config : RateLimitConfig} {created : Nat}
    (within : (start config created).WithinRate config created) : 0 ≤ config.refillRate := by
  by_contra negative
  have loses : 0 < -config.refillRate := by linarith
  obtain ⟨waited, beyond⟩ :=
    exists_nat_gt ((config.maxPermits * config.window.nanos : ℚ) / -config.refillRate)
  have bound := within (created + waited) (Nat.le_add_right _ _)
  rw [div_lt_iff₀ loses] at beyond
  have elapsed : created + waited - created = waited := by omega
  rw [elapsed] at bound
  simp only [start, Nat.cast_zero, zero_mul] at bound
  linarith

def perSecond (maxPermits : Nat) (fits : maxPermits < usizeRange) (rate : ℚ) : RateLimitConfig :=
  ⟨maxPermits, ⟨1000000000⟩, rate, fits⟩

/-- While there is room for the tokens of each call and the rate allows the calls, the
permits taken stay within the rate and the counter within its maximum; and only then,
if the counter cannot wrap around. -/
theorem limited_while_in_pace (config : RateLimitConfig) (created : Nat)
    (calls : List LimiterCall) (inOrder : EachMove step InOrder (start config created) calls) :
    let limited := Always step (WithinRate config created) (start config created) calls ∧
      EachMove step CounterWithin (start config created) calls
    let inPace := 0 ≤ config.refillRate ∧
      EachMove step (KeepsPace config created) (start config created) calls
    (inPace → limited) ∧ (2 * config.maxPermits < usizeRange → limited → inPace) := by
  constructor
  · intro ⟨rate, pace⟩
    have both := (each_move_and_iff step calls (start config created)).mpr ⟨inOrder, pace⟩
    obtain ⟨always, each⟩ := always_within step
      (fun usage => Balanced config created usage ∧ usage.WithinRate config created)
      (fun _ _ invariant allowed =>
        ⟨balanced_step invariant.1 allowed.1 allowed.2.1,
          (within_rate_step_iff rate invariant.1 allowed.1 allowed.2.1).mpr allowed.2.2⟩)
      (fun _ _ invariant allowed => counter_within_of_room invariant.1 allowed.1 allowed.2.1)
      calls (start config created)
      ⟨balanced_start, (within_rate_iff balanced_start rate).mpr (.inl (by
        simp only [start, attempts, List.countP_nil, Nat.cast_zero, zero_mul, Nat.sub_self,
          mul_zero, add_zero]
        positivity))⟩ both
    exact ⟨always_imp step (fun _ invariant => invariant.2) calls _ always, each⟩
  · intro noWrap ⟨always, counter⟩
    have rate := rate_nonneg_of_within_rate (always_head step always)
    refine ⟨rate, ?_⟩
    have allowed := (always_iff_each_move step (WithinRate config created)
      (fun usage call => (usage.step call).WithinRate config created) (fun _ _ _ => Iff.rfl)
      calls _ (always_head step always)).mp always
    have both := (each_move_and_iff step calls (start config created)).mpr
      ⟨inOrder, (each_move_and_iff step calls (start config created)).mpr ⟨counter, allowed⟩⟩
    refine (always_within step (Balanced config created) ?_ ?_ calls _ balanced_start both).2
    · intro usage call balanced kept
      exact balanced_step balanced kept.1 (room_of_counter_within noWrap balanced kept.2.1)
    · intro usage call balanced kept
      have room := room_of_counter_within noWrap balanced kept.2.1
      exact ⟨room, (within_rate_step_iff rate balanced kept.1 room).mp kept.2.2⟩

theorem limited_while_in_pace_one_permit :
    Always step (WithinRate (perSecond 1 (by decide) 1) 0) (start (perSecond 1 (by decide) 1) 0)
        [.tryAcquire 0, .tryAcquire 1000000000, .tryAcquire 2000000000] ∧
      EachMove step CounterWithin (start (perSecond 1 (by decide) 1) 0)
        [.tryAcquire 0, .tryAcquire 1000000000, .tryAcquire 2000000000] :=
  (limited_while_in_pace _ 0 _ (by decide +kernel)).1 ⟨by decide +kernel, by decide +kernel⟩

/-- The same second is credited twice. -/
theorem second_credited_twice :
    EachMove step InOrder (start (perSecond 3 (by decide) 1) 0)
        [.tryAcquire 0, .tryAcquire 0, .tryAcquire 0, .tryAcquire 1000000000,
          .tryAcquire 1000000000] ∧
      ¬ Always step (WithinRate (perSecond 3 (by decide) 1) 0)
        (start (perSecond 3 (by decide) 1) 0)
        [.tryAcquire 0, .tryAcquire 0, .tryAcquire 0, .tryAcquire 1000000000,
          .tryAcquire 1000000000] := by
  constructor
  · decide
  · intro always
    have final := always_final step _ _ always 1000000000 (by decide +kernel)
    revert final
    decide +kernel

end Usage

end HodeiJobs.Sagas
