import HodeiJobs.Library.Casts
import HodeiJobs.Library.Fallible
import HodeiJobs.Library.TimeSpan

/-!
# Delays between retries

`RetryConfig` of the command bus and `RetryPolicy` of the sagas. Floating-point numbers are read as
exact rationals. A computation that panics is an error.
-/

namespace HodeiJobs.Resilience

open HodeiJobs.Library

inductive DelayPanic where
  | span (panic : SpanPanic)
  | remainderByZero
  deriving DecidableEq, Repr

def remU64 (left right : UInt64) : Except DelayPanic UInt64 :=
  if right = 0 then .error .remainderByZero else .ok (left % right)

structure RetryConfig where
  maxRetries : UInt32
  baseDelay : TimeSpan
  maxDelay : TimeSpan
  retryTransientOnly : Bool
  jitter : ℚ
  clamped : 0 ≤ jitter ∧ jitter ≤ 1

namespace RetryConfig

def new (maxRetries : UInt32) (baseDelay : TimeSpan) : RetryConfig where
  maxRetries := maxRetries
  baseDelay := baseDelay
  maxDelay := .fromSecs 10
  retryTransientOnly := true
  -- The `f64` 0.1.
  jitter := 3602879701896397 / 2 ^ 55
  clamped := by norm_num

def default : RetryConfig := new 3 (.fromMillis 100)

def transient : RetryConfig := default

def all : RetryConfig := { default with retryTransientOnly := false }

def withMaxDelay (config : RetryConfig) (maxDelay : TimeSpan) : RetryConfig :=
  { config with maxDelay := maxDelay }

def withJitter (config : RetryConfig) (jitter : ℚ) : RetryConfig :=
  { config with
    jitter := max 0 (min jitter 1)
    clamped := ⟨le_max_left _ _, max_le (by norm_num) (min_le_right _ _)⟩ }

/-- The seed of `delay_for_attempt`; the product wraps. -/
def seed (attempt : UInt32) : UInt64 := attempt.toUInt64 * 0x9e3779b97f4a7c15

/-- The end of `delay_for_attempt`, from the capped delay on. -/
def addJitter (config : RetryConfig) (delay : TimeSpan) (attempt : UInt32) :
    Except DelayPanic TimeSpan :=
  if 0 < config.jitter then do
    let jitterAmount ← (delay.mulF64 config.jitter).mapError .span
    let jitter ← remU64 (seed attempt) (.ofNat jitterAmount.nanos)
    (delay.add (.fromNanos jitter)).mapError .span
  else .ok delay

def delayForAttempt (config : RetryConfig) (attempt : UInt32) : Except DelayPanic TimeSpan := do
  let delay ← (config.baseDelay.mulF64 (2 ^ asI32 attempt.toNat)).mapError .span
  config.addJitter (delay.min config.maxDelay) attempt

/-! ## What the delays should be -/

/-- The delay without jitter, in nanoseconds. -/
def backoff (config : RetryConfig) (attempt : UInt32) : Nat :=
  min (config.baseDelay.nanos * 2 ^ attempt.toNat) config.maxDelay.nanos

structure DelaysWell (config : RetryConfig) (attempt : UInt32) (delay : TimeSpan) : Prop where
  returns : config.delayForAttempt attempt = .ok delay
  least : config.backoff attempt ≤ delay.nanos
  most : (delay.nanos : ℚ) ≤ (1 + config.jitter) * config.backoff attempt

/-- The jitter's share of a delay in whole nanoseconds, as a `u64`. -/
def jitterShare (config : RetryConfig) (attempt : UInt32) : Nat :=
  (roundEven (config.jitter * config.backoff attempt)).toNat % 2 ^ 64

/-- The product before the cap is in range and, if there is jitter, its share is not zero and the
sum is in range. -/
structure Fits (config : RetryConfig) (attempt : UInt32) : Prop where
  product : config.baseDelay.nanos * 2 ^ attempt.toNat < 2 ^ 64 * 10 ^ 9
  share : 0 < config.jitter → config.jitterShare attempt ≠ 0
  total : 0 < config.jitter →
    config.backoff attempt + (seed attempt).toNat % config.jitterShare attempt < 2 ^ 64 * 10 ^ 9

section

variable {config : RetryConfig} {attempt : UInt32} {delay total : TimeSpan}

/-- The power is not that of the attempt where the cast to `i32` makes its exponent negative. -/
theorem scaled_eq_ok (early : attempt.toNat < 2 ^ 31 ∨ config.baseDelay.nanos = 0) :
    config.baseDelay.mulF64 (2 ^ asI32 attempt.toNat) = .ok delay ↔
      config.baseDelay.nanos * 2 ^ attempt.toNat = delay.nanos := by
  have whole : (2 : ℚ) ^ asI32 attempt.toNat * config.baseDelay.nanos =
      ((config.baseDelay.nanos * 2 ^ attempt.toNat : Nat) : ℤ) := by
    rcases early with small | zero
    · rw [as_i32_small small, zpow_natCast]
      push_cast
      ring
    · simp [zero]
  rw [TimeSpan.mul_f64_eq_ok (zpow_nonneg (by norm_num) _), whole, round_even_int, Nat.cast_inj]

theorem rem_u64_eq_ok {left right rest : UInt64} :
    remU64 left right = .ok rest ↔ right.toNat ≠ 0 ∧ left % right = rest := by
  have zero : right = 0 ↔ right.toNat = 0 := UInt64.toNat_inj.symm
  unfold remU64
  rw [ne_eq, ← zero]
  split_ifs with none
  · simp [none]
  · simp [none]

/-- With jitter, a base delay of zero leaves nothing to take a remainder by. -/
theorem zero_base_panics (zero : config.baseDelay.nanos = 0) (positive : 0 < config.jitter)
    (attempt : UInt32) : config.delayForAttempt attempt = .error .remainderByZero := by
  have capped : (config.baseDelay.min config.maxDelay).nanos = 0 := by
    rw [TimeSpan.min_nanos, zero]
    exact Nat.zero_min _
  have added : config.addJitter (config.baseDelay.min config.maxDelay) attempt =
      .error .remainderByZero := by
    unfold addJitter
    rw [if_pos positive, TimeSpan.mul_f64_zero capped positive.le]
    change remU64 (seed attempt) (.ofNat (config.baseDelay.min config.maxDelay).nanos) >>= _ = _
    rw [capped]
    rfl
  unfold delayForAttempt
  rw [TimeSpan.mul_f64_zero zero (zpow_nonneg (by norm_num) _)]
  exact added

theorem jitter_amount_bounds (config : RetryConfig) (attempt : UInt32) :
    0 ≤ roundEven (config.jitter * config.backoff attempt) ∧
      roundEven (config.jitter * config.backoff attempt) ≤ config.backoff attempt := by
  have whole : config.jitter * config.backoff attempt ≤ config.backoff attempt :=
    mul_le_of_le_one_left (Nat.cast_nonneg _) config.clamped.2
  constructor
  · apply le_round_even
    push_cast
    exact mul_nonneg config.clamped.1 (Nat.cast_nonneg _)
  · apply round_even_le_iff.mpr
    left
    push_cast
    linarith

theorem add_jitter_eq_ok (positive : 0 < config.jitter)
    (capped : delay.nanos = config.backoff attempt) :
    config.addJitter delay attempt = .ok total ↔ config.jitterShare attempt ≠ 0 ∧
      config.backoff attempt + (seed attempt).toNat % config.jitterShare attempt =
        total.nanos := by
  have bounds := jitter_amount_bounds config attempt
  have inRange := delay.inRange
  let amount : TimeSpan :=
    ⟨(roundEven (config.jitter * config.backoff attempt)).toNat, by omega⟩
  have product : delay.mulF64 config.jitter = .ok amount := by
    rw [TimeSpan.mul_f64_eq_ok config.clamped.1, capped]
    exact (Int.toNat_of_nonneg bounds.1).symm
  have share : (UInt64.ofNat amount.nanos).toNat = config.jitterShare attempt :=
    UInt64.toNat_ofNat'
  unfold addJitter
  rw [if_pos positive, product, bind_eq_ok]
  simp only [map_error_eq_ok, Except.ok.injEq, exists_eq_left', bind_eq_ok, rem_u64_eq_ok,
    TimeSpan.add_eq_ok, share, and_assoc, exists_and_left, TimeSpan.fromNanos, capped,
    UInt64.toNat_mod]

/-- What `delay_for_attempt` returns, and when it does. -/
theorem delay_for_attempt_eq_ok
    (early : attempt.toNat < 2 ^ 31 ∨ config.baseDelay.nanos = 0) :
    config.delayForAttempt attempt = .ok total ↔
      config.baseDelay.nanos * 2 ^ attempt.toNat < 2 ^ 64 * 10 ^ 9 ∧
        if 0 < config.jitter then
          config.jitterShare attempt ≠ 0 ∧
            config.backoff attempt + (seed attempt).toNat % config.jitterShare attempt =
              total.nanos
        else config.backoff attempt = total.nanos := by
  have added : ∀ scaled : TimeSpan,
      config.baseDelay.nanos * 2 ^ attempt.toNat = scaled.nanos →
      (config.addJitter (scaled.min config.maxDelay) attempt = .ok total ↔
        if 0 < config.jitter then
          config.jitterShare attempt ≠ 0 ∧
            config.backoff attempt + (seed attempt).toNat % config.jitterShare attempt =
              total.nanos
        else config.backoff attempt = total.nanos) := by
    intro scaled product
    have capped : (scaled.min config.maxDelay).nanos = config.backoff attempt := by
      rw [TimeSpan.min_nanos, ← product]
      rfl
    split_ifs with positive
    · exact add_jitter_eq_ok positive capped
    · rw [addJitter, if_neg positive, Except.ok.injEq, ← capped]
      exact TimeSpan.ext_iff
  unfold delayForAttempt
  simp only [bind_eq_ok, map_error_eq_ok, scaled_eq_ok early]
  constructor
  · intro ⟨scaled, product, succeeds⟩
    exact ⟨product ▸ scaled.inRange, (added scaled product).mp succeeds⟩
  · intro ⟨inRange, succeeds⟩
    exact ⟨⟨_, inRange⟩, rfl, (added ⟨_, inRange⟩ rfl).mpr succeeds⟩

/-- A remainder by the share is at least one less than it, which is more than rounding adds. -/
theorem rest_le_jitter (number : Nat) (nonzero : config.jitterShare attempt ≠ 0) :
    ((number % config.jitterShare attempt : Nat) : ℚ) ≤
      config.jitter * config.backoff attempt := by
  have bounds := jitter_amount_bounds config attempt
  have rounded : (roundEven (config.jitter * config.backoff attempt) : ℚ) ≤
      config.jitter * config.backoff attempt + 1 / 2 := round_even_le_add_half
  have rest : number % config.jitterShare attempt < config.jitterShare attempt :=
    Nat.mod_lt _ (Nat.pos_of_ne_zero nonzero)
  have share : config.jitterShare attempt ≤
      (roundEven (config.jitter * config.backoff attempt)).toNat := Nat.mod_le _ _
  have whole : ((number % config.jitterShare attempt : Nat) : ℤ) + 1 ≤
      roundEven (config.jitter * config.backoff attempt) := by omega
  have cast := (Int.cast_le (R := ℚ)).mpr whole
  rw [Int.cast_add, Int.cast_natCast, Int.cast_one] at cast
  linarith

theorem delays_well_iff_fits (early : attempt.toNat < 2 ^ 31 ∨ config.baseDelay.nanos = 0) :
    (∃ delay, config.DelaysWell attempt delay) ↔ config.Fits attempt := by
  have spec := @delay_for_attempt_eq_ok config attempt
  have nonneg : (0 : ℚ) ≤ config.jitter * config.backoff attempt :=
    mul_nonneg config.clamped.1 (Nat.cast_nonneg _)
  constructor
  · intro ⟨delay, well⟩
    obtain ⟨product, sum⟩ := (spec early).mp well.returns
    refine ⟨product, fun positive => ?_, fun positive => ?_⟩
    · rw [if_pos positive] at sum
      exact sum.1
    · rw [if_pos positive] at sum
      rw [sum.2]
      exact delay.inRange
  · intro fits
    by_cases positive : 0 < config.jitter
    · have nonzero := fits.share positive
      have rest := rest_le_jitter (seed attempt).toNat nonzero
      refine ⟨⟨_, fits.total positive⟩, ?_, Nat.le_add_right _ _, ?_⟩
      · rw [spec early, if_pos positive]
        exact ⟨fits.product, nonzero, rfl⟩
      · push_cast at rest ⊢
        linarith
    · have inRange : config.backoff attempt < 2 ^ 64 * 10 ^ 9 :=
        Nat.lt_of_le_of_lt (Nat.min_le_left _ _) fits.product
      refine ⟨⟨_, inRange⟩, ?_, Nat.le_refl _, ?_⟩
      · rw [spec early, if_neg positive]
        exact ⟨fits.product, rfl⟩
      · linarith

theorem early_of_product
    (product : config.baseDelay.nanos * 2 ^ attempt.toNat < 2 ^ 64 * 10 ^ 9) :
    attempt.toNat < 2 ^ 31 ∨ config.baseDelay.nanos = 0 := by
  by_contra neither
  obtain ⟨late, nonzero⟩ := not_or.mp neither
  have power : 2 ^ 94 ≤ 2 ^ attempt.toNat := Nat.pow_le_pow_right (by norm_num) (by omega)
  have least : 1 * 2 ^ 94 ≤ config.baseDelay.nanos * 2 ^ attempt.toNat :=
    Nat.mul_le_mul (Nat.pos_of_ne_zero nonzero) power
  omega

/-- The attempts that the cast spoils come after one whose product is out of range already. -/
theorem all_delay_well_iff :
    (∀ attempt < config.maxRetries, ∃ delay, config.DelaysWell attempt delay) ↔
      ∀ attempt < config.maxRetries, config.Fits attempt := by
  constructor
  · intro well attempt below
    apply (delays_well_iff_fits _).mp (well attempt below)
    by_contra neither
    obtain ⟨late, nonzero⟩ := not_or.mp neither
    have hundredth : (100 : UInt32) < config.maxRetries := by
      rw [UInt32.lt_iff_toNat_lt] at below ⊢
      exact Nat.lt_trans (Nat.lt_of_lt_of_le (by decide) (Nat.le_of_not_lt late)) below
    have fits := (delays_well_iff_fits (Or.inl (by decide))).mp (well 100 hundredth)
    have product : config.baseDelay.nanos * 2 ^ 100 < 2 ^ 64 * 10 ^ 9 := fits.product
    omega
  · intro fits attempt below
    exact (delays_well_iff_fits (early_of_product (fits attempt below).product)).mpr
      (fits attempt below)

/-- The shares of the first three delays are rounded to a tenth of them. -/
theorem default_fits : ∀ attempt < default.maxRetries, default.Fits attempt := by
  intro attempt below
  have few : attempt.toNat < 3 := UInt32.lt_iff_toNat_lt.mp below
  have least : 1 ≤ 2 ^ attempt.toNat := Nat.one_le_two_pow
  have most : 2 ^ attempt.toNat ≤ 2 ^ 2 := Nat.pow_le_pow_right (by norm_num) (by omega)
  have base : default.baseDelay.nanos = 100000000 := rfl
  have cap : default.maxDelay.nanos = 10000000000 := rfl
  have backoff : default.backoff attempt = 100000000 * 2 ^ attempt.toNat := by
    unfold RetryConfig.backoff
    rw [base, cap]
    omega
  have tenth : roundEven (default.jitter * default.backoff attempt) =
      ((10000000 * 2 ^ attempt.toNat : Nat) : ℤ) := by
    have factor : default.jitter = 3602879701896397 / 2 ^ 55 := rfl
    have power : (2 : ℚ) ^ attempt.toNat ≤ 2 ^ 2 := by exact_mod_cast most
    have positive : (0 : ℚ) < 2 ^ attempt.toNat := by positivity
    rw [factor, backoff]
    apply round_even_eq
    all_goals
      push_cast
      linarith
  have share : default.jitterShare attempt = 10000000 * 2 ^ attempt.toNat := by
    unfold jitterShare
    rw [tenth, Int.toNat_natCast]
    omega
  have rest : (seed attempt).toNat % default.jitterShare attempt < default.jitterShare attempt :=
    Nat.mod_lt _ (by omega)
  refine ⟨?_, fun _ => ?_, fun _ => ?_⟩
  · rw [base]
    omega
  · omega
  · omega

end

/-! ## The retrying command bus -/

/-- `is_transient` and `is_validation` of the errors of commands. -/
structure ErrorKinds (Error : Type) where
  isTransient : Error → Bool
  isValidation : Error → Bool

section

variable {Error Output : Type} (config : RetryConfig) (kinds : ErrorKinds Error)
  (inner : Nat → Except Error Output)

def shouldRetry (error : Error) : Bool :=
  if config.retryTransientOnly then kinds.isTransient error else !kinds.isValidation error

/-- The loop of `dispatch`, with its delays; `left` attempts are left below `max_retries`. -/
def dispatchFrom :
    Nat → UInt32 → Except DelayPanic (Except Error Output) × List TimeSpan
  | left, attempt =>
      match inner attempt.toNat, left with
      | .ok output, _ => (.ok (.ok output), [])
      | .error error, 0 => (.ok (.error error), [])
      | .error error, left + 1 =>
          if config.shouldRetry kinds error then
            match config.delayForAttempt attempt with
            | .error panic => (.error panic, [])
            | .ok delay =>
                let later := dispatchFrom left (attempt + 1)
                (later.1, delay :: later.2)
          else (.ok (.error error), [])

def dispatch : Except DelayPanic (Except Error Output) × List TimeSpan :=
  config.dispatchFrom kinds inner config.maxRetries.toNat 0

variable {config} {kinds} {inner}

theorem dispatch_from_sleeps_well (fits : ∀ attempt < config.maxRetries, config.Fits attempt)
    (left : Nat) {attempt : UInt32} (budget : attempt.toNat + left = config.maxRetries.toNat) :
    (∃ result, (config.dispatchFrom kinds inner left attempt).1 = .ok result) ∧
      ∀ index delay, (config.dispatchFrom kinds inner left attempt).2[index]? = some delay →
        config.DelaysWell (.ofNat (attempt.toNat + index)) delay := by
  induction left generalizing attempt with
  | zero =>
      unfold dispatchFrom
      cases inner attempt.toNat <;> simp
  | succ left ih =>
      have below : attempt < config.maxRetries := by
        rw [UInt32.lt_iff_toNat_lt]
        omega
      have next : (attempt + 1).toNat = attempt.toNat + 1 := by
        have bound := config.maxRetries.toNat_lt
        rw [UInt32.toNat_add, UInt32.toNat_one]
        exact Nat.mod_eq_of_lt (by omega)
      have later := @ih (attempt + 1) (by omega)
      obtain ⟨delay, well⟩ := all_delay_well_iff.mpr fits attempt below
      unfold dispatchFrom
      cases inner attempt.toNat with
      | ok output => simp
      | error error =>
          dsimp only
          rw [well.returns]
          split_ifs
          · refine ⟨later.1, fun index other slept => ?_⟩
            cases index with
            | zero =>
                cases slept
                rw [Nat.add_zero, UInt32.ofNat_toNat]
                exact well
            | succ index =>
                have at_next := later.2 index other slept
                rwa [next, Nat.add_right_comm, Nat.add_assoc] at at_next
          · simp

/-- Where every delay fits, no dispatch panics, and it sleeps as long as its attempts call for. -/
theorem dispatch_sleeps_well (fits : ∀ attempt < config.maxRetries, config.Fits attempt) :
    (∃ result, (config.dispatch kinds inner).1 = .ok result) ∧
      ∀ index delay, (config.dispatch kinds inner).2[index]? = some delay →
        config.DelaysWell (.ofNat index) delay := by
  have run := @dispatch_from_sleeps_well Error Output config kinds inner fits
    config.maxRetries.toNat 0 (Nat.zero_add _)
  simpa [dispatch] using run

end

def alwaysTransient : ErrorKinds String := ⟨fun _ => true, fun _ => false⟩

def unavailable (_ : Nat) : Except String Unit := .error "unavailable"

theorem unavailable_sleeps_well :
    (∃ result, (default.dispatch alwaysTransient unavailable).1 = .ok result) ∧
      ∀ index delay, (default.dispatch alwaysTransient unavailable).2[index]? = some delay →
        default.DelaysWell (.ofNat index) delay :=
  dispatch_sleeps_well default_fits

end RetryConfig

structure RetryPolicy where
  maxAttempts : UInt32
  initialDelay : TimeSpan
  maxDelay : TimeSpan
  multiplier : ℚ
  jitterFactor : ℚ

namespace RetryPolicy

/-- The jitters are the `f64`s 0.1, 0.2 and 0.15. -/
def default : RetryPolicy := ⟨3, .fromMillis 100, .fromSecs 30, 2, 3602879701896397 / 2 ^ 55⟩

def new (maxAttempts : UInt32) (initialDelay maxDelay : TimeSpan) (multiplier : ℚ) : RetryPolicy :=
  ⟨maxAttempts, initialDelay, maxDelay, multiplier, 3602879701896397 / 2 ^ 55⟩

def forSagaStep : RetryPolicy := default

def forCompensation : RetryPolicy :=
  ⟨2, .fromMillis 500, .fromSecs 60, 2, 3602879701896397 / 2 ^ 54⟩

def forInfrastructure : RetryPolicy :=
  ⟨2, .fromMillis 500, .fromSecs 60, 2, 5404319552844595 / 2 ^ 55⟩

/-- The cap comes before the jitter. -/
def delayForAttempt (policy : RetryPolicy) (attempt : UInt32) : Except SpanPanic TimeSpan :=
  if attempt ≤ 1 then .ok policy.initialDelay
  else
    let delay := policy.initialDelay.asSecsF64 * policy.multiplier ^ (attempt.toNat - 1)
    let delay := min delay policy.maxDelay.asSecsF64
    let pseudoJitter :=
      1 + (((attempt % 10).toNat : ℚ) / 10 - 1 / 2) * 2 * policy.jitterFactor
    let delay := delay * pseudoJitter
    TimeSpan.fromSecsF64 (max delay policy.initialDelay.asSecsF64)

structure Sensible (policy : RetryPolicy) : Prop where
  ordered : policy.initialDelay.nanos ≤ policy.maxDelay.nanos
  grows : 1 ≤ policy.multiplier
  share : 0 ≤ policy.jitterFactor ∧ policy.jitterFactor ≤ 1

theorem presets_sensible :
    ∀ policy ∈ [default, forSagaStep, forCompensation, forInfrastructure], policy.Sensible := by
  simp only [List.forall_mem_cons, List.not_mem_nil, false_imp_iff, implies_true, and_true]
  refine ⟨?_, ?_, ?_, ?_⟩
  · exact ⟨by decide, by norm_num [default], by norm_num [default]⟩
  · exact ⟨by decide, by norm_num [forSagaStep, default], by norm_num [forSagaStep, default]⟩
  · exact ⟨by decide, by norm_num [forCompensation], by norm_num [forCompensation]⟩
  · exact ⟨by decide, by norm_num [forInfrastructure], by norm_num [forInfrastructure]⟩

theorem default_sensible : default.Sensible := presets_sensible default List.mem_cons_self

theorem default_initial_delay : (default.initialDelay.nanos : ℚ) = 100000000 := by norm_cast

theorem default_max_delay : (default.maxDelay.nanos : ℚ) = 30000000000 := by norm_cast

def WithinBounds (policy : RetryPolicy) (attempt : UInt32) : Prop :=
  ∃ delay, policy.delayForAttempt attempt = .ok delay ∧
    policy.initialDelay.nanos ≤ delay.nanos ∧ delay.nanos ≤ policy.maxDelay.nanos

/-- The capped delay without jitter, in nanoseconds. -/
def backoff (policy : RetryPolicy) (attempt : UInt32) : ℚ :=
  min (policy.initialDelay.nanos * policy.multiplier ^ (attempt.toNat - 1)) policy.maxDelay.nanos

/-- By the last digit of the attempt, five being the middle. -/
def lift (policy : RetryPolicy) (attempt : UInt32) : ℚ :=
  (((attempt % 10).toNat : ℚ) - 5) / 5 * policy.jitterFactor

/-- The capped delay with the jitter. -/
def raised (policy : RetryPolicy) (attempt : UInt32) : ℚ :=
  policy.backoff attempt * (1 + policy.lift attempt)

/-- What the jitter adds is at most what the cap has left, up to rounding. -/
def LeavesRoom (policy : RetryPolicy) (attempt : UInt32) : Prop :=
  let added := policy.backoff attempt * policy.lift attempt
  let room := policy.maxDelay.nanos - policy.backoff attempt
  attempt ≤ 1 ∨ added < room + 1 / 2 ∨ added = room + 1 / 2 ∧ Even policy.maxDelay.nanos

section

variable {policy : RetryPolicy} {attempt : UInt32} {delay : TimeSpan}

theorem delay_for_attempt_eq_ok (later : ¬ attempt ≤ 1) :
    policy.delayForAttempt attempt = .ok delay ↔
      roundEven (max (policy.raised attempt) policy.initialDelay.nanos) = delay.nanos := by
  have seconds : (0 : ℚ) < 10 ^ 9 := by norm_num
  have capped : min (policy.initialDelay.asSecsF64 * policy.multiplier ^ (attempt.toNat - 1))
      policy.maxDelay.asSecsF64 = policy.backoff attempt / 10 ^ 9 := by
    unfold TimeSpan.asSecsF64 backoff
    rw [div_mul_eq_mul_div, min_div_div_right seconds.le]
  have jitter : 1 + (((attempt % 10).toNat : ℚ) / 10 - 1 / 2) * 2 * policy.jitterFactor =
      1 + policy.lift attempt := by
    unfold lift
    ring
  have nanos : max (policy.backoff attempt / 10 ^ 9 * (1 + policy.lift attempt))
      policy.initialDelay.asSecsF64 * 10 ^ 9 =
      max (policy.raised attempt) policy.initialDelay.nanos := by
    rw [max_mul_of_nonneg _ _ seconds.le]
    unfold TimeSpan.asSecsF64 raised
    congr 1
    · ring
    · ring
  have nonneg : 0 ≤ policy.initialDelay.asSecsF64 := by
    unfold TimeSpan.asSecsF64
    positivity
  unfold delayForAttempt
  rw [if_neg later]
  dsimp only
  rw [capped, jitter, TimeSpan.from_secs_f64_eq_ok (le_max_of_le_right nonneg), nanos]

/-- The first delay is within the bounds by itself, so that only the raised one matters. -/
theorem rounded_le_iff (sensible : policy.Sensible) (later : ¬ attempt ≤ 1) :
    roundEven (max (policy.raised attempt) policy.initialDelay.nanos) ≤ policy.maxDelay.nanos ↔
      policy.LeavesRoom attempt := by
  have ordered : (policy.initialDelay.nanos : ℚ) ≤ policy.maxDelay.nanos := by
    exact_mod_cast sensible.ordered
  have split : policy.raised attempt =
      policy.backoff attempt + policy.backoff attempt * policy.lift attempt := by
    unfold raised
    ring
  rw [round_even_le_iff, Int.even_coe_nat, Int.cast_natCast, max_lt_iff]
  unfold LeavesRoom
  dsimp only
  rcases le_total (policy.raised attempt) policy.initialDelay.nanos with low | high
  · constructor
    · intro _
      right; left
      linarith
    · intro _
      left
      constructor <;> linarith
  · rw [max_eq_left high]
    constructor
    · rintro (⟨less, -⟩ | ⟨same, even⟩)
      · right; left
        linarith
      · right; right
        exact ⟨by linarith, even⟩
    · rintro (first | less | ⟨same, even⟩)
      · exact absurd first later
      · left
        constructor <;> linarith
      · right
        exact ⟨by linarith, even⟩

theorem within_bounds_iff (sensible : policy.Sensible) :
    policy.WithinBounds attempt ↔ policy.LeavesRoom attempt := by
  by_cases first : attempt ≤ 1
  · constructor
    · intro _
      exact Or.inl first
    · intro _
      exact ⟨policy.initialDelay, if_pos first, Nat.le_refl _, sensible.ordered⟩
  · have least : (policy.initialDelay.nanos : ℤ) ≤
        roundEven (max (policy.raised attempt) policy.initialDelay.nanos) :=
      le_round_even (le_max_right _ _)
    rw [← rounded_le_iff sensible first]
    unfold WithinBounds
    simp only [delay_for_attempt_eq_ok first]
    constructor
    · intro ⟨delay, same, _, below⟩
      omega
    · intro below
      have inRange := policy.maxDelay.inRange
      obtain ⟨nanos, same⟩ := Int.eq_ofNat_of_zero_le (Int.le_trans (by omega) least)
      refine ⟨⟨nanos, by omega⟩, same, ?_, ?_⟩
      · dsimp only
        omega
      · dsimp only
        omega

end

end RetryPolicy

/-- Both delays are within their bounds exactly where the products and the jitter's share are in
range and the jitter leaves room below the cap. -/
theorem delays_within_bounds_iff (config : RetryConfig) {policy : RetryPolicy}
    (sensible : policy.Sensible) (attempt : UInt32) :
    ((∀ attempt < config.maxRetries, ∃ delay, config.DelaysWell attempt delay) ↔
        ∀ attempt < config.maxRetries, config.Fits attempt) ∧
      (policy.WithinBounds attempt ↔ policy.LeavesRoom attempt) :=
  ⟨RetryConfig.all_delay_well_iff, RetryPolicy.within_bounds_iff sensible⟩

/-- The sixth attempt is one that the jitter raises. -/
theorem default_policy_within_bounds :
    (∀ attempt < RetryConfig.default.maxRetries, ∃ delay,
      RetryConfig.default.DelaysWell attempt delay) ∧
      RetryPolicy.default.Sensible ∧ RetryPolicy.default.WithinBounds 6 := by
  have both := delays_within_bounds_iff .default RetryPolicy.default_sensible 6
  refine ⟨both.1.mpr RetryConfig.default_fits, RetryPolicy.default_sensible, both.2.mpr ?_⟩
  have capped : RetryPolicy.default.backoff 6 = 3200000000 := by
    rw [RetryPolicy.backoff, RetryPolicy.default_initial_delay, RetryPolicy.default_max_delay]
    norm_num [RetryPolicy.default, show (6 : UInt32).toNat = 6 from rfl]
  right; left
  rw [RetryPolicy.lift, capped, RetryPolicy.default_max_delay]
  norm_num [RetryPolicy.default, show (6 % 10 : UInt32).toNat = 6 from rfl]

/-- The first retry without a base delay panics, and the sixteenth attempt of the default policy
waits longer than its maximum. -/
theorem delays_out_of_bounds :
    ((RetryConfig.new 3 (.fromMillis 0)).delayForAttempt 0 = .error .remainderByZero ∧
      ¬ ∀ config : RetryConfig, ∀ attempt < config.maxRetries,
        ∃ delay, config.DelaysWell attempt delay) ∧
    (RetryPolicy.default.delayForAttempt 16 = .ok (.fromMillis 30600) ∧
      ¬ ∀ policy : RetryPolicy, policy.Sensible → ∀ attempt, policy.WithinBounds attempt) := by
  have panics :
      (RetryConfig.new 3 (.fromMillis 0)).delayForAttempt 0 = .error .remainderByZero :=
    RetryConfig.zero_base_panics rfl (by norm_num [RetryConfig.new]) 0
  have late : RetryPolicy.default.delayForAttempt 16 = .ok (.fromMillis 30600) := by
    have capped : RetryPolicy.default.backoff 16 = 30000000000 := by
      rw [RetryPolicy.backoff, RetryPolicy.default_initial_delay, RetryPolicy.default_max_delay]
      norm_num [RetryPolicy.default, show (16 : UInt32).toNat = 16 from rfl]
    have raised : RetryPolicy.default.raised 16 =
        30000000000 * (1 + 3602879701896397 / (5 * 2 ^ 55)) := by
      rw [RetryPolicy.raised, RetryPolicy.lift, capped]
      norm_num [RetryPolicy.default, show (16 % 10 : UInt32).toNat = 6 from rfl]
    rw [RetryPolicy.delay_for_attempt_eq_ok (by decide), raised, RetryPolicy.default_initial_delay,
      max_eq_left (by norm_num)]
    have nanos : ((TimeSpan.fromMillis 30600).nanos : ℤ) = 30600000000 := rfl
    rw [nanos]
    apply round_even_eq
    all_goals norm_num
  refine ⟨⟨panics, fun all => ?_⟩, late, fun all => ?_⟩
  · obtain ⟨delay, well⟩ := all (RetryConfig.new 3 (.fromMillis 0)) 0 (by decide)
    have returns := well.returns
    rw [panics] at returns
    cases returns
  · obtain ⟨delay, returns, -, most⟩ := all RetryPolicy.default RetryPolicy.default_sensible 16
    rw [late, Except.ok.injEq] at returns
    subst returns
    exact absurd most (by decide)

end HodeiJobs.Resilience
