import HodeiJobs.Library.Casts
import HodeiJobs.Library.Fallible
import HodeiJobs.Library.SignedInt

/-!
# Exponential backoff

`BackoffConfig`. The jitter factor is read as a rational number, and products with it are exact.
The bounds of `chrono` are parameters; a time is in microseconds.
-/

namespace HodeiJobs.Messaging

open HodeiJobs.Library

structure BackoffConfig where
  baseDelaySecs : Int64
  maxDelaySecs : Int64
  jitterFactor : ℚ
  maxRetries : Int32

/-- The longest duration, in seconds, and the first and the last date. -/
structure ChronoLimits where
  longest : Int
  earliest : Int
  latest : Int
  nonneg : 0 ≤ longest
  fits : longest < 2 ^ 63

def ChronoLimits.Date (limits : ChronoLimits) : Type :=
  { time : Int // limits.earliest ≤ time ∧ time ≤ limits.latest }

inductive DelayPanic where
  | overflow (operation : Overflow)
  | durationOutOfBounds
  | dateOutOfRange
  deriving DecidableEq, Repr

/-- `random_range(-range..=range)`, for a positive range. -/
structure Jitter where
  draw : Int → Int
  bounded : ∀ range, 0 < range → -range ≤ draw range ∧ draw range ≤ range

namespace ChronoLimits

variable (limits : ChronoLimits)

/-- `Duration::seconds`. -/
def seconds (value : Int) : Except DelayPanic Int :=
  if -limits.longest ≤ value ∧ value ≤ limits.longest then .ok value
  else .error .durationOutOfBounds

/-- A time and a duration of whole seconds. -/
def after (now : limits.Date) (seconds : Int) : Except DelayPanic Int :=
  let time := now.val + seconds * 1000000
  if limits.earliest ≤ time ∧ time ≤ limits.latest then .ok time else .error .dateOutOfRange

end ChronoLimits

namespace BackoffConfig

/-- With the `f64` 0.1 as its jitter. -/
def standard : BackoffConfig := ⟨5, 1800, 3602879701896397 / 2 ^ 55, 5⟩

def aggressive : BackoffConfig := ⟨1, 300, 3602879701896397 / 2 ^ 54, 3⟩

def conservative : BackoffConfig := ⟨10, 3600, 5404319552844595 / 2 ^ 55, 10⟩

section

variable (overflowChecks : Bool) (limits : ChronoLimits) (config : BackoffConfig)

/-- The cap comes after the power and the product. -/
def calculateDelay (jitter : Jitter) (retryCount : Int) : Except DelayPanic Int := do
  let power ← (powI64 overflowChecks 2 (asU32 retryCount)).mapError .overflow
  let rawDelay ← (mulI64 overflowChecks config.baseDelaySecs.toInt power).mapError .overflow
  let delay := min rawDelay config.maxDelaySecs.toInt
  let jitterRange := truncI64 (delay * config.jitterFactor)
  let shift := if 0 < jitterRange then jitter.draw jitterRange else 0
  let total ← (addI64 overflowChecks delay shift).mapError .overflow
  limits.seconds total

def nextRetryAt (now : limits.Date) (jitter : Jitter) (retryCount : Int) :
    Except DelayPanic Int := do
  let delay ← config.calculateDelay overflowChecks limits jitter retryCount
  limits.after now delay

def canRetry (retryCount : Int) : Bool := decide (retryCount < config.maxRetries.toInt)

def delaySchedule (jitters : Nat → Jitter) : Except DelayPanic (List Int) :=
  (List.range config.maxRetries.toInt.toNat).mapM fun retryCount : Nat =>
    config.calculateDelay overflowChecks limits (jitters retryCount) retryCount

end

/-! ## What the delays should be -/

/-- A delay that is at least a second, a cap that is not below it, and a share as the jitter. -/
structure Sensible (config : BackoffConfig) : Prop where
  positive : 1 ≤ config.baseDelaySecs.toInt
  ordered : config.baseDelaySecs ≤ config.maxDelaySecs
  share : 0 ≤ config.jitterFactor ∧ config.jitterFactor ≤ 1

/-- The delay without jitter, in exact arithmetic. -/
def delayAt (config : BackoffConfig) (retryCount : Nat) : Int :=
  min (config.baseDelaySecs.toInt * 2 ^ retryCount) config.maxDelaySecs.toInt

def jitterAt (config : BackoffConfig) (retryCount : Nat) : Int :=
  ⌊config.delayAt retryCount * config.jitterFactor⌋

/-- In both modes of arithmetic and for any jitter, every retry has a delay near the one that it
should have, and a date, and there is a schedule of all delays. -/
structure BacksOff (limits : ChronoLimits) (config : BackoffConfig) (now : limits.Date) :
    Prop where
  delays : ∀ overflowChecks jitter, ∀ retryCount : Nat, retryCount < config.maxRetries.toInt →
    ∃ seconds, config.calculateDelay overflowChecks limits jitter retryCount = .ok seconds ∧
      |seconds - config.delayAt retryCount| ≤ config.jitterAt retryCount
  dates : ∀ overflowChecks jitter, ∀ retryCount : Nat, retryCount < config.maxRetries.toInt →
    ∃ time, config.nextRetryAt overflowChecks limits now jitter retryCount = .ok time
  schedule : ∀ overflowChecks jitters,
    ∃ delays, config.delaySchedule overflowChecks limits jitters = .ok delays

/-- The power for this retry, and what is made of it, stay within their bounds. -/
structure Fits (limits : ChronoLimits) (config : BackoffConfig) (now : limits.Date)
    (retryCount : Nat) : Prop where
  product : config.baseDelaySecs.toInt * 2 ^ retryCount < 2 ^ 63
  duration : config.delayAt retryCount + config.jitterAt retryCount ≤ limits.longest
  date : now.val + (config.delayAt retryCount + config.jitterAt retryCount) * 1000000 ≤
    limits.latest

/-- The last retry, if there is one, fits. -/
def LastRetryFits (limits : ChronoLimits) (config : BackoffConfig) (now : limits.Date) : Prop :=
  0 < config.maxRetries.toInt → Fits limits config now (config.maxRetries.toInt.toNat - 1)

section

variable {config : BackoffConfig} {limits : ChronoLimits} {now : limits.Date}

theorem as_u32_of_small {value : Nat} (small : value < 2 ^ 31) : asU32 value = value := by
  rw [← as_i32_small small]
  exact as_u32_as_i32 (by omega)

theorem delay_at_bounds (sensible : config.Sensible) (retryCount : Nat) :
    1 ≤ config.delayAt retryCount ∧ config.delayAt retryCount < 2 ^ 63 := by
  have power : (1 : Int) ≤ 2 ^ retryCount := one_le_pow₀ (by norm_num)
  have ordered := Int64.le_iff_toInt_le.mp sensible.ordered
  have below := config.maxDelaySecs.toInt_lt
  have product : 1 ≤ config.baseDelaySecs.toInt * 2 ^ retryCount :=
    one_le_mul_of_one_le_of_one_le sensible.positive power
  have positive := sensible.positive
  unfold delayAt
  omega

theorem jitter_at_bounds (sensible : config.Sensible) (retryCount : Nat) :
    0 ≤ config.jitterAt retryCount ∧ config.jitterAt retryCount ≤ config.delayAt retryCount := by
  have delay := (delay_at_bounds sensible retryCount).1
  have nonneg : (0 : ℚ) ≤ config.delayAt retryCount := by exact_mod_cast Int.le_of_lt delay
  unfold jitterAt
  constructor
  · exact Int.floor_nonneg.mpr (mul_nonneg nonneg sensible.share.1)
  · apply Int.floor_le_iff.mpr
    have whole := mul_le_of_le_one_right nonneg sensible.share.2
    linarith

theorem delay_at_mono (sensible : config.Sensible) {earlier later : Nat}
    (ordered : earlier ≤ later) : config.delayAt earlier ≤ config.delayAt later := by
  have powers : (2 : Int) ^ earlier ≤ 2 ^ later := pow_le_pow_right₀ (by norm_num) ordered
  have positive : 0 ≤ config.baseDelaySecs.toInt := by
    have least := sensible.positive
    omega
  have products := mul_le_mul_of_nonneg_left powers positive
  unfold delayAt
  omega

theorem jitter_at_mono (sensible : config.Sensible) {earlier later : Nat}
    (ordered : earlier ≤ later) : config.jitterAt earlier ≤ config.jitterAt later := by
  apply Int.floor_le_floor
  apply mul_le_mul_of_nonneg_right _ sensible.share.1
  exact_mod_cast delay_at_mono sensible ordered

/-- Where a retry fits, so do those before it. -/
theorem fits_earlier (sensible : config.Sensible) {earlier later : Nat}
    (ordered : earlier ≤ later) (fits : Fits limits config now later) :
    Fits limits config now earlier := by
  have delays := delay_at_mono sensible ordered
  have jitters := jitter_at_mono sensible ordered
  have powers : (2 : Int) ^ earlier ≤ 2 ^ later := pow_le_pow_right₀ (by norm_num) ordered
  have positive : 0 ≤ config.baseDelaySecs.toInt := by
    have least := sensible.positive
    omega
  have products := mul_le_mul_of_nonneg_left powers positive
  have product := fits.product
  have duration := fits.duration
  have date := fits.date
  constructor
  · omega
  · omega
  · omega

/-! ## One retry -/

/-- What the delay becomes once the power and the product are known to fit. -/
theorem calculate_delay_of_product (sensible : config.Sensible) (overflowChecks : Bool)
    (jitter : Jitter) {retryCount : Nat} (small : retryCount < 2 ^ 31)
    (product : config.baseDelaySecs.toInt * 2 ^ retryCount < 2 ^ 63) :
    config.calculateDelay overflowChecks limits jitter retryCount =
      (addI64 overflowChecks (config.delayAt retryCount)
        (if 0 < config.jitterAt retryCount then jitter.draw (config.jitterAt retryCount)
          else 0)).mapError .overflow >>= limits.seconds := by
  have positive := sensible.positive
  have power : (1 : Int) ≤ 2 ^ retryCount := one_le_pow₀ (by norm_num)
  have factor : (2 : Int) ^ retryCount ≤ config.baseDelaySecs.toInt * 2 ^ retryCount :=
    le_mul_of_one_le_left (by omega) positive
  have powerFits : FitsI64 ((2 : Int) ^ retryCount) := ⟨by omega, by omega⟩
  have productFits : FitsI64 (config.baseDelaySecs.toInt * 2 ^ retryCount) := ⟨by omega, product⟩
  have delay := delay_at_bounds sensible retryCount
  have jitterRange := jitter_at_bounds sensible retryCount
  have nonneg : (0 : ℚ) ≤ config.delayAt retryCount * config.jitterFactor := by
    apply mul_nonneg _ sensible.share.1
    exact_mod_cast Int.le_of_lt delay.1
  have truncated : truncI64 (config.delayAt retryCount * config.jitterFactor) =
      config.jitterAt retryCount := trunc_i64_of_nonneg nonneg (by unfold jitterAt at *; omega)
  unfold calculateDelay powI64 mulI64
  rw [as_u32_of_small small, result_i64_of_fits _ _ powerFits]
  dsimp only [Except.mapError, bind, Except.bind]
  rw [result_i64_of_fits _ _ productFits, ← truncated]
  rfl

theorem drawn_bounds (jitter : Jitter) {range : Int} (nonneg : 0 ≤ range) :
    -range ≤ (if 0 < range then jitter.draw range else 0) ∧
      (if 0 < range then jitter.draw range else 0) ≤ range := by
  split_ifs with positive
  · exact jitter.bounded range positive
  · omega

theorem calculate_delay_of_fits (sensible : config.Sensible) (overflowChecks : Bool)
    (jitter : Jitter) {retryCount : Nat} (small : retryCount < 2 ^ 31)
    (fits : Fits limits config now retryCount) :
    ∃ seconds, config.calculateDelay overflowChecks limits jitter retryCount = .ok seconds ∧
      |seconds - config.delayAt retryCount| ≤ config.jitterAt retryCount ∧ 0 ≤ seconds := by
  have range := jitter_at_bounds sensible retryCount
  have drawn := drawn_bounds jitter range.1
  have duration := fits.duration
  have longest := limits.fits
  have nonneg := limits.nonneg
  rw [calculate_delay_of_product sensible overflowChecks jitter small fits.product]
  generalize (if 0 < config.jitterAt retryCount then jitter.draw (config.jitterAt retryCount)
    else 0) = shift at drawn
  have sumFits : FitsI64 (config.delayAt retryCount + shift) := ⟨by omega, by omega⟩
  refine ⟨config.delayAt retryCount + shift, ?_, ?_, ?_⟩
  · rw [addI64, result_i64_of_fits _ _ sumFits]
    exact if_pos ⟨by omega, by omega⟩
  · rw [add_sub_cancel_left]
    exact abs_le.mpr drawn
  · omega

/-- The jitter that always goes as far as it may. -/
def widestJitter : Jitter := ⟨id, fun _ positive => ⟨by simp only [id]; omega, Int.le_refl _⟩⟩

/-- With it, a delay and a date in checked arithmetic need everything to fit. -/
theorem fits_of_widest (sensible : config.Sensible) {retryCount : Nat} (small : retryCount < 2 ^ 31)
    {time : Int}
    (dated : config.nextRetryAt true limits now widestJitter retryCount = .ok time) :
    Fits limits config now retryCount := by
  rcases bind_eq_ok.mp dated with ⟨seconds, delayed, isDate⟩
  have product : config.baseDelaySecs.toInt * 2 ^ retryCount < 2 ^ 63 := by
    rcases bind_eq_ok.mp delayed with ⟨power, powered, rest⟩
    rcases bind_eq_ok.mp rest with ⟨rawDelay, multiplied, _⟩
    rw [map_error_eq_ok, powI64, result_i64_checked_iff, as_u32_of_small small] at powered
    rw [map_error_eq_ok, mulI64, result_i64_checked_iff, ← powered.2] at multiplied
    exact multiplied.1.2
  rw [calculate_delay_of_product sensible true widestJitter small product] at delayed
  rcases bind_eq_ok.mp delayed with ⟨total, added, isDuration⟩
  rw [map_error_eq_ok, addI64, result_i64_checked_iff] at added
  have drawn : (if 0 < config.jitterAt retryCount then
      widestJitter.draw (config.jitterAt retryCount) else 0) = config.jitterAt retryCount := by
    have range := jitter_at_bounds sensible retryCount
    split_ifs with positive
    · rfl
    · omega
  rw [drawn] at added
  unfold ChronoLimits.seconds at isDuration
  split_ifs at isDuration with inBounds
  cases isDuration
  unfold ChronoLimits.after at isDate
  dsimp only at isDate
  split_ifs at isDate with inRange
  constructor
  · exact product
  · omega
  · rw [added.2]
    exact inRange.2

end

/-- A sensible configuration backs off, whatever is drawn and whether or not overflow is checked,
exactly if the power, the product and the date of its last retry stay within their bounds. -/
theorem backs_off_iff_last_retry_fits (limits : ChronoLimits) (config : BackoffConfig)
    (sensible : config.Sensible) (now : limits.Date) :
    BacksOff limits config now ↔ LastRetryFits limits config now := by
  have few := config.maxRetries.toInt_lt
  constructor
  · intro backsOff positive
    have isLast : ((config.maxRetries.toInt.toNat - 1 : Nat) : Int) < config.maxRetries.toInt := by
      omega
    rcases backsOff.dates true widestJitter _ isLast with ⟨time, dated⟩
    exact fits_of_widest sensible (by omega) dated
  · intro lastFits
    have everyFits : ∀ retryCount : Nat, retryCount < config.maxRetries.toInt →
        retryCount < 2 ^ 31 ∧ Fits limits config now retryCount := by
      intro retryCount inBudget
      refine ⟨by omega, ?_⟩
      exact fits_earlier sensible (by omega) (lastFits (by omega))
    constructor
    · intro overflowChecks jitter retryCount inBudget
      rcases everyFits retryCount inBudget with ⟨small, fits⟩
      rcases calculate_delay_of_fits sensible overflowChecks jitter small fits with
        ⟨seconds, delayed, near, _⟩
      exact ⟨seconds, delayed, near⟩
    · intro overflowChecks jitter retryCount inBudget
      rcases everyFits retryCount inBudget with ⟨small, fits⟩
      rcases calculate_delay_of_fits sensible overflowChecks jitter small fits with
        ⟨seconds, delayed, near, nonneg⟩
      have date := fits.date
      have start := now.property.1
      have above := (abs_le.mp near).2
      refine ⟨now.val + seconds * 1000000, ?_⟩
      unfold nextRetryAt
      rw [delayed]
      exact if_pos ⟨by omega, by omega⟩
    · intro overflowChecks jitters
      apply map_m_ok_iff.mpr
      intro retryCount member
      rcases everyFits retryCount (by have := List.mem_range.mp member; omega) with ⟨small, fits⟩
      rcases calculate_delay_of_fits sensible overflowChecks (jitters retryCount) small fits with
        ⟨seconds, delayed, _, _⟩
      exact ⟨seconds, delayed⟩

/-- A duration holds as many milliseconds as fit, and dates go to the year 262142. -/
def chronoLimits : ChronoLimits where
  longest := 9223372036854775
  earliest := -8334601228800000000
  latest := 8210266876799999999
  nonneg := by decide
  fits := by decide

def epoch : chronoLimits.Date := ⟨0, by decide⟩

theorem standard_sensible : standard.Sensible where
  positive := by decide
  ordered := by decide
  share := by norm_num [standard]

theorem standard_backs_off : BacksOff chronoLimits standard epoch := by
  apply (backs_off_iff_last_retry_fits chronoLimits standard standard_sensible epoch).mpr
  intro _
  have delay : standard.delayAt (standard.maxRetries.toInt.toNat - 1) = 80 := by decide
  have range := (jitter_at_bounds standard_sensible (standard.maxRetries.toInt.toNat - 1)).2
  constructor
  · decide
  · change _ ≤ (9223372036854775 : Int)
    omega
  · change 0 + _ * 1000000 ≤ (8210266876799999999 : Int)
    omega

/-- The standard delays with 63 retries: the product of the last one overflows before the cap. -/
theorem late_retry_not_capped :
    ({ standard with maxRetries := 63 } : BackoffConfig).Sensible ∧
      ¬BacksOff chronoLimits { standard with maxRetries := 63 } epoch := by
  have sensible : ({ standard with maxRetries := 63 } : BackoffConfig).Sensible :=
    ⟨by decide, by decide, standard_sensible.share⟩
  constructor
  · exact sensible
  · intro backsOff
    rcases backsOff.dates true widestJitter 62 (by decide) with ⟨time, dated⟩
    have fits := fits_of_widest sensible (by decide) dated
    exact absurd fits.product (by decide)

end BackoffConfig

end HodeiJobs.Messaging
