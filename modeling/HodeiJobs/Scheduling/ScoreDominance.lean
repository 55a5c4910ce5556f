import HodeiJobs.Scheduling.ScoringCache
import Mathlib.Tactic.Linarith
import Mathlib.Tactic.Ring

/-!
# Providers that are better in every dimension

Whether a composite score of the standard criteria puts a provider below another one that it is
at least as good as. The startup score alone can: there free capacity counts against a provider,
by at most a fortieth of the difference.
-/

namespace HodeiJobs.Scheduling

/-- The criteria of the standard implementations. -/
inductive StandardCriterion where
  | cost
  | startupTime
  | health
  | capacity
  deriving DecidableEq

namespace StandardCriterion

def name : StandardCriterion → String
  | .cost => "cost"
  | .startupTime => "startup_time"
  | .health => "health"
  | .capacity => "capacity"

def score : StandardCriterion → ProviderScoreInput → ℚ
  | .cost => CostScoring.score
  | .startupTime => StartupTimeScoring.score
  | .health => HealthScoring.score
  | .capacity => CapacityScoring.score

def scoring {Job : Type} (criterion : StandardCriterion) : ProviderScoring Job :=
  ⟨criterion.name, fun _ => criterion.score⟩

def weight (weights : ScoringWeights) : StandardCriterion → ℚ
  | .cost => weights.cost
  | .startupTime => weights.startup
  | .health => weights.health
  | .capacity => weights.capacity

theorem weight_of_criterion (weights : ScoringWeights) (criterion : StandardCriterion) :
    weights.ofCriterion criterion.name = criterion.weight weights := by
  cases criterion <;> rfl

end StandardCriterion

/-- `health_critical`. -/
def ScoringWeights.healthCritical : ScoringWeights := ⟨1 / 2, 15 / 100, 1 / 5, 15 / 100, []⟩

structure ScoringWeights.NonNegative (weights : ScoringWeights) : Prop where
  health : 0 ≤ weights.health
  cost : 0 ≤ weights.cost
  startup : 0 ≤ weights.startup
  capacity : 0 ≤ weights.capacity
  custom : ∀ entry ∈ weights.custom, 0 ≤ entry.2

def CompositeProviderScoring.standard {Job : Type} (criteria : List StandardCriterion)
    (weights : ScoringWeights) : CompositeProviderScoring Job :=
  ⟨criteria.map StandardCriterion.scoring, weights⟩

/-- The scoring of `CompositeProviderSelector::health_optimized`. -/
def CompositeProviderSelector.healthOptimized {Job : Type} : CompositeProviderSelector Job where
  scoring := .standard [.health, .cost, .startupTime] .healthCritical
  preferHigher := true

/-- A provider that accepts workers, with values in the ranges of their fields. -/
structure ProviderScoreInput.Offered (provider : ProviderScoreInput) : Prop where
  accepts : provider.canAcceptWorkers = true
  someCapacity : 0 ≤ provider.availableCapacity
  wholeCapacity : provider.availableCapacity ≤ 1
  cost : 0 ≤ provider.costPerHour

structure ProviderScoreInput.AtLeastAsGood (better worse : ProviderScoreInput) : Prop where
  health : worse.healthScore ≤ better.healthScore
  cost : better.costPerHour ≤ worse.costPerHour
  startup : better.startupTime.nanos ≤ worse.startupTime.nanos
  capacity : worse.availableCapacity ≤ better.availableCapacity

/-- No provider is put below one that it is at least as good as. -/
def CompositeProviderScoring.NeverBelow {Job : Type} (scoring : CompositeProviderScoring Job)
    (job : Job) : Prop :=
  ∀ better worse, ProviderScoreInput.Offered better → ProviderScoreInput.Offered worse →
    better.AtLeastAsGood worse → scoring.score job worse ≤ scoring.score job better

/-! ## Each criterion -/

variable {better worse : ProviderScoreInput}

theorem health_penalty_ge_one (health : ℚ) : 1 ≤ healthPenalty health := by
  unfold healthPenalty
  split_ifs <;> norm_num

theorem health_penalty_antitone {low high : ℚ} (ordered : low ≤ high) :
    healthPenalty high ≤ healthPenalty low := by
  unfold healthPenalty
  split_ifs <;> linarith

/-- What the cost and the startup score make of an amount that is not negative. -/
theorem inverse_score_eq {amount : ℚ} (nonneg : 0 ≤ amount) :
    (if amount ≤ 0 then 1 else 1 / (1 + amount)) = 1 / (1 + amount) := by
  split_ifs with free
  · have zero : amount = 0 := le_antisymm free nonneg
    rw [zero]
    norm_num
  · rfl

theorem inverse_antitone {less more : ℚ} (nonneg : 0 ≤ less) (ordered : less ≤ more) :
    1 / (1 + more) ≤ 1 / (1 + less) := by
  apply one_div_le_one_div_of_le
  · linarith
  · linarith

theorem cost_score_eq (offered : worse.Offered) :
    CostScoring.score worse =
      1 / (1 + worse.costPerHour * healthPenalty worse.healthScore *
        (1 - worse.availableCapacity * (1 / 10))) := by
  have penalty := health_penalty_ge_one worse.healthScore
  have discount : 0 ≤ 1 - worse.availableCapacity * (1 / 10) := by
    have whole := offered.wholeCapacity
    linarith
  have nonneg : 0 ≤ worse.costPerHour * healthPenalty worse.healthScore *
      (1 - worse.availableCapacity * (1 / 10)) := by
    apply mul_nonneg _ discount
    apply mul_nonneg offered.cost
    linarith
  unfold CostScoring.score
  rw [offered.accepts]
  exact inverse_score_eq nonneg

theorem cost_score_le (offeredBetter : better.Offered) (offeredWorse : worse.Offered)
    (dominates : better.AtLeastAsGood worse) :
    CostScoring.score worse ≤ CostScoring.score better := by
  have penaltyBetter := health_penalty_ge_one better.healthScore
  have penalties := health_penalty_antitone dominates.health
  have discountBetter : 0 ≤ 1 - better.availableCapacity * (1 / 10) := by
    have whole := offeredBetter.wholeCapacity
    linarith
  have discounts : 1 - better.availableCapacity * (1 / 10) ≤
      1 - worse.availableCapacity * (1 / 10) := by
    have capacities := dominates.capacity
    linarith
  have multiplied : better.costPerHour * healthPenalty better.healthScore ≤
      worse.costPerHour * healthPenalty worse.healthScore := by
    apply mul_le_mul dominates.cost penalties _ offeredWorse.cost
    linarith
  have charged : 0 ≤ better.costPerHour * healthPenalty better.healthScore := by
    apply mul_nonneg offeredBetter.cost
    linarith
  rw [cost_score_eq offeredBetter, cost_score_eq offeredWorse]
  apply inverse_antitone
  · exact mul_nonneg charged discountBetter
  · exact mul_le_mul multiplied discounts discountBetter (le_trans charged multiplied)

theorem health_score_le (offeredBetter : better.Offered) (offeredWorse : worse.Offered)
    (dominates : better.AtLeastAsGood worse) :
    HealthScoring.score worse ≤ HealthScoring.score better := by
  have ordered := dominates.health
  unfold HealthScoring.score
  simp only [offeredBetter.accepts, offeredWorse.accepts, Bool.not_true, Bool.false_eq_true,
    if_false]
  split_ifs <;> linarith

theorem capacity_score_eq (offered : worse.Offered) :
    CapacityScoring.score worse = worse.availableCapacity := by
  unfold CapacityScoring.score
  rw [offered.accepts]
  rfl

/-! ## The startup score -/

/-- The startup time in seconds, with the penalty for bad health. -/
def startupSeconds (provider : ProviderScoreInput) : ℚ :=
  (provider.startupTime.nanos / 1000000 : Nat) * healthPenalty provider.healthScore / 1000

theorem startup_seconds_nonneg (provider : ProviderScoreInput) : 0 ≤ startupSeconds provider := by
  have penalty := health_penalty_ge_one provider.healthScore
  have positive : 0 ≤ healthPenalty provider.healthScore := by linarith
  unfold startupSeconds
  positivity

theorem startup_seconds_le (dominates : better.AtLeastAsGood worse) :
    startupSeconds better ≤ startupSeconds worse := by
  have penalty := health_penalty_ge_one better.healthScore
  have penalties := health_penalty_antitone dominates.health
  have millis : ((better.startupTime.nanos / 1000000 : Nat) : ℚ) ≤
      (worse.startupTime.nanos / 1000000 : Nat) := by
    apply Nat.cast_le.mpr
    exact Nat.div_le_div_right dominates.startup
  have nonneg : (0 : ℚ) ≤ (worse.startupTime.nanos / 1000000 : Nat) := Nat.cast_nonneg _
  unfold startupSeconds
  apply div_le_div_of_nonneg_right _ (by norm_num)
  apply mul_le_mul millis penalties _ nonneg
  linarith

theorem startup_score_eq (offered : worse.Offered) :
    StartupTimeScoring.score worse =
      1 / (1 + startupSeconds worse * (1 + worse.availableCapacity / 10)) := by
  have seconds := startup_seconds_nonneg worse
  have some := offered.someCapacity
  have nonneg : 0 ≤ startupSeconds worse * (1 + worse.availableCapacity / 10) := by positivity
  have scaled : (worse.startupTime.nanos / 1000000 : Nat) * healthPenalty worse.healthScore *
      (1 + worse.availableCapacity * (1 / 10)) =
        1000 * (startupSeconds worse * (1 + worse.availableCapacity / 10)) := by
    unfold startupSeconds
    ring
  have branch : 1000 * (startupSeconds worse * (1 + worse.availableCapacity / 10)) ≤ 0 ↔
      startupSeconds worse * (1 + worse.availableCapacity / 10) ≤ 0 := by
    constructor <;> intro free <;> linarith
  unfold StartupTimeScoring.score
  rw [offered.accepts]
  simp only [Bool.not_true, Bool.false_eq_true, if_false]
  rw [scaled, mul_div_cancel_left₀ _ (by norm_num : (1000 : ℚ) ≠ 0), if_congr branch rfl rfl]
  exact inverse_score_eq nonneg

/-- More capacity costs at most a fortieth of it. -/
theorem inverse_loss_le {seconds less more : ℚ} (nonneg : 0 ≤ seconds) (some : 0 ≤ less)
    (ordered : less ≤ more) :
    1 / (1 + seconds * (1 + less / 10)) - 1 / (1 + seconds * (1 + more / 10)) ≤
      (more - less) / 40 := by
  have lessPos : 0 < 1 + seconds * (1 + less / 10) := by positivity
  have someMore : 0 ≤ more := le_trans some ordered
  have morePos : 0 < 1 + seconds * (1 + more / 10) := by positivity
  have difference : 1 / (1 + seconds * (1 + less / 10)) - 1 / (1 + seconds * (1 + more / 10)) =
      seconds * ((more - less) / 10) /
        ((1 + seconds * (1 + less / 10)) * (1 + seconds * (1 + more / 10))) := by
    rw [div_sub_div _ _ (ne_of_gt lessPos) (ne_of_gt morePos)]
    congr 1
    ring
  -- both factors are at least `1 + seconds`, and their product is at least four times that
  have square : 4 * seconds ≤ (1 + seconds) * (1 + seconds) := by
    have positive := mul_self_nonneg (1 - seconds)
    linarith
  have lessFactor : 1 + seconds ≤ 1 + seconds * (1 + less / 10) := by
    have extra : 0 ≤ seconds * (less / 10) := by positivity
    linarith
  have moreFactor : 1 + seconds ≤ 1 + seconds * (1 + more / 10) := by
    have extra : 0 ≤ seconds * (more / 10) := by positivity
    linarith
  have product : (1 + seconds) * (1 + seconds) ≤
      (1 + seconds * (1 + less / 10)) * (1 + seconds * (1 + more / 10)) := by
    apply mul_le_mul lessFactor moreFactor
    · linarith
    · linarith
  have gap : 0 ≤ more - less := by linarith
  rw [difference, div_le_iff₀ (mul_pos lessPos morePos)]
  calc seconds * ((more - less) / 10) = (more - less) / 40 * (4 * seconds) := by ring
    _ ≤ (more - less) / 40 *
        ((1 + seconds * (1 + less / 10)) * (1 + seconds * (1 + more / 10))) := by
      apply mul_le_mul_of_nonneg_left (le_trans square product)
      positivity

theorem startup_loss_le (offeredBetter : better.Offered) (offeredWorse : worse.Offered)
    (dominates : better.AtLeastAsGood worse) :
    StartupTimeScoring.score worse - StartupTimeScoring.score better ≤
      (better.availableCapacity - worse.availableCapacity) / 40 := by
  have seconds := startup_seconds_le dominates
  have nonneg := startup_seconds_nonneg better
  have some := offeredBetter.someCapacity
  have factor : 0 ≤ 1 + better.availableCapacity / 10 := by positivity
  have slower : 1 / (1 + startupSeconds worse * (1 + better.availableCapacity / 10)) ≤
      1 / (1 + startupSeconds better * (1 + better.availableCapacity / 10)) := by
    apply inverse_antitone
    · exact mul_nonneg nonneg factor
    · exact mul_le_mul_of_nonneg_right seconds factor
  have loss := inverse_loss_le (startup_seconds_nonneg worse) offeredWorse.someCapacity
    dominates.capacity
  rw [startup_score_eq offeredBetter, startup_score_eq offeredWorse]
  linarith

/-! ## The weighted mix -/

/-- The weight that a criterion has in a list of them. -/
def share (criteria : List StandardCriterion) (weights : ScoringWeights)
    (criterion : StandardCriterion) : ℚ :=
  criteria.count criterion * criterion.weight weights

/-- The startup score weighs no more than forty times what the capacity score weighs. -/
def StartupWithinCapacity (criteria : List StandardCriterion) (weights : ScoringWeights) : Prop :=
  share criteria weights .startupTime ≤ 40 * share criteria weights .capacity

theorem share_nonneg {weights : ScoringWeights} (nonneg : weights.NonNegative)
    (criteria : List StandardCriterion) (criterion : StandardCriterion) :
    0 ≤ share criteria weights criterion := by
  have weight : 0 ≤ criterion.weight weights := by
    cases criterion with
    | cost => exact nonneg.cost
    | startupTime => exact nonneg.startup
    | health => exact nonneg.health
    | capacity => exact nonneg.capacity
  unfold share
  positivity

/-- A sum over the list, criterion by criterion. -/
theorem sum_by_criterion (criteria : List StandardCriterion) (value : StandardCriterion → ℚ) :
    (criteria.map value).sum =
      criteria.count .cost * value .cost + criteria.count .startupTime * value .startupTime +
        criteria.count .health * value .health + criteria.count .capacity * value .capacity := by
  induction criteria with
  | nil => simp
  | cons criterion rest ih =>
      rw [List.map_cons, List.sum_cons, ih]
      cases criterion <;> simp <;> ring

section Composite

variable {Job : Type} {criteria : List StandardCriterion} {weights : ScoringWeights}

/-- The sum that the composite score divides by the whole weight. -/
def weightedSum (criteria : List StandardCriterion) (weights : ScoringWeights)
    (provider : ProviderScoreInput) : ℚ :=
  share criteria weights .cost * CostScoring.score provider +
    share criteria weights .startupTime * StartupTimeScoring.score provider +
    share criteria weights .health * HealthScoring.score provider +
    share criteria weights .capacity * CapacityScoring.score provider

def wholeWeight (criteria : List StandardCriterion) (weights : ScoringWeights) : ℚ :=
  share criteria weights .cost + share criteria weights .startupTime +
    share criteria weights .health + share criteria weights .capacity

theorem whole_weight_nonneg (nonneg : weights.NonNegative) : 0 ≤ wholeWeight criteria weights := by
  have cost := share_nonneg nonneg criteria .cost
  have startup := share_nonneg nonneg criteria .startupTime
  have health := share_nonneg nonneg criteria .health
  have capacity := share_nonneg nonneg criteria .capacity
  unfold wholeWeight
  linarith

theorem standard_score_eq (job : Job) (provider : ProviderScoreInput) :
    (CompositeProviderScoring.standard criteria weights).score job provider =
      weightedSum criteria weights provider / wholeWeight criteria weights := by
  have whole : ((criteria.map (@StandardCriterion.scoring Job)).map fun criterion =>
      weights.ofCriterion criterion.name).sum = wholeWeight criteria weights := by
    rw [List.map_map]
    have each := sum_by_criterion criteria fun criterion => criterion.weight weights
    simp only [← StandardCriterion.weight_of_criterion] at each
    unfold wholeWeight share
    simp only [← StandardCriterion.weight_of_criterion]
    exact each
  have mixed : ((criteria.map (@StandardCriterion.scoring Job)).map fun criterion =>
      criterion.score job provider * weights.ofCriterion criterion.name).sum =
        weightedSum criteria weights provider := by
    rw [List.map_map]
    have each := sum_by_criterion criteria fun criterion =>
      criterion.score provider * criterion.weight weights
    simp only [← StandardCriterion.weight_of_criterion] at each
    unfold weightedSum share
    simp only [← StandardCriterion.weight_of_criterion]
    refine each.trans ?_
    simp only [StandardCriterion.score]
    ring
  unfold CompositeProviderScoring.score CompositeProviderScoring.standard
  dsimp only
  rw [whole, mixed]
  split_ifs with empty unweighted
  · have nothing : criteria = [] := by simpa using empty
    subst nothing
    simp [weightedSum, share]
  · rw [unweighted, div_zero]
  · rfl

/-- Whatever capacity takes from the startup score, the capacity score gives back. -/
theorem weighted_sum_le (nonneg : weights.NonNegative)
    (within : StartupWithinCapacity criteria weights) (offeredBetter : better.Offered)
    (offeredWorse : worse.Offered) (dominates : better.AtLeastAsGood worse) :
    weightedSum criteria weights worse ≤ weightedSum criteria weights better := by
  have cost := mul_le_mul_of_nonneg_left (cost_score_le offeredBetter offeredWorse dominates)
    (share_nonneg nonneg criteria .cost)
  have health := mul_le_mul_of_nonneg_left (health_score_le offeredBetter offeredWorse dominates)
    (share_nonneg nonneg criteria .health)
  have startup := mul_le_mul_of_nonneg_left (startup_loss_le offeredBetter offeredWorse dominates)
    (share_nonneg nonneg criteria .startupTime)
  have gap : 0 ≤ (better.availableCapacity - worse.availableCapacity) / 40 := by
    have capacities := dominates.capacity
    linarith
  have covered := mul_le_mul_of_nonneg_right within gap
  unfold weightedSum
  rw [capacity_score_eq offeredBetter, capacity_score_eq offeredWorse]
  linarith

/-- A healthy provider that costs nothing and starts in a second. -/
def freeProvider (availableCapacity : ℚ) : ProviderScoreInput where
  providerId := ⟨1⟩
  providerType := .docker
  healthScore := 1
  costPerHour := 0
  startupTime := .fromSecs 1
  availableCapacity := availableCapacity
  canAcceptWorkers := true

theorem free_provider_offered {capacity : ℚ} (some : 0 ≤ capacity) (whole : capacity ≤ 1) :
    (freeProvider capacity).Offered :=
  ⟨rfl, some, whole, le_refl 0⟩

theorem weighted_sum_free_provider {capacity : ℚ} (some : 0 ≤ capacity) (whole : capacity ≤ 1) :
    weightedSum criteria weights (freeProvider capacity) =
      share criteria weights .cost + share criteria weights .health +
        share criteria weights .startupTime * (1 / (2 + capacity / 10)) +
        share criteria weights .capacity * capacity := by
  have offered := free_provider_offered some whole
  have cost : CostScoring.score (freeProvider capacity) = 1 := by
    rw [cost_score_eq offered]
    simp [freeProvider]
  have health : HealthScoring.score (freeProvider capacity) = 1 := by
    norm_num [HealthScoring.score, freeProvider]
  have seconds : startupSeconds (freeProvider capacity) = 1 := by
    norm_num [startupSeconds, freeProvider, healthPenalty, Sagas.Duration.fromSecs]
  have startup : StartupTimeScoring.score (freeProvider capacity) = 1 / (2 + capacity / 10) := by
    rw [startup_score_eq offered, seconds]
    congr 1
    simp only [freeProvider]
    ring
  unfold weightedSum
  rw [cost, health, startup, capacity_score_eq offered]
  simp only [freeProvider]
  ring

/-- Beyond the bound, some small capacity takes more from the startup score than it adds. -/
theorem exists_outweighed {startupWeight capacityWeight : ℚ} (nonneg : 0 ≤ capacityWeight)
    (beyond : 40 * capacityWeight < startupWeight) :
    ∃ capacity, 0 ≤ capacity ∧ capacity ≤ 1 ∧
      startupWeight * (1 / (2 + capacity / 10)) + capacityWeight * capacity <
        startupWeight * (1 / 2) := by
  have excess : 0 < startupWeight - 40 * capacityWeight := by linarith
  have scale : 0 < 2 * capacityWeight + (startupWeight - 40 * capacityWeight) := by linarith
  have scaled := div_mul_cancel₀ (startupWeight - 40 * capacityWeight) (ne_of_gt scale)
  have positive := div_pos excess scale
  have atMostOne : (startupWeight - 40 * capacityWeight) /
      (2 * capacityWeight + (startupWeight - 40 * capacityWeight)) ≤ 1 := by
    rw [div_le_one scale]
    linarith
  generalize (startupWeight - 40 * capacityWeight) /
    (2 * capacityWeight + (startupWeight - 40 * capacityWeight)) = capacity at *
  have denominator : 0 < 40 + 2 * capacity := by linarith
  have other : 0 < 2 + capacity / 10 := by linarith
  have loss : 1 / 2 - 1 / (2 + capacity / 10) = capacity / (40 + 2 * capacity) := by
    rw [div_sub_div _ _ two_ne_zero (ne_of_gt other), div_eq_div_iff _ (ne_of_gt denominator)]
    · ring
    · exact mul_ne_zero two_ne_zero (ne_of_gt other)
  have below : capacityWeight * (40 + 2 * capacity) < startupWeight := by
    have grows := mul_pos positive excess
    linarith
  have outweighs : capacityWeight * capacity <
      startupWeight * (capacity / (40 + 2 * capacity)) := by
    have multiplied := mul_lt_mul_of_pos_right below positive
    rw [← mul_div_assoc, lt_div_iff₀ denominator]
    linarith
  refine ⟨capacity, le_of_lt positive, atMostOne, ?_⟩
  rw [← loss] at outweighs
  linarith

/-- A startup weight beyond the bound puts a free provider below one without free capacity. -/
theorem outweighed (nonneg : weights.NonNegative)
    (beyond : ¬StartupWithinCapacity criteria weights) :
    ∃ capacity, 0 ≤ capacity ∧ capacity ≤ 1 ∧
      weightedSum criteria weights (freeProvider capacity) <
        weightedSum criteria weights (freeProvider 0) := by
  have capacityShare := share_nonneg nonneg criteria .capacity
  rcases exists_outweighed capacityShare (not_le.mp beyond) with ⟨capacity, some, whole, less⟩
  refine ⟨capacity, some, whole, ?_⟩
  rw [weighted_sum_free_provider some whole, weighted_sum_free_provider (le_refl 0) zero_le_one]
  norm_num
  norm_num at less
  linarith

/-- A composite score ranks no provider below one that it is at least as good as, exactly if its
startup criteria weigh at most forty times as much as its capacity criteria. -/
theorem never_below_iff_startup_within_capacity (criteria : List StandardCriterion)
    (weights : ScoringWeights) (nonneg : weights.NonNegative) (job : Job) :
    (CompositeProviderScoring.standard criteria weights).NeverBelow job ↔
      StartupWithinCapacity criteria weights := by
  have whole : 0 ≤ wholeWeight criteria weights := whole_weight_nonneg nonneg
  constructor
  · intro neverBelow
    by_contra beyond
    obtain ⟨capacity, some, atMostOne, less⟩ := outweighed nonneg beyond
    have ranked := neverBelow (freeProvider capacity) (freeProvider 0)
      (free_provider_offered some atMostOne) (free_provider_offered (le_refl 0) zero_le_one)
      ⟨le_refl _, le_refl _, Nat.le_refl _, some⟩
    rw [standard_score_eq, standard_score_eq] at ranked
    rcases lt_or_eq_of_le whole with positive | zero
    · rw [div_le_div_iff_of_pos_right positive] at ranked
      linarith
    · have cost := share_nonneg nonneg criteria .cost
      have startup := share_nonneg nonneg criteria .startupTime
      have health := share_nonneg nonneg criteria .health
      have capacityShare := share_nonneg nonneg criteria .capacity
      apply beyond
      unfold StartupWithinCapacity
      unfold wholeWeight at zero
      linarith
  · intro within better worse offeredBetter offeredWorse dominates
    rw [standard_score_eq, standard_score_eq]
    apply div_le_div_of_nonneg_right _ whole
    exact weighted_sum_le nonneg within offeredBetter offeredWorse dominates

end Composite

theorem balanced_non_negative : ScoringWeights.balanced.NonNegative := by
  constructor <;> norm_num [ScoringWeights.balanced]

/-- The balanced selector is within the bound. -/
theorem balanced_never_below : CompositeProviderSelector.balanced.scoring.NeverBelow () := by
  apply (never_below_iff_startup_within_capacity [.cost, .startupTime, .health, .capacity]
    .balanced balanced_non_negative ()).mpr
  have once : ∀ criterion, List.count criterion
      [StandardCriterion.cost, .startupTime, .health, .capacity] = 1 := by
    intro criterion
    cases criterion <;> rfl
  unfold StartupWithinCapacity share
  rw [once, once]
  norm_num [StandardCriterion.weight, ScoringWeights.balanced]

/-- The selector for health has no capacity criterion: of two providers that are alike, one with
half of its capacity free comes before one with all of it free. -/
theorem health_optimized_puts_free_provider_below :
    ¬((freeProvider 1).Offered → (freeProvider (1 / 2)).Offered →
      (freeProvider 1).AtLeastAsGood (freeProvider (1 / 2)) →
        CompositeProviderSelector.healthOptimized.scoring.score () (freeProvider (1 / 2)) ≤
          CompositeProviderSelector.healthOptimized.scoring.score () (freeProvider 1)) := by
  intro ranked
  have below := ranked (free_provider_offered zero_le_one (le_refl 1))
    (free_provider_offered (by norm_num) (by norm_num))
    ⟨le_refl _, le_refl _, Nat.le_refl _, by norm_num [freeProvider]⟩
  revert below
  decide +kernel

end HodeiJobs.Scheduling
