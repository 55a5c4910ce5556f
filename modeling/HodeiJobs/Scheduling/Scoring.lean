import HodeiJobs.Dispatch.Dispatchers
import HodeiJobs.Workers.ProviderType
import Mathlib.Algebra.Order.Field.Rat
import Mathlib.Tactic.Positivity

/-!
# Scoring of providers

A floating-point number is read as the rational that its literal names. The selectors
of the four scored strategies are one selection, by the score that each has.
-/

namespace HodeiJobs.Scheduling

open HodeiJobs.Workers (ProviderType)
open HodeiJobs.Dispatch (ProviderId)
open HodeiJobs.Sagas (Duration)

structure ProviderInfo where
  providerId : ProviderId
  providerType : ProviderType
  activeWorkers : Nat
  maxWorkers : Nat
  estimatedStartupTime : Duration
  healthScore : ℚ
  costPerHour : ℚ
  gpuSupport : Bool
  deriving DecidableEq

namespace ProviderInfo

def canAcceptWorkers (provider : ProviderInfo) : Bool :=
  decide (provider.activeWorkers < provider.maxWorkers)

def canHandleGpuRequirement (provider : ProviderInfo) (requiredGpuCount : Nat) : Bool :=
  if requiredGpuCount = 0 then true else if provider.gpuSupport then true else false

end ProviderInfo

structure ProviderScoreInput where
  providerId : ProviderId
  providerType : ProviderType
  healthScore : ℚ
  costPerHour : ℚ
  startupTime : Duration
  availableCapacity : ℚ
  canAcceptWorkers : Bool
  deriving DecidableEq

def ProviderScoreInput.fromProviderInfo (provider : ProviderInfo) : ProviderScoreInput where
  providerId := provider.providerId
  providerType := provider.providerType
  healthScore := provider.healthScore
  costPerHour := provider.costPerHour
  startupTime := provider.estimatedStartupTime
  availableCapacity :=
    if provider.maxWorkers = 0 then 0
    else 1 - (provider.activeWorkers : ℚ) / (provider.maxWorkers : ℚ)
  canAcceptWorkers := decide (provider.activeWorkers < provider.maxWorkers)

/-! ## Scores -/

/-- The default method of `ProviderScoring`. -/
def healthPenalty (healthScore : ℚ) : ℚ :=
  if 9 / 10 ≤ healthScore then 1
  else if 7 / 10 ≤ healthScore then 12 / 10
  else if 5 / 10 ≤ healthScore then 15 / 10
  else 2

def CostScoring.score (provider : ProviderScoreInput) : ℚ :=
  if !provider.canAcceptWorkers then 0
  else
    let healthMultiplier := healthPenalty provider.healthScore
    let capacityBonus := 1 - provider.availableCapacity * (1 / 10)
    let effectiveCost := provider.costPerHour * healthMultiplier * capacityBonus
    if effectiveCost ≤ 0 then 1 else 1 / (1 + effectiveCost)

def StartupTimeScoring.score (provider : ProviderScoreInput) : ℚ :=
  if !provider.canAcceptWorkers then 0
  else
    let healthMultiplier := healthPenalty provider.healthScore
    let capacityPenalty := 1 + provider.availableCapacity * (1 / 10)
    let millis : ℚ := (provider.startupTime.nanos / 1000000 : Nat)
    let effectiveStartupMs := millis * healthMultiplier * capacityPenalty
    if effectiveStartupMs ≤ 0 then 1 else 1 / (1 + effectiveStartupMs / 1000)

def HealthScoring.score (provider : ProviderScoreInput) : ℚ :=
  if !provider.canAcceptWorkers then 0
  else if provider.healthScore < 5 / 10 then 0
  else provider.healthScore

def CapacityScoring.score (provider : ProviderScoreInput) : ℚ :=
  if !provider.canAcceptWorkers then 0 else provider.availableCapacity

/-! ## Selectors -/

/-- The body that the four selectors share: score, drop what has no score, sort by
descending score (the sort is stable) and take the first. -/
def selectByScore (score : ProviderScoreInput → ℚ) (providers : List ProviderInfo) :
    Option ProviderId :=
  if providers.isEmpty then none
  else
    let scored := (providers.map fun provider =>
      (provider.providerId, score (.fromProviderInfo provider))).filter fun entry => 0 < entry.2
    (scored.mergeSort fun first second => second.2 ≤ first.2).head?.map Prod.fst

def LowestCostProviderSelector.selectProvider : List ProviderInfo → Option ProviderId :=
  selectByScore CostScoring.score

def FastestStartupProviderSelector.selectProvider : List ProviderInfo → Option ProviderId :=
  selectByScore StartupTimeScoring.score

def MostCapacityProviderSelector.selectProvider : List ProviderInfo → Option ProviderId :=
  selectByScore CapacityScoring.score

def HealthiestProviderSelector.selectProvider : List ProviderInfo → Option ProviderId :=
  selectByScore HealthScoring.score

/-! ## Which providers have a score -/

theorem available_capacity_pos {provider : ProviderInfo}
    (accepts : provider.activeWorkers < provider.maxWorkers) :
    0 < (ProviderScoreInput.fromProviderInfo provider).availableCapacity := by
  have some : provider.maxWorkers ≠ 0 := by omega
  have positive : (0 : ℚ) < provider.maxWorkers := by exact_mod_cast Nat.pos_of_ne_zero some
  have fewer : (provider.activeWorkers : ℚ) < provider.maxWorkers := by exact_mod_cast accepts
  have share : (provider.activeWorkers : ℚ) / provider.maxWorkers < 1 := by
    rwa [div_lt_one positive]
  simp only [ProviderScoreInput.fromProviderInfo, if_neg some]
  exact sub_pos.mpr share

/-- The shape of the cost and of the startup score: the more, the lower, never zero. -/
theorem inverse_score_pos (amount scale : ℚ) (scaled : 0 < scale) :
    0 < if amount ≤ 0 then 1 else 1 / (1 + amount / scale) := by
  split_ifs with free
  · exact one_pos
  · have positive : 0 < amount := not_le.mp free
    positivity

theorem cost_score_pos_iff (provider : ProviderInfo) :
    0 < CostScoring.score (.fromProviderInfo provider) ↔ provider.canAcceptWorkers = true := by
  unfold CostScoring.score ProviderInfo.canAcceptWorkers
  by_cases accepts : provider.activeWorkers < provider.maxWorkers
  · have positive := inverse_score_pos
      ((ProviderScoreInput.fromProviderInfo provider).costPerHour *
        healthPenalty (ProviderScoreInput.fromProviderInfo provider).healthScore *
        (1 - (ProviderScoreInput.fromProviderInfo provider).availableCapacity * (1 / 10))) 1 one_pos
    rw [div_one] at positive
    simpa [ProviderScoreInput.fromProviderInfo, accepts] using positive
  · simp [ProviderScoreInput.fromProviderInfo, accepts]

theorem startup_score_pos_iff (provider : ProviderInfo) :
    0 < StartupTimeScoring.score (.fromProviderInfo provider) ↔
      provider.canAcceptWorkers = true := by
  unfold StartupTimeScoring.score ProviderInfo.canAcceptWorkers
  by_cases accepts : provider.activeWorkers < provider.maxWorkers
  · have positive := fun amount => inverse_score_pos amount 1000 (by positivity)
    simp only [ProviderScoreInput.fromProviderInfo, accepts, decide_true, Bool.not_true,
      Bool.false_eq_true, if_false, iff_true]
    exact positive _
  · simp [ProviderScoreInput.fromProviderInfo, accepts]

theorem health_score_pos_iff (provider : ProviderInfo) :
    0 < HealthScoring.score (.fromProviderInfo provider) ↔
      provider.canAcceptWorkers = true ∧ 5 / 10 ≤ provider.healthScore := by
  unfold HealthScoring.score ProviderInfo.canAcceptWorkers
  by_cases accepts : provider.activeWorkers < provider.maxWorkers
  · simp only [ProviderScoreInput.fromProviderInfo, accepts, decide_true, Bool.not_true,
      Bool.false_eq_true, if_false, true_and]
    split_ifs with low
    · exact iff_of_false (lt_irrefl 0) (not_le.mpr low)
    · have high := not_lt.mp low
      exact iff_of_true (lt_of_lt_of_le (by positivity) high) high
  · simp [ProviderScoreInput.fromProviderInfo, accepts]

theorem capacity_score_pos_iff (provider : ProviderInfo) :
    0 < CapacityScoring.score (.fromProviderInfo provider) ↔
      provider.canAcceptWorkers = true := by
  unfold CapacityScoring.score ProviderInfo.canAcceptWorkers
  by_cases accepts : provider.activeWorkers < provider.maxWorkers
  · have positive := available_capacity_pos accepts
    simpa [ProviderScoreInput.fromProviderInfo, accepts] using positive
  · simp [ProviderScoreInput.fromProviderInfo, accepts]

/-! ## What a selector returns -/

variable {score : ProviderScoreInput → ℚ} {providers : List ProviderInfo}

theorem select_by_score_some {providerId : ProviderId}
    (selected : selectByScore score providers = some providerId) :
    ∃ provider ∈ providers, provider.providerId = providerId ∧
      0 < score (.fromProviderInfo provider) := by
  unfold selectByScore at selected
  split_ifs at selected with empty
  obtain ⟨entry, first, same⟩ := Option.map_eq_some_iff.mp selected
  have member := List.mem_mergeSort.mp (List.mem_of_mem_head? first)
  obtain ⟨scored, positive⟩ := List.mem_filter.mp member
  obtain ⟨provider, listed, made⟩ := List.mem_map.mp scored
  subst made
  exact ⟨provider, listed, same, by simpa using positive⟩

theorem select_by_score_none (unselected : selectByScore score providers = none) :
    ∀ provider ∈ providers, ¬0 < score (.fromProviderInfo provider) := by
  intro provider listed positive
  unfold selectByScore at unselected
  split_ifs at unselected with empty
  · rw [List.isEmpty_iff] at empty
    rw [empty] at listed
    cases listed
  · rw [Option.map_eq_none_iff, List.head?_eq_none_iff] at unselected
    have member : (provider.providerId, score (.fromProviderInfo provider)) ∈
        (providers.map fun provider =>
          (provider.providerId, score (.fromProviderInfo provider))).filter
            fun entry => decide (0 < entry.2) :=
      List.mem_filter.mpr ⟨List.mem_map.mpr ⟨provider, listed, rfl⟩, by simpa using positive⟩
    rw [← List.mem_mergeSort, unselected] at member
    cases member

end HodeiJobs.Scheduling
