import HodeiJobs.Dispatch.Dispatchers
import HodeiJobs.Library.UnsignedInt

/-!
# Scaling by simple thresholds

`SimpleThresholdStrategy::evaluate` on a context. Nothing orders the two thresholds, and no
number of jobs for a worker is excluded.
-/

namespace HodeiJobs.Workers

open HodeiJobs.Dispatch (ProviderId)
open HodeiJobs.Library

inductive ScalingDecision where
  | none
  | scaleUp (providerId : ProviderId) (count : UInt32) (reason : String)
  | scaleDown (providerId : ProviderId) (count : UInt32) (reason : String)
  deriving DecidableEq

structure ScalingContext where
  providerId : ProviderId
  pendingJobs : UInt32
  healthyWorkers : UInt32
  busyWorkers : UInt32
  degradedWorkers : UInt32

namespace ScalingContext

variable (context : ScalingContext)

def totalWorkers : Except Arithmetic UInt32 := do
  addU32 (← addU32 context.healthyWorkers context.busyWorkers) context.degradedWorkers

def availableWorkers : UInt32 := context.healthyWorkers

/-- The number of workers, whether or not it is a `u32`. -/
def workers : Nat :=
  context.healthyWorkers.toNat + context.busyWorkers.toNat + context.degradedWorkers.toNat

end ScalingContext

structure SimpleThresholdStrategy where
  minWorkers : UInt32
  maxWorkers : UInt32
  jobsPerWorker : UInt32

namespace SimpleThresholdStrategy

def default : SimpleThresholdStrategy := ⟨1, 10, 1⟩

variable (strategy : SimpleThresholdStrategy) (context : ScalingContext)

/-- The second rule, for more pending jobs than available workers and with room for workers. -/
def scaleForPending (totalActive : UInt32) : Except Arithmetic ScalingDecision := do
  let missing ← subU32 context.pendingJobs context.availableWorkers
  let sum ← addU32 missing strategy.jobsPerWorker
  let rounded ← subU32 sum 1
  let potentialNew ← divU32 rounded strategy.jobsPerWorker
  let room ← subU32 strategy.maxWorkers totalActive
  let actualNew := minU32 potentialNew room
  if 0 < actualNew then
    return .scaleUp context.providerId actualNew
      ("Pending jobs (" ++ toString context.pendingJobs ++ ") exceed available workers (" ++
        toString context.availableWorkers ++ "), scaling up")
  else return .none

def evaluate : Except Arithmetic ScalingDecision := do
  let totalActive ← context.totalWorkers
  if totalActive < strategy.minWorkers then
    let count ← subU32 strategy.minWorkers totalActive
    return .scaleUp context.providerId count
      ("Scaling up to meet minimum workers (" ++ toString strategy.minWorkers ++ ")")
  else if context.availableWorkers < context.pendingJobs ∧ totalActive < strategy.maxWorkers then
    strategy.scaleForPending context totalActive
  else return .none

/-! ## What a decision is asked to be -/

/-- There are enough workers, and more jobs wait than there are workers for. -/
def Pressed : Prop :=
  strategy.minWorkers.toNat ≤ context.workers ∧
    context.availableWorkers.toNat < context.pendingJobs.toNat

/-- A decision to scale up stays within the maximum, and under pressure it makes for the smallest
number of workers that the waiting jobs need, as far as there is room. -/
structure Fits (decision : ScalingDecision) : Prop where
  bounded : ∀ providerId count reason, decision = .scaleUp providerId count reason →
    1 ≤ count.toNat ∧ context.workers + count.toNat ≤ strategy.maxWorkers.toNat
  least : strategy.Pressed context →
    ∀ providerId count reason, decision = .scaleUp providerId count reason →
      ∃ needed,
        IsLeast
          { number | context.pendingJobs.toNat - context.availableWorkers.toNat ≤
            number * strategy.jobsPerWorker.toNat }
          needed ∧
        count.toNat = min needed (strategy.maxWorkers.toNat - context.workers)
  scales : strategy.Pressed context → context.workers < strategy.maxWorkers.toNat →
    ∃ providerId count reason, decision = .scaleUp providerId count reason

/-- The evaluation comes to an end, and with such a decision. -/
def DecidesWell : Prop :=
  ∃ decision, strategy.evaluate context = .ok decision ∧ strategy.Fits context decision

/-- No sum leaves the `u32`, a minimum that is not reached lies below the maximum, and jobs are
shared out among workers only if each takes some. -/
structure WithinRange : Prop where
  total : context.workers < 2 ^ 32
  ordered : context.workers < strategy.minWorkers.toNat →
    strategy.minWorkers.toNat ≤ strategy.maxWorkers.toNat
  shared : strategy.Pressed context → context.workers < strategy.maxWorkers.toNat →
    0 < strategy.jobsPerWorker.toNat ∧
      context.pendingJobs.toNat - context.availableWorkers.toNat +
        strategy.jobsPerWorker.toNat < 2 ^ 32

variable {strategy : SimpleThresholdStrategy} {context : ScalingContext}

/-! ## The three outcomes -/

theorem total_workers_eq_ok (fits : context.workers < 2 ^ 32) :
    ∃ total, context.totalWorkers = .ok total ∧ total.toNat = context.workers := by
  unfold ScalingContext.workers at fits ⊢
  rcases add_u32_eq_ok context.healthyWorkers context.busyWorkers
    (by omega) with ⟨first, isFirst, firstValue⟩
  rcases add_u32_eq_ok first context.degradedWorkers (by omega) with
    ⟨total, isTotal, totalValue⟩
  refine ⟨total, ?_, by omega⟩
  rw [ScalingContext.totalWorkers, isFirst]
  exact isTotal

theorem total_workers_eq_error (large : 2 ^ 32 ≤ context.workers) :
    ∃ problem, context.totalWorkers = .error problem := by
  unfold ScalingContext.workers at large
  unfold ScalingContext.totalWorkers
  by_cases fits : context.healthyWorkers.toNat + context.busyWorkers.toNat < 2 ^ 32
  · rcases add_u32_eq_ok _ _ fits with ⟨first, isFirst, firstValue⟩
    have overflows := add_u32_eq_error first context.degradedWorkers (by omega)
    exact ⟨_, by rw [isFirst]; exact overflows⟩
  · have overflows := add_u32_eq_error _ _ (Nat.le_of_not_lt fits)
    exact ⟨_, by rw [overflows]; rfl⟩

/-- `needed_capacity - available + self.jobs_per_worker - 1`, divided. -/
theorem scale_for_pending_eq_error
    (more : context.availableWorkers.toNat < context.pendingJobs.toNat)
    (unshared : ¬(0 < strategy.jobsPerWorker.toNat ∧
      context.pendingJobs.toNat - context.availableWorkers.toNat +
        strategy.jobsPerWorker.toNat < 2 ^ 32)) (totalActive : UInt32) :
    ∃ problem, strategy.scaleForPending context totalActive = .error problem := by
  rcases sub_u32_eq_ok _ _ (Nat.le_of_lt more) with ⟨missing, isMissing, missingValue⟩
  by_cases fits : missing.toNat + strategy.jobsPerWorker.toNat < 2 ^ 32
  · have zero : strategy.jobsPerWorker = 0 := by
      apply UInt32.toNat_inj.mp
      rw [missingValue] at fits
      have none := not_and.mp unshared
      change strategy.jobsPerWorker.toNat = 0
      omega
    rcases add_u32_eq_ok _ _ fits with ⟨sum, isSum, sumValue⟩
    rcases sub_u32_eq_ok sum 1 (by change 1 ≤ _; omega) with ⟨rounded, isRounded, -⟩
    rw [zero] at isSum
    refine ⟨.divideByZero, ?_⟩
    simp only [scaleForPending, isMissing, zero, isSum, isRounded, div_u32_zero, bind, Except.bind]
  · refine ⟨.addWithOverflow, ?_⟩
    have overflows := add_u32_eq_error _ _ (Nat.le_of_not_lt fits)
    simp only [scaleForPending, isMissing, overflows, bind, Except.bind]

theorem scale_for_pending_eq_ok {totalActive : UInt32}
    (more : context.availableWorkers.toNat < context.pendingJobs.toNat)
    (room : totalActive.toNat < strategy.maxWorkers.toNat)
    (positive : 0 < strategy.jobsPerWorker.toNat)
    (fits : context.pendingJobs.toNat - context.availableWorkers.toNat +
      strategy.jobsPerWorker.toNat < 2 ^ 32) :
    ∃ count reason, strategy.scaleForPending context totalActive =
        .ok (.scaleUp context.providerId count reason) ∧ 0 < count.toNat ∧
      count.toNat = min
        ((context.pendingJobs.toNat - context.availableWorkers.toNat +
          strategy.jobsPerWorker.toNat - 1) / strategy.jobsPerWorker.toNat)
        (strategy.maxWorkers.toNat - totalActive.toNat) := by
  rcases sub_u32_eq_ok _ _ (Nat.le_of_lt more) with ⟨missing, isMissing, missingValue⟩
  rcases add_u32_eq_ok missing strategy.jobsPerWorker (by omega) with ⟨sum, isSum, sumValue⟩
  rcases sub_u32_eq_ok sum 1 (by change 1 ≤ _; omega) with ⟨rounded, isRounded, roundedValue⟩
  rcases div_u32_eq_ok rounded _ positive with ⟨potentialNew, isNew, newValue⟩
  rcases sub_u32_eq_ok _ _ (Nat.le_of_lt room) with ⟨free, isFree, freeValue⟩
  have some : 0 < potentialNew.toNat := by
    rw [newValue]
    apply Nat.div_pos _ positive
    change rounded.toNat = sum.toNat - 1 at roundedValue
    omega
  have positiveCount : 0 < (minU32 potentialNew free).toNat := by
    rw [min_u32_to_nat]
    omega
  refine ⟨minU32 potentialNew free, "Pending jobs (" ++ toString context.pendingJobs ++
    ") exceed available workers (" ++ toString context.availableWorkers ++ "), scaling up",
    ?_, positiveCount, ?_⟩
  · simp only [scaleForPending, isMissing, isSum, isRounded, isNew, isFree, bind, Except.bind]
    have more : 0 < minU32 potentialNew free := UInt32.lt_iff_toNat_lt.mpr positiveCount
    exact if_pos more
  · rw [min_u32_to_nat, newValue, freeValue, roundedValue, sumValue, missingValue]
    rfl

/-- The evaluation once the workers are counted. -/
theorem evaluate_eq (strategy : SimpleThresholdStrategy) {total : UInt32}
    (isTotal : context.totalWorkers = .ok total) :
    strategy.evaluate context =
      if total < strategy.minWorkers then
        (subU32 strategy.minWorkers total).map fun count =>
          .scaleUp context.providerId count
            ("Scaling up to meet minimum workers (" ++ toString strategy.minWorkers ++ ")")
      else if context.availableWorkers < context.pendingJobs ∧ total < strategy.maxWorkers then
        strategy.scaleForPending context total
      else .ok .none := by
  simp only [evaluate, isTotal, bind, Except.bind]
  split_ifs
  · cases subU32 strategy.minWorkers total <;> rfl
  · rfl
  · rfl

/-! ## The condition -/

theorem below_minimum_decides_well_iff {total : UInt32}
    (isTotal : context.totalWorkers = .ok total) (value : total.toNat = context.workers)
    (low : context.workers < strategy.minWorkers.toNat) :
    strategy.DecidesWell context ↔ strategy.minWorkers.toNat ≤ strategy.maxWorkers.toNat := by
  rcases sub_u32_eq_ok strategy.minWorkers total (by omega) with
    ⟨count, isCount, countValue⟩
  have below : total < strategy.minWorkers := UInt32.lt_iff_toNat_lt.mpr (by omega)
  have decision := evaluate_eq strategy isTotal
  rw [if_pos below, isCount] at decision
  constructor
  · intro ⟨other, isOther, fits⟩
    have same := Except.ok.inj (isOther.symm.trans decision)
    have bounded := fits.bounded _ _ _ same
    omega
  · intro ordered
    refine ⟨_, decision, ?_, ?_, ?_⟩
    · intro providerId number reason same
      cases same
      omega
    · intro pressed
      have enough := pressed.1
      omega
    · intro pressed
      have enough := pressed.1
      omega

theorem calm_decides_well {total : UInt32} (isTotal : context.totalWorkers = .ok total)
    (value : total.toNat = context.workers)
    (enough : strategy.minWorkers.toNat ≤ context.workers)
    (calm : ¬(context.availableWorkers.toNat < context.pendingJobs.toNat ∧
      context.workers < strategy.maxWorkers.toNat)) : strategy.DecidesWell context := by
  have notBelow : ¬total < strategy.minWorkers := by
    rw [UInt32.lt_iff_toNat_lt]
    omega
  have none : ¬(context.availableWorkers < context.pendingJobs ∧ total < strategy.maxWorkers) := by
    rw [UInt32.lt_iff_toNat_lt, UInt32.lt_iff_toNat_lt, value]
    exact calm
  have decision := evaluate_eq strategy isTotal
  rw [if_neg notBelow, if_neg none] at decision
  refine ⟨.none, decision, ?_, ?_, ?_⟩
  · intro providerId count reason same
    cases same
  · intro pressed providerId count reason same
    cases same
  · intro pressed room
    exact absurd ⟨pressed.2, room⟩ calm

theorem pressed_decides_well_iff {total : UInt32} (isTotal : context.totalWorkers = .ok total)
    (value : total.toNat = context.workers) (pressed : strategy.Pressed context)
    (room : context.workers < strategy.maxWorkers.toNat) :
    strategy.DecidesWell context ↔
      0 < strategy.jobsPerWorker.toNat ∧
        context.pendingJobs.toNat - context.availableWorkers.toNat +
          strategy.jobsPerWorker.toNat < 2 ^ 32 := by
  have notBelow : ¬total < strategy.minWorkers := by
    rw [UInt32.lt_iff_toNat_lt, value]
    exact Nat.not_lt_of_le pressed.1
  have both : context.availableWorkers < context.pendingJobs ∧ total < strategy.maxWorkers := by
    rw [UInt32.lt_iff_toNat_lt, UInt32.lt_iff_toNat_lt, value]
    exact ⟨pressed.2, room⟩
  have decision := evaluate_eq strategy isTotal
  rw [if_neg notBelow, if_pos both] at decision
  constructor
  · intro ⟨other, isOther, _⟩
    by_contra unshared
    rcases scale_for_pending_eq_error pressed.2 unshared total with ⟨problem, fails⟩
    rw [decision, fails] at isOther
    cases isOther
  · intro ⟨positive, fits⟩
    rcases scale_for_pending_eq_ok pressed.2 (value ▸ room) positive fits with
      ⟨count, reason, isScaled, some, isCount⟩
    rw [value] at isCount
    refine ⟨_, decision.trans isScaled, ?_, ?_, ?_⟩
    · intro providerId number text same
      cases same
      omega
    · intro _ providerId number text same
      cases same
      exact ⟨_, is_least_rounded_up _ positive, isCount⟩
    · intro _ _
      exact ⟨_, _, _, rfl⟩

/-- The evaluation decides well exactly within the range in which its arithmetic is exact and its
thresholds are ordered. -/
theorem decides_well_iff_within_range (strategy : SimpleThresholdStrategy)
    (context : ScalingContext) :
    strategy.DecidesWell context ↔ strategy.WithinRange context := by
  by_cases total : context.workers < 2 ^ 32
  · rcases total_workers_eq_ok total with ⟨count, isTotal, value⟩
    by_cases low : context.workers < strategy.minWorkers.toNat
    · rw [below_minimum_decides_well_iff isTotal value low]
      constructor
      · intro ordered
        exact ⟨total, fun _ => ordered, fun pressed => absurd pressed.1 (Nat.not_le_of_lt low)⟩
      · intro within
        exact within.ordered low
    · have enough := Nat.le_of_not_lt low
      by_cases active : context.availableWorkers.toNat < context.pendingJobs.toNat ∧
          context.workers < strategy.maxWorkers.toNat
      · rw [pressed_decides_well_iff isTotal value ⟨enough, active.1⟩ active.2]
        constructor
        · intro shared
          exact ⟨total, fun below => absurd below low, fun _ _ => shared⟩
        · intro within
          exact within.shared ⟨enough, active.1⟩ active.2
      · apply iff_of_true (calm_decides_well isTotal value enough active)
        refine ⟨total, fun below => absurd below low, ?_⟩
        intro pressed room
        exact absurd ⟨pressed.2, room⟩ active
  · apply iff_of_false
    · intro ⟨decision, isDecision, _⟩
      rcases total_workers_eq_error (Nat.le_of_not_lt total) with ⟨problem, fails⟩
      simp only [evaluate, fails, bind, Except.bind] at isDecision
      cases isDecision
    · intro within
      exact total within.total

/-- A minimum of three workers is asked for although two are the maximum. -/
theorem minimum_above_maximum :
    ¬(⟨3, 2, 1⟩ : SimpleThresholdStrategy).DecidesWell ⟨⟨1⟩, 0, 0, 0, 0⟩ := by
  intro ⟨decision, isDecision, fits⟩
  cases isDecision
  exact absurd (fits.bounded _ _ _ rfl).2 (by decide)

example :
    (⟨0, 10, 0⟩ : SimpleThresholdStrategy).evaluate ⟨⟨1⟩, 1, 0, 0, 0⟩ = .error .divideByZero := rfl

end SimpleThresholdStrategy

end HodeiJobs.Workers
