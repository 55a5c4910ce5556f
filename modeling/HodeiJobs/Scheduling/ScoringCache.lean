import HodeiJobs.Library.Runs
import HodeiJobs.Scheduling.Scoring
import HodeiJobs.Scheduling.LruTtlCache

/-!
# Selection with a cache

`CompositeProviderSelector`, and `CachedProviderSelector` on top of it. Selectors may share a
cache. Criteria are any functions of the job and the provider, the hash of the weights any
function of them.
-/

namespace HodeiJobs.Scheduling

open HodeiJobs.Library
open HodeiJobs.Dispatch (ProviderId)
open HodeiJobs.Execution (JobId)

/-! ## Composite scoring -/

/-- The custom weights in the order in which their map is iterated. -/
structure ScoringWeights where
  health : ℚ
  cost : ℚ
  startup : ℚ
  capacity : ℚ
  custom : List (String × ℚ)

def ScoringWeights.balanced : ScoringWeights := ⟨1 / 4, 1 / 4, 1 / 4, 1 / 4, []⟩

def ScoringWeights.ofCriterion (weights : ScoringWeights) (name : String) : ℚ :=
  if name = "cost" then weights.cost
  else if name = "startup_time" then weights.startup
  else if name = "health" then weights.health
  else if name = "capacity" then weights.capacity
  else (weights.custom.lookup name).getD 0

structure ProviderScoring (Job : Type) where
  name : String
  score : Job → ProviderScoreInput → ℚ

structure CompositeProviderScoring (Job : Type) where
  criteria : List (ProviderScoring Job)
  weights : ScoringWeights

structure CompositeProviderSelector (Job : Type) where
  scoring : CompositeProviderScoring Job
  preferHigher : Bool

section

variable {Job : Type}

def CompositeProviderScoring.score (scoring : CompositeProviderScoring Job) (job : Job)
    (provider : ProviderScoreInput) : ℚ :=
  if scoring.criteria.isEmpty then 0
  else
    let totalWeight :=
      (scoring.criteria.map fun criterion => scoring.weights.ofCriterion criterion.name).sum
    if totalWeight = 0 then 0
    else
      let weightedSum := (scoring.criteria.map fun criterion =>
        criterion.score job provider * scoring.weights.ofCriterion criterion.name).sum
      weightedSum / totalWeight

/-- The order of `sort_by`. -/
def RanksBefore (preferHigher : Bool) (first second : ProviderId × ℚ) : Prop :=
  if preferHigher = true then second.2 ≤ first.2 else first.2 ≤ second.2

instance (preferHigher : Bool) : DecidableRel (RanksBefore preferHigher) :=
  fun first second => inferInstanceAs
    (Decidable (if preferHigher = true then second.2 ≤ first.2 else first.2 ≤ second.2))

namespace CompositeProviderSelector

def balanced : CompositeProviderSelector Job where
  scoring :=
    { criteria :=
        [⟨"cost", fun _ => CostScoring.score⟩, ⟨"startup_time", fun _ => StartupTimeScoring.score⟩,
          ⟨"health", fun _ => HealthScoring.score⟩, ⟨"capacity", fun _ => CapacityScoring.score⟩]
      weights := .balanced }
  preferHigher := true

variable (selector : CompositeProviderSelector Job) (job : Job)

def providerScores (providers : List ProviderInfo) : List (ProviderId × ℚ) :=
  providers.map fun provider =>
    (provider.providerId, selector.scoring.score job (.fromProviderInfo provider))

/-- The sort is stable. A provider without room is not left out. -/
def selectProvider (providers : List ProviderInfo) : Option ProviderId :=
  if providers.isEmpty then none
  else
    (((selector.providerScores job providers).insertionSort
      (RanksBefore selector.preferHigher)).head?).map Prod.fst

end CompositeProviderSelector

end

/-! ## The cache of selections -/

structure ScoringCacheKey where
  jobId : JobId
  providerIds : List ProviderId
  weightsHash : UInt64
  deriving DecidableEq

structure ScoredResult where
  selectedProvider : ProviderId
  providerScores : List (ProviderId × ℚ)
  computedAt : Nat

abbrev ScoringCache := LruTtlCache ScoringCacheKey ScoredResult

/-- `SCORING_CACHE_TTL` and `SCORING_CACHE_MAX_ENTRIES`. -/
def ScoringCache.new : ScoringCache := LruTtlCache.new (.fromSecs 30) 1000

/-- The clock in a call of `select_provider_cached`. -/
structure SelectReads where
  get : GetReads
  computed : Nat
  insert : InsertReads ScoringCacheKey

section

variable {Job : Type} (weightsHash : ScoringWeights → UInt64) (jobId : Job → JobId)

def ScoringCacheKey.new (job : Job) (providerIds : List ProviderId) (weights : ScoringWeights) :
    ScoringCacheKey :=
  ⟨jobId job, providerIds, weightsHash weights⟩

/-- `select_provider_cached` of a `CachedProviderSelector` with the selector and the cache. -/
def selectProviderCached (selector : CompositeProviderSelector Job) (cache : ScoringCache)
    (reads : SelectReads) (job : Job) (providers : List ProviderInfo) :
    Option ProviderId × ScoringCache :=
  if providers.isEmpty then (none, cache)
  else
    let key := ScoringCacheKey.new weightsHash jobId job
      (providers.map ProviderInfo.providerId) selector.scoring.weights
    match cache.get reads.get key with
    | (some cached, cache) => (some cached.selectedProvider, cache)
    | (none, cache) =>
        match selector.selectProvider job providers with
        | none => (none, cache)
        | some selected =>
            (some selected, (cache.insert reads.insert key
              ⟨selected, selector.providerScores job providers, reads.computed⟩).2)

end

/-! ## Runs of calls -/

structure SelectCall (Job : Type) where
  selector : CompositeProviderSelector Job
  reads : SelectReads
  job : Job
  providers : List ProviderInfo

/-- The cache, and what the selectors without it choose in each call so far, newest first. -/
structure SelectRun where
  cache : ScoringCache
  choices : List (ScoringCacheKey × Option ProviderId)

namespace SelectRun

def start : SelectRun := ⟨.new, []⟩

/-- The choice in the last call with the key. -/
def lastChoice (run : SelectRun) (key : ScoringCacheKey) : Option ProviderId :=
  (run.choices.lookup key).join

variable {Job : Type} (weightsHash : ScoringWeights → UInt64) (jobId : Job → JobId)

def keyOf (call : SelectCall Job) : ScoringCacheKey :=
  .new weightsHash jobId call.job (call.providers.map ProviderInfo.providerId)
    call.selector.scoring.weights

def choice (call : SelectCall Job) : Option ProviderId :=
  call.selector.selectProvider call.job call.providers

def answer (run : SelectRun) (call : SelectCall Job) : Option ProviderId × ScoringCache :=
  selectProviderCached weightsHash jobId call.selector run.cache call.reads call.job
    call.providers

def step (run : SelectRun) (call : SelectCall Job) : SelectRun where
  cache := (run.answer weightsHash jobId call).2
  choices := (keyOf weightsHash jobId call, choice call) :: run.choices

/-- The answer is a listed provider with room. -/
def NamesProviderWithRoom (call : SelectCall Job) (answer : Option ProviderId) : Prop :=
  ∃ provider ∈ call.providers,
    answer = some provider.providerId ∧ provider.canAcceptWorkers = true

/-- The call is answered as without the cache, by a provider that can accept workers. -/
def AnsweredAfresh (run : SelectRun) (call : SelectCall Job) : Prop :=
  NamesProviderWithRoom call (run.answer weightsHash jobId call).1 ∧
    (run.answer weightsHash jobId call).1 = choice call

/-- The selector chooses a provider with room, and where the cache has an answer, the same one
as in the last call with the key. -/
def ChoiceStands (run : SelectRun) (call : SelectCall Job) : Prop :=
  NamesProviderWithRoom call (choice call) ∧
    ∀ cached, run.cache.live call.reads.get.found (keyOf weightsHash jobId call) = some cached →
      run.lastChoice (keyOf weightsHash jobId call) = choice call

/-! ## How a call is answered -/

section

variable {weightsHash jobId} {run : SelectRun} {call : SelectCall Job}

theorem answer_of_live (listed : ¬call.providers.isEmpty = true) {cached : ScoredResult}
    (isLive : run.cache.live call.reads.get.found (keyOf weightsHash jobId call) = some cached) :
    run.answer weightsHash jobId call = (some cached.selectedProvider,
      (run.cache.get call.reads.get (keyOf weightsHash jobId call)).2) := by
  rw [← LruTtlCache.get_value] at isLive
  unfold answer selectProviderCached keyOf at *
  rw [if_neg listed]
  dsimp only
  generalize run.cache.get call.reads.get _ = got at *
  obtain ⟨value, cache⟩ := got
  cases isLive
  rfl

theorem answer_of_absent (listed : ¬call.providers.isEmpty = true)
    (absent : run.cache.live call.reads.get.found (keyOf weightsHash jobId call) = none) :
    run.answer weightsHash jobId call =
      match choice call with
      | none => (none, (run.cache.get call.reads.get (keyOf weightsHash jobId call)).2)
      | some selected =>
          (some selected, ((run.cache.get call.reads.get (keyOf weightsHash jobId call)).2.insert
            call.reads.insert (keyOf weightsHash jobId call)
            ⟨selected, call.selector.providerScores call.job call.providers,
              call.reads.computed⟩).2) := by
  rw [← LruTtlCache.get_value] at absent
  unfold answer selectProviderCached keyOf choice at *
  rw [if_neg listed]
  dsimp only
  generalize run.cache.get call.reads.get _ = got at *
  obtain ⟨value, cache⟩ := got
  cases absent
  rfl

/-- Whatever is cached for a key is what was chosen in the last call with it. -/
def Remembers (run : SelectRun) : Prop :=
  run.cache.Holds ScoredResult.selectedProvider run.lastChoice

theorem start_remembers : start.Remembers := LruTtlCache.new_holds _ _ _

theorem answered_afresh_iff (remembers : run.Remembers) (call : SelectCall Job) :
    run.AnsweredAfresh weightsHash jobId call ↔ run.ChoiceStands weightsHash jobId call := by
  by_cases empty : call.providers.isEmpty = true
  · have nobody : ∀ answer, ¬NamesProviderWithRoom call answer := by
      intro answer ⟨provider, member, _⟩
      rw [List.isEmpty_iff.mp empty] at member
      cases member
    exact iff_of_false (fun afresh => nobody _ afresh.1) (fun stands => nobody _ stands.1)
  · cases isLive : run.cache.live call.reads.get.found (keyOf weightsHash jobId call) with
    | none =>
        have same : (run.answer weightsHash jobId call).1 = choice call := by
          rw [answer_of_absent empty isLive]
          cases choice call <;> rfl
        unfold AnsweredAfresh ChoiceStands
        rw [same, isLive]
        exact and_congr_right fun _ => iff_of_true rfl fun _ found => nomatch found
    | some cached =>
        have last := LruTtlCache.live_last remembers isLive
        unfold AnsweredAfresh ChoiceStands
        rw [answer_of_live empty isLive, isLive, last]
        constructor
        · intro ⟨room, same⟩
          rw [← same]
          exact ⟨room, fun _ _ => rfl⟩
        · intro ⟨room, stands⟩
          have same := stands cached rfl
          rw [same]
          exact ⟨room, rfl⟩

theorem last_choice_step (wanted : ScoringCacheKey) :
    (run.step weightsHash jobId call).lastChoice wanted =
      if wanted = keyOf weightsHash jobId call then choice call else run.lastChoice wanted := by
  unfold lastChoice step
  rw [List.lookup_cons]
  split_ifs with same
  · rw [beq_iff_eq.mpr same]
    rfl
  · rw [beq_eq_false_iff_ne.mpr same]

/-- A call whose choice stands leaves the cache with the last choice for its key. -/
theorem remembers_step (remembers : run.Remembers) (call : SelectCall Job)
    (stands : run.ChoiceStands weightsHash jobId call) :
    (run.step weightsHash jobId call).Remembers := by
  obtain ⟨⟨provider, member, chosen, -⟩, repeated⟩ := stands
  have listed : ¬call.providers.isEmpty = true := by
    intro empty
    rw [List.isEmpty_iff.mp empty] at member
    cases member
  have kept := LruTtlCache.get_holds remembers call.reads.get (keyOf weightsHash jobId call)
  have last : ∀ wanted, (run.step weightsHash jobId call).lastChoice wanted =
      if wanted = keyOf weightsHash jobId call then choice call else run.lastChoice wanted :=
    last_choice_step
  unfold Remembers
  cases isLive : run.cache.live call.reads.get.found (keyOf weightsHash jobId call) with
  | some cached =>
      have sameLast : (run.step weightsHash jobId call).lastChoice = run.lastChoice := by
        funext wanted
        rw [last]
        split_ifs with same
        · rw [same]
          exact (repeated cached isLive).symm
        · rfl
      rw [sameLast, step, answer_of_live listed isLive]
      exact kept
  | none =>
      have inserted : (run.step weightsHash jobId call).cache =
          ((run.cache.get call.reads.get (keyOf weightsHash jobId call)).2.insert
            call.reads.insert (keyOf weightsHash jobId call)
            ⟨provider.providerId, call.selector.providerScores call.job call.providers,
              call.reads.computed⟩).2 := by
        rw [step, answer_of_absent listed isLive, chosen]
      rw [inserted]
      apply LruTtlCache.insert_holds kept
      · rw [last, if_pos rfl, chosen]
      · intro other different
        rw [last, if_neg different]

end

/-- Every call is answered as without the cache, by a provider with room, in exactly the runs
in which every choice stands. -/
theorem answered_afresh_iff_choice_stands (calls : List (SelectCall Job)) :
    EachMove (step weightsHash jobId) (AnsweredAfresh weightsHash jobId) start calls ↔
      EachMove (step weightsHash jobId) (ChoiceStands weightsHash jobId) start calls := by
  rw [← each_move_congr_within (step weightsHash jobId) Remembers]
  · intro run call remembers
    exact (answered_afresh_iff remembers call).symm
  · intro run call remembers stands
    exact remembers_step remembers call stands
  · exact start_remembers

/-- A local provider, with so many of its ten workers active. -/
def busyProvider (id activeWorkers : Nat) : ProviderInfo where
  providerId := ⟨id⟩
  providerType := .docker
  activeWorkers := activeWorkers
  maxWorkers := 10
  estimatedStartupTime := .fromSecs 5
  healthScore := 1
  costPerHour := 0
  gpuSupport := false

def balancedCall (reads : SelectReads) (providers : List ProviderInfo) : SelectCall JobId :=
  ⟨.balanced, reads, ⟨7⟩, providers⟩

/-- Two calls for a job, a second apart. In between the first provider fills up. -/
def filledUp : List (SelectCall JobId) :=
  [balancedCall ⟨⟨0, 0, 0⟩, 0, ⟨0, fun _ => 0⟩⟩ [busyProvider 1 0, busyProvider 2 5],
    balancedCall ⟨⟨1000000000, 1000000000, 1000000000⟩, 1000000000, ⟨1000000000, fun _ => 0⟩⟩
      [busyProvider 1 10, busyProvider 2 5]]

/-- The second call still names the provider that is full. -/
theorem filled_up_still_chosen :
    ¬EachMove (step (fun _ => 0) id) (AnsweredAfresh (fun _ => 0) id) start filledUp := by
  intro ⟨_, afresh, _⟩
  have same := afresh.2
  revert same
  decide +kernel

end SelectRun

end HodeiJobs.Scheduling
