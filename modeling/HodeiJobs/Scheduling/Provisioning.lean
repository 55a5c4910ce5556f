import HodeiJobs.Scheduling.SmartScheduler

/-!
# Selection of a provider

Every strategy takes a provider that can accept a worker, and takes one as soon as there
is one, except that the healthiest must not be unhealthy.
-/

namespace HodeiJobs.Scheduling

open HodeiJobs.Dispatch (ProviderId)

/-! ## The claim -/

/-- The provider has room, and a GPU if the job requires one. -/
def Feasible (job : Job) (provider : ProviderInfo) : Prop :=
  provider.activeWorkers < provider.maxWorkers ∧
    (job.gpuRequired = true → provider.gpuSupport = true)

/-- The job's preferred provider is this one or its type. -/
def Preferred (tables : TextTables) (job : Job) (provider : ProviderInfo) : Prop :=
  ∃ preferred preference, job.preferences.preferredProvider = some preferred ∧
    ProviderPreference.new tables preferred = .ok preference ∧
      (preference.matchesProviderType provider.providerType = true ∨
        preference.isProviderId = true ∧
          preference.matchesProviderId tables.uuids provider.providerId = true)

/-- The one strategy that passes over a provider that has room. -/
def PassedOver (strategy : ProviderSelectionStrategy) (provider : ProviderInfo) : Prop :=
  strategy = .healthiest ∧ provider.healthScore < 5 / 10

structure SelectsFeasible (tables : TextTables) (scheduler : SmartScheduler) (job : Job)
    (providers : List ProviderInfo) : Prop where
  sound : ∀ providerId,
    (scheduler.selectProviderWithPreferences tables job providers).1 = some providerId →
      ∃ provider ∈ providers, provider.providerId = providerId ∧ Feasible job provider
  preferred : (∃ provider ∈ providers, Feasible job provider ∧ Preferred tables job provider) →
    ∃ provider ∈ providers, Feasible job provider ∧ Preferred tables job provider ∧
      (scheduler.selectProviderWithPreferences tables job providers).1 = some provider.providerId
  complete : (scheduler.selectProviderWithPreferences tables job providers).1 = none →
    ∀ provider ∈ providers, Feasible job provider →
      PassedOver scheduler.config.providerStrategy provider

/-- A job goes back into the queue only if no listed provider could take it. -/
def EnqueuesForLack (tables : TextTables) (scheduler : SmartScheduler)
    (context : SchedulingContext) : Prop :=
  ∀ jobId reason, (scheduler.schedule tables context).1 = .enqueue jobId reason →
    ∀ provider ∈ context.availableProviders, Feasible context.job provider →
      PassedOver scheduler.config.providerStrategy provider

namespace SmartScheduler

variable {tables : TextTables} {job : Job} {providers : List ProviderInfo}
  {provider : ProviderInfo} {providerId : ProviderId}

theorem can_accept_iff : provider.canAcceptWorkers = true ↔
    provider.activeWorkers < provider.maxWorkers := by
  simp [ProviderInfo.canAcceptWorkers]

/-! ## The strategies -/

/-- What a strategy returns has room, and it returns nothing only if it passes over
everything that has. -/
structure Selects (strategy : ProviderSelectionStrategy) (providers : List ProviderInfo)
    (selected : Option ProviderId) : Prop where
  sound : ∀ providerId, selected = some providerId →
    ∃ provider ∈ providers, provider.providerId = providerId ∧ provider.canAcceptWorkers = true
  complete : selected = none → ∀ provider ∈ providers, provider.canAcceptWorkers = true →
    PassedOver strategy provider

/-- A selector whose scores are positive exactly for the providers with room. -/
theorem selects_by_score {score : ProviderScoreInput → ℚ}
    (positive : ∀ provider, 0 < score (.fromProviderInfo provider) ↔
      provider.canAcceptWorkers = true) (strategy : ProviderSelectionStrategy)
    (providers : List ProviderInfo) :
    Selects strategy providers (selectByScore score providers) := by
  constructor
  · intro providerId selected
    obtain ⟨provider, listed, same, scored⟩ := select_by_score_some selected
    exact ⟨provider, listed, same, (positive provider).mp scored⟩
  · intro unselected provider listed accepts
    exact absurd ((positive provider).mpr accepts)
      (select_by_score_none unselected provider listed)

theorem selects_healthiest (providers : List ProviderInfo) :
    Selects .healthiest providers (HealthiestProviderSelector.selectProvider providers) := by
  constructor
  · intro providerId selected
    obtain ⟨provider, listed, same, scored⟩ := select_by_score_some selected
    exact ⟨provider, listed, same, ((health_score_pos_iff provider).mp scored).1⟩
  · intro unselected provider listed accepts
    have unscored := select_by_score_none unselected provider listed
    rw [health_score_pos_iff, and_iff_right accepts] at unscored
    exact ⟨rfl, not_le.mp unscored⟩

theorem selects_first (providers : List ProviderInfo) :
    Selects .firstAvailable providers
      ((providers.find? ProviderInfo.canAcceptWorkers).map ProviderInfo.providerId) := by
  constructor
  · intro providerId selected
    obtain ⟨provider, found, same⟩ := Option.map_eq_some_iff.mp selected
    exact ⟨provider, List.mem_of_find?_eq_some found, same, List.find?_some found⟩
  · intro unselected provider listed accepts
    have nothing := List.find?_eq_none.mp (Option.map_eq_none_iff.mp unselected)
    exact absurd accepts (nothing provider listed)

theorem selects_in_turn (index : Nat) (providers : List ProviderInfo)
    (some : (providers.filter ProviderInfo.canAcceptWorkers) ≠ []) :
    Selects .roundRobin providers
      ((providers.filter ProviderInfo.canAcceptWorkers)[index %
        (providers.filter ProviderInfo.canAcceptWorkers).length]?.map
          ProviderInfo.providerId) := by
  constructor
  · intro providerId selected
    obtain ⟨provider, indexed, same⟩ := Option.map_eq_some_iff.mp selected
    obtain ⟨listed, accepts⟩ := List.mem_filter.mp (List.mem_of_getElem? indexed)
    exact ⟨provider, listed, same, accepts⟩
  · intro unselected
    have inside := Nat.mod_lt index (List.length_pos_of_ne_nil some)
    rw [List.getElem?_eq_getElem inside] at unselected
    cases unselected

theorem select_provider_selects (scheduler : SmartScheduler) (providers : List ProviderInfo) :
    Selects scheduler.config.providerStrategy providers (scheduler.selectProvider providers).1 := by
  have nothing : ∀ strategy, (∀ provider ∈ providers, provider.canAcceptWorkers = false) →
      Selects strategy providers none := by
    intro strategy refuse
    constructor
    · intro providerId selected
      cases selected
    · intro _ provider listed accepts
      rw [refuse provider listed] at accepts
      cases accepts
  unfold selectProvider
  split_ifs with empty
  · apply nothing
    intro provider listed
    rw [List.isEmpty_iff.mp empty] at listed
    cases listed
  · cases scheduler.config.providerStrategy with
    | firstAvailable => exact selects_first providers
    | lowestCost => exact selects_by_score cost_score_pos_iff _ providers
    | fastestStartup => exact selects_by_score startup_score_pos_iff _ providers
    | mostCapacity => exact selects_by_score capacity_score_pos_iff _ providers
    | healthiest => exact selects_healthiest providers
    | roundRobin =>
        dsimp only
        split_ifs with none
        · apply nothing
          intro provider listed
          have refused := List.filter_eq_nil_iff.mp (List.isEmpty_iff.mp none) provider listed
          simpa using refused
        · exact selects_in_turn _ providers (by simpa using none)

/-! ## With the preferences of the job -/

/-- The providers left after the GPU filter. -/
def capableProviders (job : Job) (providers : List ProviderInfo) : List ProviderInfo :=
  if job.gpuRequired then providers.filter fun provider => provider.canHandleGpuRequirement 1
  else providers

theorem mem_capable_iff : provider ∈ capableProviders job providers ↔
    provider ∈ providers ∧ (job.gpuRequired = true → provider.gpuSupport = true) := by
  unfold capableProviders ProviderInfo.canHandleGpuRequirement
  cases job.gpuRequired <;> simp

theorem feasible_iff : provider ∈ providers ∧ Feasible job provider ↔
    provider ∈ capableProviders job providers ∧ provider.canAcceptWorkers = true := by
  rw [mem_capable_iff, can_accept_iff]
  unfold Feasible
  tauto

/-- The provider that the job asks for, if it is there and has room. -/
def preferredProvider (tables : TextTables) (job : Job) (providers : List ProviderInfo) :
    Option ProviderInfo :=
  job.preferences.preferredProvider.bind fun preferred =>
    providers.find? (matchesPreferred tables (ProviderPreference.new tables preferred).toOption)

theorem select_with_preferences_eq (scheduler : SmartScheduler) (job : Job)
    (providers : List ProviderInfo) :
    (scheduler.selectProviderWithPreferences tables job providers).1 =
      match preferredProvider tables job (capableProviders job providers) with
      | some provider => some provider.providerId
      | none => (scheduler.selectProvider (capableProviders job providers)).1 := by
  have nobody : ∀ selected, (capableProviders job providers).isEmpty = true → selected =
      preferredProvider tables job (capableProviders job providers) → selected = none := by
    intro selected empty same
    rw [same, preferredProvider, List.isEmpty_iff.mp empty]
    cases job.preferences.preferredProvider <;> rfl
  simp only [selectProviderWithPreferences]
  change (if (capableProviders job providers).isEmpty then (none, scheduler) else
    match preferredProvider tables job (capableProviders job providers) with
    | some provider => (some provider.providerId, scheduler)
    | none => scheduler.selectProvider (capableProviders job providers)).1 = _
  split_ifs with empty
  · rw [nobody _ empty rfl]
    simp [selectProvider, empty]
  · cases preferredProvider tables job (capableProviders job providers) <;> rfl

theorem matches_preferred_iff {preferred : String}
    (named : job.preferences.preferredProvider = some preferred) :
    matchesPreferred tables (ProviderPreference.new tables preferred).toOption provider = true ↔
      Preferred tables job provider ∧ provider.canAcceptWorkers = true := by
  unfold matchesPreferred Preferred
  cases built : ProviderPreference.new tables preferred with
  | error problem => simp [named, built, Except.toOption]
  | ok preference => simp [named, built, Except.toOption]

theorem preferred_provider_some
    (found : preferredProvider tables job (capableProviders job providers) = some provider) :
    provider ∈ providers ∧ Feasible job provider ∧ Preferred tables job provider := by
  obtain ⟨preferred, named, first⟩ := Option.bind_eq_some_iff.mp found
  obtain ⟨matched, accepts⟩ := (matches_preferred_iff named).mp (List.find?_some first)
  obtain ⟨listed, feasible⟩ := feasible_iff.mpr ⟨List.mem_of_find?_eq_some first, accepts⟩
  exact ⟨listed, feasible, matched⟩

theorem not_preferred_of_none
    (missing : preferredProvider tables job (capableProviders job providers) = none)
    (listed : provider ∈ providers) (feasible : Feasible job provider) :
    ¬Preferred tables job provider := by
  intro matched
  obtain ⟨capable, accepts⟩ := feasible_iff.mp ⟨listed, feasible⟩
  obtain ⟨preferred, preference, named, built, suits⟩ := matched
  have matched : Preferred tables job provider := ⟨preferred, preference, named, built, suits⟩
  have found := (matches_preferred_iff named).mpr ⟨matched, accepts⟩
  unfold preferredProvider at missing
  rw [named, Option.bind_some] at missing
  exact List.find?_eq_none.mp missing provider capable found

theorem selects_feasible (scheduler : SmartScheduler) (job : Job) (providers : List ProviderInfo) :
    SelectsFeasible tables scheduler job providers := by
  have selects := select_provider_selects scheduler (capableProviders job providers)
  cases found : preferredProvider tables job (capableProviders job providers) with
  | some chosen =>
      have answer : (scheduler.selectProviderWithPreferences tables job providers).1 =
          some chosen.providerId := by
        rw [select_with_preferences_eq, found]
      obtain ⟨listed, feasible, matched⟩ := preferred_provider_some found
      constructor
      · intro providerId selected
        rw [answer] at selected
        exact ⟨chosen, listed, Option.some.inj selected, feasible⟩
      · intro _
        exact ⟨chosen, listed, feasible, matched, answer⟩
      · intro unselected
        rw [answer] at unselected
        cases unselected
  | none =>
      have answer : (scheduler.selectProviderWithPreferences tables job providers).1 =
          (scheduler.selectProvider (capableProviders job providers)).1 := by
        rw [select_with_preferences_eq, found]
      rw [← answer] at selects
      constructor
      · intro providerId selected
        obtain ⟨provider, capable, same, accepts⟩ := selects.sound providerId selected
        obtain ⟨listed, feasible⟩ := feasible_iff.mpr ⟨capable, accepts⟩
        exact ⟨provider, listed, same, feasible⟩
      · intro ⟨provider, listed, feasible, matched⟩
        exact absurd matched (not_preferred_of_none found listed feasible)
      · intro unselected provider listed feasible
        obtain ⟨capable, accepts⟩ := feasible_iff.mp ⟨listed, feasible⟩
        exact selects.complete unselected provider capable accepts

/-! ## Decisions -/

theorem select_worker_config (scheduler : SmartScheduler) (job : Job)
    (workers : List Workers.Worker) :
    (scheduler.selectWorker tables job workers).2.config = scheduler.config := by
  simp only [selectWorker]
  split_ifs
  · rfl
  · rfl
  · cases scheduler.config.workerStrategy <;> rfl

theorem enqueues_for_lack (scheduler : SmartScheduler) (context : SchedulingContext) :
    EnqueuesForLack tables scheduler context := by
  intro jobId reason enqueued provider listed feasible
  simp only [schedule] at enqueued
  by_cases full : scheduler.config.maxQueueDepth < context.pendingJobsCount
  · rw [if_pos full] at enqueued
    cases enqueued
  rw [if_neg full] at enqueued
  generalize asked : (if context.availableWorkers.isEmpty then (none, scheduler)
    else scheduler.selectWorker tables context.job
      (offeredWorkers tables context.job context.availableWorkers)) = assigned at enqueued
  have config : assigned.2.config = scheduler.config := by
    rw [← asked]
    split_ifs
    · rfl
    · exact select_worker_config scheduler _ _
  cases chosen : assigned.1 with
  | some workerId =>
      rw [chosen] at enqueued
      cases enqueued
  | none =>
      rw [chosen] at enqueued
      dsimp only at enqueued
      cases selected : (assigned.2.selectProviderWithPreferences tables context.job
          context.availableProviders).1 with
      | some providerId =>
          rw [selected] at enqueued
          cases enqueued
      | none =>
          rw [← config]
          exact (selects_feasible assigned.2 _ _).complete selected provider listed feasible

/-- Whatever the strategy and the counters, a provider is selected as the job needs it,
and no job waits for a provider while one could take it. -/
theorem provider_selection (tables : TextTables) (scheduler : SmartScheduler) :
    (∀ job providers, SelectsFeasible tables scheduler job providers) ∧
      ∀ context, EnqueuesForLack tables scheduler context :=
  ⟨selects_feasible scheduler, enqueues_for_lack scheduler⟩

end SmartScheduler

end HodeiJobs.Scheduling
