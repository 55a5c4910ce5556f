import HodeiJobs.Credentials.DefaultSelection

/-!
# Health checks of all providers

The results are written back one after the other, in the order of a hash map. A default provider
that fails is replaced at once by the best of those that are available at that moment; one that
recovers replaces nobody.
-/

namespace HodeiJobs.Credentials

open Library Library.LockProgram

open CredentialProviderRegistry

variable {Provider Secret : Type} {registry : CredentialProviderRegistry Provider}

/-- A provider after the results of `done` are written back. -/
def checked (outcome : String → Except CredentialError Unit) (done : List String)
    (entry : RegisteredProvider Provider) : RegisteredProvider Provider :=
  { entry with
    healthy := if entry.name ∈ done then (outcome entry.name).isOk else entry.healthy }

section HealthChecks

variable {outcome : String → Except CredentialError Unit} {done : List String}
  {start : CredentialProviderRegistry Provider}

theorem checked_name (entry : RegisteredProvider Provider) :
    (checked outcome done entry).name = entry.name := rfl

theorem checked_nil (entry : RegisteredProvider Provider) : checked outcome [] entry = entry := rfl

theorem checked_cons (name : String) (entry : RegisteredProvider Provider) :
    (if (checked outcome done entry).name = name then
        setHealth (outcome name).isOk (checked outcome done entry)
      else checked outcome done entry) = checked outcome (name :: done) entry := by
  rw [checked_name]
  unfold checked setHealth
  by_cases same : entry.name = name
  · simp [same]
  · simp [same]

/-- How far a health check has come. -/
def CheckedSoFar (start : CredentialProviderRegistry Provider)
    (outcome : String → Except CredentialError Unit) (done : List String)
    (registry : CredentialProviderRegistry Provider) : Prop :=
  registry.providers.rows = start.providers.rows.map (checked outcome done)

theorem checked_start : CheckedSoFar start outcome [] start := by
  unfold CheckedSoFar
  rw [funext checked_nil, List.map_id']

theorem checked_updated (soFar : CheckedSoFar start outcome done registry)
    {update : StatusUpdate Provider} (isResult : update.1.2 = outcome update.1.1) :
    CheckedSoFar start outcome (update.1.1 :: done) (registry.updated update) := by
  unfold CheckedSoFar at soFar ⊢
  show registry.providers.rows.map _ = _
  rw [soFar, List.map_map, isResult]
  exact List.map_congr_left fun entry _ => checked_cons update.1.1 entry

theorem mem_checked (soFar : CheckedSoFar start outcome done registry)
    {entry : RegisteredProvider Provider} (isIn : entry ∈ registry.providers.rows) :
    ∃ former ∈ start.providers.rows, entry = checked outcome done former := by
  rw [soFar] at isIn
  obtain ⟨former, wasIn, rfl⟩ := List.mem_map.mp isIn
  exact ⟨former, wasIn, rfl⟩

theorem checked_mem (soFar : CheckedSoFar start outcome done registry)
    {former : RegisteredProvider Provider} (wasIn : former ∈ start.providers.rows) :
    checked outcome done former ∈ registry.providers.rows := by
  rw [soFar]
  exact List.mem_map.mpr ⟨former, wasIn, rfl⟩

theorem healthy_checked_iff {entry : RegisteredProvider Provider} (isDone : entry.name ∈ done) :
    (checked outcome done entry).healthy = true ↔ (outcome entry.name).isOk = true := by
  unfold checked
  rw [if_pos isDone]

/-- A healthy provider that answers is available all the time. -/
theorem available_checked {entry : RegisteredProvider Provider} (answers : Answers outcome entry)
    (healthy : entry.healthy = true) : Available (checked outcome done entry) := by
  refine ⟨answers.1, ?_⟩
  by_cases isDone : entry.name ∈ done
  · exact (healthy_checked_iff isDone).mpr answers.2
  · unfold checked
    rwa [if_neg isDone]

/-- What each update keeps holds after all of them. -/
theorem holds_after_updates (holds : List String → CredentialProviderRegistry Provider → Prop)
    (updates : List (StatusUpdate Provider))
    (step : ∀ done registry, ∀ update ∈ updates, holds done registry →
      holds (update.1.1 :: done) (registry.updated update))
    (initial : holds done registry) :
    holds ((updates.map fun update => update.1.1).reverse ++ done)
      (updates.foldl CredentialProviderRegistry.updated registry) := by
  induction updates generalizing done registry with
  | nil => exact initial
  | cons update rest ih =>
      have first := step done registry update List.mem_cons_self initial
      have later := ih (fun done registry update isLater =>
        step done registry update (List.mem_cons_of_mem _ isLater)) first
      rw [List.map_cons, List.reverse_cons, List.append_assoc]
      exact later

/-- What an update can do to the default: nothing, or it fails the default provider and selects the
best of the available ones. -/
theorem default_updated (registry : CredentialProviderRegistry Provider)
    (update : StatusUpdate Provider) :
    ((registry.updated update).defaultProvider = registry.defaultProvider ∧
      (update.1.2.isOk = false → registry.defaultProvider = some update.1.1 →
        ∀ entry ∈ (registry.updated update).providers.rows, ¬Available entry)) ∨
    ∃ best ∈ (registry.updated update).providers.rows,
      (update.1.2.isOk = false ∧ registry.defaultProvider = some update.1.1) ∧
      (registry.updated update).defaultProvider = some best.name ∧ Available best ∧
      ∀ entry ∈ (registry.updated update).providers.rows, Available entry →
        entry.config.priority ≤ best.config.priority := by
  have default : (registry.updated update).defaultProvider =
      if update.1.2.isOk = false ∧ registry.defaultProvider = some update.1.1 then
        ((bestOf (update.2.order (registry.updated update).providers.rows)).map
          RegisteredProvider.name).or registry.defaultProvider
      else registry.defaultProvider := rfl
  have sameRows := update.2.perm (registry.updated update).providers.rows
  by_cases fails : update.1.2.isOk = false ∧ registry.defaultProvider = some update.1.1
  · rw [if_pos fails] at default
    cases found : bestOf (update.2.order (registry.updated update).providers.rows) with
    | none =>
        rw [found] at default
        refine Or.inl ⟨default, ?_⟩
        intro _ _ entry isIn
        exact best_of_none found entry (sameRows.mem_iff.mpr isIn)
    | some best =>
        rw [found] at default
        obtain ⟨isIn, available, highest⟩ := best_of_some found
        refine Or.inr ⟨best, sameRows.mem_iff.mp isIn, fails, default, available, ?_⟩
        intro entry isEntry
        exact highest entry (sameRows.mem_iff.mpr isEntry)
  · rw [if_neg fails] at default
    exact Or.inl ⟨default, fun failed isDefault => absurd ⟨failed, isDefault⟩ fails⟩

/-- The default provider is one that is not below `kept`, and has not failed. -/
def DefaultAbove (start : CredentialProviderRegistry Provider)
    (outcome : String → Except CredentialError Unit) (kept : RegisteredProvider Provider)
    (done : List String) (registry : CredentialProviderRegistry Provider) : Prop :=
  CheckedSoFar start outcome done registry ∧
    ∃ current ∈ start.providers.rows, registry.defaultProvider = some current.name ∧
      current.config.enabled = true ∧ kept.config.priority ≤ current.config.priority ∧
      (current.name ∈ done → (outcome current.name).isOk = true) ∧
      (kept.healthy = true ∨ current.name = kept.name)

theorem default_above_updated {kept : RegisteredProvider Provider}
    (isKept : kept ∈ start.providers.rows) (answers : Answers outcome kept)
    {update : StatusUpdate Provider} (isResult : update.1.2 = outcome update.1.1)
    (above : DefaultAbove start outcome kept done registry) :
    DefaultAbove start outcome kept (update.1.1 :: done) (registry.updated update) := by
  obtain ⟨soFar, current, isIn, isDefault, enabled, notBelow, works, keptOr⟩ := above
  have next := checked_updated soFar isResult
  refine ⟨next, ?_⟩
  obtain ⟨same, none⟩ | ⟨best, isBest, ⟨failed, wasDefault⟩, nowDefault, available, highest⟩ :=
    default_updated registry update
  · refine ⟨current, isIn, same.trans isDefault, enabled, notBelow, ?_, keptOr⟩
    intro isDone
    rcases List.mem_cons.mp isDone with now | before
    · -- were it the one that fails, `kept` would be there to take over
      by_contra fails
      have failed : update.1.2.isOk = false := by
        rw [isResult, ← now]
        exact Bool.eq_false_iff.mpr fails
      have different : kept.name ≠ current.name := fun is => fails (is ▸ answers.2)
      have healthy := keptOr.resolve_right fun is => different is.symm
      exact none failed (now ▸ isDefault) _ (checked_mem next isKept)
        (available_checked answers healthy)
    · exact works before
  · obtain ⟨former, wasIn, rfl⟩ := mem_checked next isBest
    have isCurrent : update.1.1 = current.name :=
      Option.some.inj (wasDefault.symm.trans isDefault)
    have different : kept.name ≠ current.name := by
      intro is
      rw [isResult, isCurrent, ← is, answers.2] at failed
      cases failed
    have healthy := keptOr.resolve_right fun is => different is.symm
    refine ⟨former, wasIn, nowDefault, available.1, ?_, ?_, Or.inl healthy⟩
    · exact highest (checked outcome (update.1.1 :: done) kept) (checked_mem next isKept)
        (available_checked answers healthy)
    · exact fun isDone => (healthy_checked_iff isDone).mp available.2

/-- The default provider is enabled, if there is one. -/
def DefaultEnabled (start : CredentialProviderRegistry Provider)
    (outcome : String → Except CredentialError Unit) (done : List String)
    (registry : CredentialProviderRegistry Provider) : Prop :=
  CheckedSoFar start outcome done registry ∧
    (registry.defaultProvider = none ∨ ∃ current ∈ start.providers.rows,
      registry.defaultProvider = some current.name ∧ current.config.enabled = true)

theorem default_enabled_updated {update : StatusUpdate Provider}
    (isResult : update.1.2 = outcome update.1.1)
    (enabled : DefaultEnabled start outcome done registry) :
    DefaultEnabled start outcome (update.1.1 :: done) (registry.updated update) := by
  obtain ⟨soFar, either⟩ := enabled
  have next := checked_updated soFar isResult
  refine ⟨next, ?_⟩
  obtain ⟨same, _⟩ | ⟨best, isBest, _, nowDefault, available, _⟩ :=
    default_updated registry update
  · rw [same]
    exact either
  · obtain ⟨former, wasIn, rfl⟩ := mem_checked next isBest
    exact Or.inr ⟨former, wasIn, nowDefault, available.1⟩

/-- After a whole health check the available providers are those that have answered. -/
theorem available_iff_answers (soFar : CheckedSoFar start outcome done registry)
    (all : ∀ entry ∈ start.providers.rows, entry.name ∈ done)
    {entry : RegisteredProvider Provider} (isIn : entry ∈ registry.providers.rows)
    (available : Available entry) :
    ∃ former ∈ start.providers.rows, entry = checked outcome done former ∧
      Answers outcome former := by
  obtain ⟨former, wasIn, rfl⟩ := mem_checked soFar isIn
  exact ⟨former, wasIn, rfl, available.1, (healthy_checked_iff (all former wasIn)).mp available.2⟩

theorem best_of_default_above {kept : RegisteredProvider Provider}
    (highest : ∀ entry ∈ start.providers.rows, Answers outcome entry →
      entry.config.priority ≤ kept.config.priority)
    (above : DefaultAbove start outcome kept done registry)
    (all : ∀ entry ∈ start.providers.rows, entry.name ∈ done) : registry.DefaultIsBest := by
  obtain ⟨soFar, current, isIn, isDefault, enabled, notBelow, works, _⟩ := above
  rw [default_is_best_iff_some isDefault]
  have found : registry.providers.find current.name = some (checked outcome done current) :=
    Table.find_of_mem (checked_mem soFar isIn)
  refine ⟨checked outcome done current, found, enabled, ?_⟩
  intro entry isEntry available
  obtain ⟨former, wasIn, rfl, answers⟩ := available_iff_answers soFar all isEntry available
  refine ⟨(healthy_checked_iff (all current isIn)).mpr (works (all current isIn)), ?_⟩
  exact (highest former wasIn answers).trans notBelow

theorem best_of_default_enabled
    (none : ∀ entry ∈ start.providers.rows, ¬Answers outcome entry)
    (enabled : DefaultEnabled start outcome done registry)
    (all : ∀ entry ∈ start.providers.rows, entry.name ∈ done) : registry.DefaultIsBest := by
  obtain ⟨soFar, either⟩ := enabled
  have nothing : ∀ entry ∈ registry.providers.rows, ¬Available entry := by
    intro entry isIn available
    obtain ⟨former, wasIn, _, answers⟩ := available_iff_answers soFar all isIn available
    exact none former wasIn answers
  rcases either with isNone | ⟨current, isIn, isDefault, isEnabled⟩
  · rwa [default_is_best_iff_none isNone]
  · rw [default_is_best_iff_some isDefault]
    have found : registry.providers.find current.name = some (checked outcome done current) :=
      Table.find_of_mem (checked_mem soFar isIn)
    refine ⟨checked outcome done current, found, isEnabled, ?_⟩
    intro entry isEntry available
    exact absurd available (nothing entry isEntry)

theorem mem_results_iff {orders : Orders Provider} {result : HealthResult} :
    result ∈ resultsOf registry orders outcome ↔
      ∃ entry ∈ registry.providers.rows, (entry.name, outcome entry.name) = result := by
  unfold resultsOf
  rw [((orders.results 1).perm _).mem_iff, List.mem_map]
  refine exists_congr fun entry => and_congr_left fun _ => ?_
  exact ((orders.providers 0).perm _).mem_iff

/-- The updates of a health check write back each outcome. -/
theorem updates_of_results {orders : Orders Provider} {updates : List (StatusUpdate Provider)}
    (are : updates.map Prod.fst = resultsOf registry orders outcome) :
    (∀ update ∈ updates, update.1.2 = outcome update.1.1) ∧
      ∀ entry ∈ registry.providers.rows,
        entry.name ∈ (updates.map fun update => update.1.1).reverse ++ [] := by
  constructor
  · intro update isIn
    have isResult := List.mem_map_of_mem (f := Prod.fst) isIn
    rw [are] at isResult
    obtain ⟨entry, _, same⟩ := mem_results_iff.mp isResult
    rw [← same]
  · intro entry isIn
    have isResult : (entry.name, outcome entry.name) ∈ resultsOf registry orders outcome :=
      mem_results_iff.mpr ⟨entry, isIn, rfl⟩
    rw [← are] at isResult
    obtain ⟨update, isUpdate, same⟩ := List.mem_map.mp isResult
    rw [List.append_nil, List.mem_reverse]
    exact List.mem_map.mpr ⟨update, isUpdate, congrArg Prod.fst same⟩

theorem health_check_keeps (best : registry.DefaultIsBest)
    (meets : HealthCheckMeets registry outcome) (orders : Orders Provider) :
    (registry.after ((.healthCheckAll outcome, orders) :
      RequestMove Provider Secret)).DefaultIsBest := by
  obtain ⟨updates, are, after⟩ := after_health_check_all Secret registry orders outcome
  obtain ⟨results, all⟩ := updates_of_results are
  rw [after]
  by_cases answered : ∃ entry ∈ registry.providers.rows, Answers outcome entry
  · obtain ⟨kept, isKept, answers, keptOr, highest⟩ := meets answered
    refine best_of_default_above highest (holds_after_updates
      (DefaultAbove registry outcome kept) updates ?_ ⟨checked_start, ?_⟩) all
    · intro done registry update isIn
      exact default_above_updated isKept answers (results update isIn)
    · cases isDefault : registry.defaultProvider with
      | none =>
          rw [default_is_best_iff_none isDefault] at best
          rcases keptOr with healthy | isKept'
          · exact absurd ⟨answers.1, healthy⟩ (best kept isKept)
          · cases isDefault.symm.trans isKept'
      | some name =>
          rw [default_is_best_iff_some isDefault] at best
          obtain ⟨default, found, enabled, bounds⟩ := best
          have isIn : default ∈ registry.providers.rows := List.mem_of_find?_eq_some found
          have key : default.name = name := Table.find_some_key found
          refine ⟨default, isIn, congrArg some key.symm, enabled, ?_,
            fun none => absurd none List.not_mem_nil, ?_⟩
          · rcases keptOr with healthy | itself
            · exact (bounds kept isKept ⟨answers.1, healthy⟩).2
            · have same : name = kept.name := Option.some.inj (isDefault.symm.trans itself)
              subst same
              cases found.symm.trans (Table.find_of_mem isKept)
              exact le_refl _
          · refine keptOr.imp_right fun itself => ?_
            exact key.trans (Option.some.inj (isDefault.symm.trans itself))
  · have none : ∀ entry ∈ registry.providers.rows, ¬Answers outcome entry :=
      fun entry isIn answers => answered ⟨entry, isIn, answers⟩
    refine best_of_default_enabled none (holds_after_updates
      (DefaultEnabled registry outcome) updates ?_ ⟨checked_start, ?_⟩) all
    · intro done registry update isIn
      exact default_enabled_updated (results update isIn)
    · cases isDefault : registry.defaultProvider with
      | none => exact Or.inl rfl
      | some name =>
          obtain ⟨entry, found, enabled⟩ := best.enabled name isDefault
          exact Or.inr ⟨entry, List.mem_of_find?_eq_some found,
            congrArg some (Table.find_some_key found).symm, enabled⟩

/-! The other way round: when every one of the highest priority recovers, a health check that
writes these back last leaves the default to another provider. -/

/-- Of those that answer, one of the highest priority. -/
def Top (registry : CredentialProviderRegistry Provider)
    (outcome : String → Except CredentialError Unit) (entry : RegisteredProvider Provider) : Prop :=
  Answers outcome entry ∧ ∀ other ∈ registry.providers.rows, Answers outcome other →
    other.config.priority ≤ entry.config.priority

def IsTop (registry : CredentialProviderRegistry Provider)
    (outcome : String → Except CredentialError Unit) (name : String) : Prop :=
  ∃ entry ∈ registry.providers.rows, entry.name = name ∧ Top registry outcome entry

open Classical in
/-- The results of those of the highest priority come last. -/
noncomputable def topsLast (registry : CredentialProviderRegistry Provider)
    (outcome : String → Except CredentialError Unit) : Iteration HealthResult where
  order results := results.filter (fun result => !decide (IsTop registry outcome result.1)) ++
    results.filter fun result => decide (IsTop registry outcome result.1)
  perm results := by
    refine List.perm_append_comm.trans ?_
    exact List.filter_append_perm (fun result => decide (IsTop registry outcome result.1)) results

/-- The default provider is none of the highest priority, which are not checked yet. -/
def TopsOut (start : CredentialProviderRegistry Provider)
    (outcome : String → Except CredentialError Unit) (done : List String)
    (registry : CredentialProviderRegistry Provider) : Prop :=
  CheckedSoFar start outcome done registry ∧
    ∀ name, registry.defaultProvider = some name → ¬IsTop start outcome name

theorem tops_out_updated (unhealthy : ∀ entry ∈ start.providers.rows, Top start outcome entry →
      entry.healthy = false) (untouched : ∀ name ∈ done, ¬IsTop start outcome name)
    {update : StatusUpdate Provider} (isResult : update.1.2 = outcome update.1.1)
    (notTop : ¬IsTop start outcome update.1.1) (out : TopsOut start outcome done registry) :
    TopsOut start outcome (update.1.1 :: done) (registry.updated update) := by
  obtain ⟨soFar, others⟩ := out
  have next := checked_updated soFar isResult
  refine ⟨next, ?_⟩
  obtain ⟨same, _⟩ | ⟨best, isBest, _, nowDefault, available, _⟩ :=
    default_updated registry update
  · rw [same]
    exact others
  · obtain ⟨former, wasIn, rfl⟩ := mem_checked next isBest
    rintro name isDefault ⟨entry, isIn, rfl, top⟩
    have key : former.name = entry.name := Option.some.inj (nowDefault.symm.trans isDefault)
    have same : former = entry :=
      List.inj_on_of_nodup_map start.providers.unique wasIn isIn key
    subst same
    have notDone : former.name ∉ update.1.1 :: done := by
      intro isDone
      have isTop : IsTop start outcome former.name := ⟨former, isIn, rfl, top⟩
      rcases List.mem_cons.mp isDone with now | before
      · exact notTop (now ▸ isTop)
      · exact untouched former.name before isTop
    have healthy := available.2
    unfold checked at healthy
    rw [if_neg notDone] at healthy
    cases healthy.symm.trans (unhealthy former isIn top)

/-- A result that is a success changes no default. -/
theorem tops_out_succeeded {update : StatusUpdate Provider}
    (isResult : update.1.2 = outcome update.1.1) (succeeds : update.1.2.isOk = true)
    (out : TopsOut start outcome done registry) :
    TopsOut start outcome (update.1.1 :: done) (registry.updated update) := by
  obtain ⟨soFar, others⟩ := out
  refine ⟨checked_updated soFar isResult, ?_⟩
  obtain ⟨same, _⟩ | ⟨_, _, ⟨failed, _⟩, _⟩ := default_updated registry update
  · rw [same]
    exact others
  · cases failed.symm.trans succeeds

theorem not_best_of_tops_out (answered : ∃ entry ∈ start.providers.rows, Answers outcome entry)
    (out : TopsOut start outcome done registry)
    (all : ∀ entry ∈ start.providers.rows, entry.name ∈ done) : ¬registry.DefaultIsBest := by
  intro best
  obtain ⟨soFar, others⟩ := out
  have availableOf : ∀ entry ∈ start.providers.rows, Answers outcome entry →
      Available (checked outcome done entry) := fun entry isIn answers =>
    ⟨answers.1, (healthy_checked_iff (all entry isIn)).mpr answers.2⟩
  obtain ⟨entry, isIn, answers⟩ := answered
  obtain ⟨default, isDefault, available, highest⟩ :=
    best.best ⟨_, checked_mem soFar isIn, availableOf entry isIn answers⟩
  obtain ⟨name, defaultIs, found⟩ := Option.bind_eq_some_iff.mp isDefault
  have stored : default ∈ registry.providers.rows := List.mem_of_find?_eq_some found
  obtain ⟨former, wasIn, rfl, formerAnswers⟩ := available_iff_answers soFar all stored available
  have key : (checked outcome done former).name = name := Table.find_some_key found
  refine others name defaultIs ⟨former, wasIn, key, formerAnswers, ?_⟩
  intro other isOther otherAnswers
  exact highest (checked outcome done other) (checked_mem soFar isOther)
    (availableOf other isOther otherAnswers)

theorem meets_of_health_checks_keep
    (keeps : ∀ orders : Orders Provider, (registry.after ((.healthCheckAll outcome, orders) :
      RequestMove Provider Secret)).DefaultIsBest) : HealthCheckMeets registry outcome := by
  intro answered
  by_contra none
  have unhealthy : ∀ entry ∈ registry.providers.rows, Top registry outcome entry →
      entry.healthy = false := by
    intro entry isIn top
    by_contra healthy
    exact none ⟨entry, isIn, top.1, Or.inl (Bool.eq_true_of_not_eq_false healthy), top.2⟩
  have out : TopsOut registry outcome [] registry := by
    refine ⟨checked_start, ?_⟩
    rintro name isDefault ⟨entry, isIn, rfl, top⟩
    exact none ⟨entry, isIn, top.1, Or.inr isDefault, top.2⟩
  let anyOrder : Iteration (RegisteredProvider Provider) :=
    ⟨id, fun entries => List.Perm.refl entries⟩
  let orders : Orders Provider := ⟨fun _ => anyOrder, fun _ => topsLast registry outcome⟩
  obtain ⟨updates, are, after⟩ := after_health_check_all Secret registry orders outcome
  obtain ⟨results, all⟩ := updates_of_results are
  obtain ⟨early, late, rfl, earlyAre, lateAre⟩ := List.map_eq_append_iff.mp are
  have afterEarly := holds_after_updates (fun done current =>
    TopsOut registry outcome done current ∧ ∀ name ∈ done, ¬IsTop registry outcome name) early
    (by
      intro done current update isIn ⟨out, untouched⟩
      have isEarly := List.mem_map_of_mem (f := Prod.fst) isIn
      rw [earlyAre] at isEarly
      have notTop : ¬IsTop registry outcome update.1.1 := by
        simpa using (List.mem_filter.mp isEarly).2
      have isResult := results update (List.mem_append_left _ isIn)
      refine ⟨tops_out_updated unhealthy untouched isResult notTop out, ?_⟩
      intro name isDone
      rcases List.mem_cons.mp isDone with rfl | before
      · exact notTop
      · exact untouched name before)
    ⟨out, fun _ none => absurd none List.not_mem_nil⟩
  have afterLate := holds_after_updates (TopsOut registry outcome) late
    (by
      intro done current update isIn out
      have isLate := List.mem_map_of_mem (f := Prod.fst) isIn
      rw [lateAre] at isLate
      have isTop : IsTop registry outcome update.1.1 := by
        simpa using (List.mem_filter.mp isLate).2
      obtain ⟨entry, _, key, top⟩ := isTop
      have isResult := results update (List.mem_append_right _ isIn)
      refine tops_out_succeeded isResult ?_ out
      rw [isResult, ← key]
      exact top.1.2)
    afterEarly.1
  refine not_best_of_tops_out answered afterLate ?_ ?_
  · intro entry isIn
    have isUpdate := all entry isIn
    rwa [List.map_append, List.reverse_append, List.append_assoc] at isUpdate
  · rw [← List.foldl_append, ← after]
    exact keeps orders

end HealthChecks

end HodeiJobs.Credentials
