import HodeiJobs.Credentials.Requests

/-!
# Which provider is the default one

Registrations compare the new provider with the default one only, removals select the best of those
that are left.
-/

namespace HodeiJobs.Credentials

open Library Library.LockProgram

variable {Provider Secret : Type}

/-! ## The best of the available providers -/

section Best

variable {entries : List (RegisteredProvider Provider)} {best : RegisteredProvider Provider}

theorem mem_candidates {entry : RegisteredProvider Provider} :
    entry ∈ (entries.filter fun entry => entry.config.enabled && entry.healthy).reverse ↔
      entry ∈ entries ∧ Available entry := by
  rw [List.mem_reverse, List.mem_filter, Bool.and_eq_true]
  rfl

theorem best_of_some (found : bestOf entries = some best) :
    best ∈ entries ∧ Available best ∧ ∀ entry ∈ entries, Available entry →
      entry.config.priority ≤ best.config.priority := by
  obtain ⟨isIn, available⟩ := mem_candidates.mp (List.argmax_mem found)
  refine ⟨isIn, available, ?_⟩
  intro entry isEntry isAvailable
  exact List.le_of_mem_argmax (f := fun entry : RegisteredProvider Provider =>
    entry.config.priority) (mem_candidates.mpr ⟨isEntry, isAvailable⟩) found

theorem best_of_none (none : bestOf entries = none) : ∀ entry ∈ entries, ¬Available entry := by
  intro entry isEntry available
  have empty := List.argmax_eq_none.mp none
  have isCandidate := mem_candidates.mpr ⟨isEntry, available⟩
  rw [empty] at isCandidate
  cases isCandidate

end Best

namespace CredentialProviderRegistry

variable {registry : CredentialProviderRegistry Provider}

theorem default_is_best_iff_none (none : registry.defaultProvider = none) :
    registry.DefaultIsBest ↔ ∀ entry ∈ registry.providers.rows, ¬Available entry := by
  constructor
  · intro best entry isIn available
    obtain ⟨default, isDefault, _⟩ := best.best ⟨entry, isIn, available⟩
    rw [defaultEntry, none] at isDefault
    cases isDefault
  · intro nothing
    constructor
    · intro name isDefault
      cases none.symm.trans isDefault
    · rintro ⟨entry, isIn, available⟩
      exact absurd available (nothing entry isIn)

theorem default_is_best_iff_some {name : String} (isDefault : registry.defaultProvider = some name) :
    registry.DefaultIsBest ↔ ∃ default, registry.providers.find name = some default ∧
      default.config.enabled = true ∧ ∀ entry ∈ registry.providers.rows, Available entry →
        default.healthy = true ∧ entry.config.priority ≤ default.config.priority := by
  have defaultIs : registry.defaultEntry = registry.providers.find name := by
    rw [defaultEntry, isDefault, Option.bind_some]
  constructor
  · intro best
    obtain ⟨default, found, enabled⟩ := best.enabled name isDefault
    refine ⟨default, found, enabled, ?_⟩
    intro entry isIn available
    obtain ⟨other, isOther, otherAvailable, highest⟩ := best.best ⟨entry, isIn, available⟩
    rw [defaultIs, found, Option.some_inj] at isOther
    subst isOther
    exact ⟨otherAvailable.2, highest entry isIn available⟩
  · rintro ⟨default, found, enabled, highest⟩
    constructor
    · intro other isOther
      cases isDefault.symm.trans isOther
      exact ⟨default, found, enabled⟩
    · rintro ⟨entry, isIn, available⟩
      refine ⟨default, defaultIs.trans found, ⟨enabled, (highest entry isIn available).1⟩, ?_⟩
      intro other isOther otherAvailable
      exact (highest other isOther otherAvailable).2

end CredentialProviderRegistry

open CredentialProviderRegistry

variable {registry : CredentialProviderRegistry Provider}

/-! ## Registrations -/

theorem after_register (provider : Provider) (config : CredentialProviderConfig)
    (orders : Orders Provider) :
    registry.after ((.register provider config, orders) : RequestMove Provider Secret) =
      { providers := registry.providers.upsert ⟨provider, config, true⟩
        defaultProvider :=
          if config.enabled && takesOver registry provider config then some config.name
          else registry.defaultProvider } := by
  unfold after
  show (alone RegistryOp.handle (register provider config) _).2.registry = _
  rw [alone_register]
  rfl

theorem mem_registered {provider : Provider} {config : CredentialProviderConfig}
    {entry : RegisteredProvider Provider} :
    entry ∈ (registry.providers.upsert ⟨provider, config, true⟩).rows ↔
      entry = ⟨provider, config, true⟩ ∨
        entry.name ≠ config.name ∧ entry ∈ registry.providers.rows := Table.mem_upsert_iff

theorem find_registered_self (provider : Provider) (config : CredentialProviderConfig) :
    (registry.providers.upsert ⟨provider, config, true⟩).find config.name =
      some ⟨provider, config, true⟩ := Table.find_upsert_self _ _

theorem find_registered_other (provider : Provider) {config : CredentialProviderConfig}
    {name : String} (different : config.name ≠ name) :
    (registry.providers.upsert ⟨provider, config, true⟩).find name =
      registry.providers.find name := Table.find_upsert_other _ _ different

theorem takes_over_of_none (none : registry.defaultProvider = none) (provider : Provider)
    (config : CredentialProviderConfig) : takesOver registry provider config = true := by
  unfold takesOver
  rw [none]

theorem not_takes_over_itself (provider : Provider) (config : CredentialProviderConfig)
    (itself : registry.defaultProvider = some config.name) :
    takesOver registry provider config = false := by
  unfold takesOver
  simp only [itself, find_registered_self, Option.map_some, Option.getD_some]
  exact decide_eq_false (lt_irrefl _)

theorem takes_over_other_iff (provider : Provider) {config : CredentialProviderConfig}
    {name : String} {default : RegisteredProvider Provider}
    (isDefault : registry.defaultProvider = some name) (different : config.name ≠ name)
    (found : registry.providers.find name = some default) :
    takesOver registry provider config = true ↔
      default.config.priority < config.priority := by
  unfold takesOver
  simp only [isDefault, find_registered_other provider different, found, Option.map_some,
    Option.getD_some]
  exact decide_eq_true_iff

theorem default_entry_of_some {name : String} (isDefault : registry.defaultProvider = some name) :
    registry.defaultEntry = registry.providers.find name := by
  rw [defaultEntry, isDefault, Option.bind_some]

theorem registered_disabled_iff (best : registry.DefaultIsBest) (provider : Provider)
    {config : CredentialProviderConfig} (disabled : config.enabled = false) :
    DefaultIsBest ⟨registry.providers.upsert ⟨provider, config, true⟩, registry.defaultProvider⟩ ↔
      registry.defaultProvider ≠ some config.name := by
  have remains : ∀ entry ∈ (registry.providers.upsert ⟨provider, config, true⟩).rows,
      Available entry → entry ∈ registry.providers.rows := by
    intro entry isIn available
    rcases mem_registered.mp isIn with rfl | ⟨_, old⟩
    · cases disabled.symm.trans available.1
    · exact old
  cases isDefault : registry.defaultProvider with
  | none =>
      rw [default_is_best_iff_none isDefault] at best
      rw [default_is_best_iff_none rfl]
      refine iff_of_true ?_ (fun none => by cases none)
      intro entry isIn available
      exact best entry (remains entry isIn available) available
  | some name =>
      rw [default_is_best_iff_some isDefault] at best
      obtain ⟨default, found, enabled, highest⟩ := best
      rw [default_is_best_iff_some rfl, ne_eq, Option.some_inj]
      by_cases same : name = config.name
      · subst same
        refine iff_of_false ?_ (fun different => different rfl)
        rintro ⟨entry, isEntry, isEnabled, _⟩
        cases (find_registered_self provider config).symm.trans isEntry
        cases disabled.symm.trans isEnabled
      · refine iff_of_true ⟨default, ?_, enabled, ?_⟩ same
        · exact (find_registered_other provider (Ne.symm same)).trans found
        · intro entry isIn available
          exact highest entry (remains entry isIn available) available

theorem registered_first (best : registry.DefaultIsBest) (provider : Provider)
    {config : CredentialProviderConfig} (enabled : config.enabled = true)
    (none : registry.defaultProvider = none) :
    DefaultIsBest ⟨registry.providers.upsert ⟨provider, config, true⟩, some config.name⟩ := by
  rw [default_is_best_iff_none none] at best
  rw [default_is_best_iff_some rfl]
  refine ⟨⟨provider, config, true⟩, Table.find_upsert_self _ _, enabled, ?_⟩
  intro entry isIn available
  rcases mem_registered.mp isIn with rfl | ⟨_, old⟩
  · exact ⟨rfl, le_refl _⟩
  · exact absurd available (best entry old)

theorem registered_itself_iff (provider : Provider) {config : CredentialProviderConfig}
    (enabled : config.enabled = true) :
    DefaultIsBest ⟨registry.providers.upsert ⟨provider, config, true⟩, some config.name⟩ ↔
      ∀ entry ∈ registry.providers.rows, entry.name ≠ config.name → Available entry →
        entry.config.priority ≤ config.priority := by
  rw [default_is_best_iff_some rfl]
  constructor
  · rintro ⟨default, found, _, highest⟩ entry isIn different available
    cases (find_registered_self provider config).symm.trans found
    exact (highest entry (mem_registered.mpr (Or.inr ⟨different, isIn⟩)) available).2
  · intro highest
    refine ⟨⟨provider, config, true⟩, Table.find_upsert_self _ _, enabled, ?_⟩
    intro entry isIn available
    rcases mem_registered.mp isIn with rfl | ⟨different, old⟩
    · exact ⟨rfl, le_refl _⟩
    · exact ⟨rfl, highest entry old different available⟩

/-- A default provider that stays, though another one was registered. -/
theorem registered_below_iff (best : registry.DefaultIsBest) (provider : Provider)
    {config : CredentialProviderConfig} (enabled : config.enabled = true) {name : String}
    {default : RegisteredProvider Provider} (isDefault : registry.defaultProvider = some name)
    (found : registry.providers.find name = some default) (different : name ≠ config.name)
    (below : config.priority ≤ default.config.priority) :
    DefaultIsBest ⟨registry.providers.upsert ⟨provider, config, true⟩, some name⟩ ↔
      default.healthy = true := by
  rw [default_is_best_iff_some isDefault] at best
  obtain ⟨other, isOther, isEnabled, highest⟩ := best
  cases found.symm.trans isOther
  have still : (registry.providers.upsert ⟨provider, config, true⟩).find name = some default :=
    (find_registered_other provider (Ne.symm different)).trans found
  rw [default_is_best_iff_some rfl]
  constructor
  · rintro ⟨current, isCurrent, _, bounds⟩
    cases still.symm.trans isCurrent
    exact (bounds ⟨provider, config, true⟩ (mem_registered.mpr (Or.inl rfl)) ⟨enabled, rfl⟩).1
  · intro healthy
    refine ⟨default, still, isEnabled, ?_⟩
    intro entry isIn available
    rcases mem_registered.mp isIn with rfl | ⟨_, old⟩
    · exact ⟨healthy, below⟩
    · exact highest entry old available

theorem registered_above (best : registry.DefaultIsBest) (provider : Provider)
    {config : CredentialProviderConfig} (enabled : config.enabled = true) {name : String}
    {default : RegisteredProvider Provider} (isDefault : registry.defaultProvider = some name)
    (found : registry.providers.find name = some default)
    (above : default.config.priority < config.priority) :
    DefaultIsBest ⟨registry.providers.upsert ⟨provider, config, true⟩, some config.name⟩ := by
  rw [default_is_best_iff_some isDefault] at best
  obtain ⟨other, isOther, _, highest⟩ := best
  cases found.symm.trans isOther
  rw [registered_itself_iff provider enabled]
  intro entry isIn _ available
  exact (highest entry isIn available).2.trans above.le

variable (Secret) in
theorem register_keeps_iff (best : registry.DefaultIsBest) (provider : Provider)
    (config : CredentialProviderConfig) (orders : Orders Provider) :
    (registry.after ((.register provider config, orders) :
        RequestMove Provider Secret)).DefaultIsBest ↔
      RegistrationMeets registry config := by
  rw [after_register]
  unfold RegistrationMeets
  cases enabled : config.enabled with
  | false =>
      rw [if_neg Bool.false_ne_true, Bool.false_and, if_neg Bool.false_ne_true]
      exact registered_disabled_iff best provider enabled
  | true =>
      rw [if_pos rfl, Bool.true_and]
      cases isDefault : registry.defaultProvider with
      | none =>
          rw [takes_over_of_none isDefault, if_pos rfl]
          refine iff_of_true (registered_first best provider enabled isDefault) ?_
          intro default isEntry
          rw [defaultEntry, isDefault] at isEntry
          cases isEntry
      | some name =>
          obtain ⟨default, found, _⟩ := best.enabled name isDefault
          have key : default.name = name := Table.find_some_key found
          rw [default_entry_of_some isDefault, found]
          by_cases same : name = config.name
          · have itself := isDefault.trans (congrArg some same)
            rw [not_takes_over_itself provider config itself, if_neg Bool.false_ne_true, same,
              registered_itself_iff provider enabled]
            constructor
            · rintro highest _ ⟨⟩
              rwa [if_pos (key.trans same)]
            · intro highest
              have bound := highest default rfl
              rwa [if_pos (key.trans same)] at bound
          · have notSame : default.name ≠ config.name := fun is => same (key.symm.trans is)
            have condition : (∀ current, some default = some current →
                if current.name = config.name then
                  ∀ entry ∈ registry.providers.rows, entry.name ≠ config.name →
                    Available entry → entry.config.priority ≤ config.priority
                else current.healthy = true ∨ current.config.priority < config.priority) ↔
                  (default.healthy = true ∨ default.config.priority < config.priority) := by
              constructor
              · intro all
                have holds := all default rfl
                rwa [if_neg notSame] at holds
              · rintro holds _ ⟨⟩
                rwa [if_neg notSame]
            rw [condition]
            have takes := takes_over_other_iff provider isDefault (Ne.symm same) found
            by_cases above : default.config.priority < config.priority
            · rw [if_pos (takes.mpr above)]
              exact iff_of_true (registered_above best provider enabled isDefault found above)
                (Or.inr above)
            · rw [if_neg (takes.not.mpr above), or_iff_left above]
              exact registered_below_iff best provider enabled isDefault found same
                (Nat.le_of_not_lt above)

/-! ## Removals -/

/-- The best of all providers is a default that is best. -/
theorem selected_is_best (providers : Providers Provider)
    (iteration : Iteration (RegisteredProvider Provider)) :
    DefaultIsBest ⟨providers,
      (bestOf (iteration.order providers.rows)).map RegisteredProvider.name⟩ := by
  have sameRows := iteration.perm providers.rows
  cases found : bestOf (iteration.order providers.rows) with
  | none =>
      rw [default_is_best_iff_none rfl]
      intro entry isIn
      exact best_of_none found entry (sameRows.mem_iff.mpr isIn)
  | some best =>
      obtain ⟨isIn, available, highest⟩ := best_of_some found
      rw [default_is_best_iff_some rfl]
      refine ⟨best, Table.find_of_mem (sameRows.mem_iff.mp isIn), available.1, ?_⟩
      intro entry isEntry isAvailable
      exact ⟨available.2, highest entry (sameRows.mem_iff.mpr isEntry) isAvailable⟩

theorem after_unregister (name : String) (orders : Orders Provider) :
    registry.after ((.unregister name, orders) : RequestMove Provider Secret) =
      { providers := registry.providers.delete name
        defaultProvider :=
          if (registry.providers.find name).isSome = true ∧
              registry.defaultProvider = some name then
            (bestOf ((orders.providers 0).order (registry.providers.delete name).rows)).map
              RegisteredProvider.name
          else registry.defaultProvider } := by
  unfold after
  show (alone RegistryOp.handle (unregister name >>= fun _ => pure ()) _).2.registry = _
  rw [alone_bind, alone_pure, alone_unregister]
  rfl

theorem unregister_keeps (best : registry.DefaultIsBest) (name : String)
    (orders : Orders Provider) :
    (registry.after ((.unregister name, orders) : RequestMove Provider Secret)).DefaultIsBest := by
  rw [after_unregister]
  by_cases removed : (registry.providers.find name).isSome = true ∧
      registry.defaultProvider = some name
  · rw [if_pos removed]
    exact selected_is_best (registry.providers.delete name) (orders.providers 0)
  · rw [if_neg removed]
    cases isDefault : registry.defaultProvider with
    | none =>
        rw [default_is_best_iff_none isDefault] at best
        rw [default_is_best_iff_none rfl]
        intro entry isIn
        exact best entry (Table.mem_delete_iff.mp isIn).2
    | some current =>
        rw [default_is_best_iff_some isDefault] at best
        obtain ⟨default, found, enabled, highest⟩ := best
        have different : current ≠ name := by
          rintro rfl
          exact removed ⟨by rw [found]; rfl, isDefault⟩
        rw [default_is_best_iff_some rfl]
        refine ⟨default, ?_, enabled, ?_⟩
        · exact (Table.find_delete _ _ _).trans (by rw [if_neg different, found])
        · intro entry isIn
          exact highest entry (Table.mem_delete_iff.mp isIn).2

end HodeiJobs.Credentials
