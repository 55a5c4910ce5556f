import HodeiJobs.Credentials.Registry

/-!
# Calls one after the other

What a call does when no other one runs, with a default provider that is as it should be, and the
conditions under which the calls leave it so. The order in which a hash map is iterated is a choice
that each call leaves to the outside.
-/

namespace HodeiJobs.Credentials

open Library Library.LockProgram

variable {Provider Secret : Type}

/-! ## One call alone -/

/-- Health outcomes by the name of the provider, and answers by the number of the question. -/
inductive Request (Provider Secret : Type) where
  | register (provider : Provider) (config : CredentialProviderConfig)
  | unregister (name : String)
  | healthCheckAll (outcome : String → Except CredentialError Unit)
  | getSecret (key : String) (answer : Nat → Except CredentialError Secret)

structure Orders (Provider : Type) where
  providers : Nat → Iteration (RegisteredProvider Provider)
  results : Nat → Iteration HealthResult

namespace Request

def call : Request Provider Secret → RegistryCall Provider
  | .register provider config => .register provider config
  | .unregister name => .unregister name
  | .healthCheckAll _ => .healthCheckAll
  | .getSecret key _ => .getSecret key

def outcome : Request Provider Secret → String → Except CredentialError Unit
  | .healthCheckAll outcome => outcome
  | _ => fun _ => .ok ()

def answer : Request Provider Secret → Nat → Except CredentialError Secret
  | .getSecret _ answer => answer
  | _ => fun _ => .error (.notFound "")

def world (request : Request Provider Secret) (orders : Orders Provider)
    (registry : CredentialProviderRegistry Provider) : World Provider Secret where
  registry := registry
  outside :=
    { providersOrder := orders.providers
      resultsOrder := orders.results
      health := fun _ entry => request.outcome entry.name
      secrets := fun number _ _ => request.answer number }
  iterations := 0
  checks := 0
  asked := []

end Request

abbrev RequestMove (Provider Secret : Type) : Type := Request Provider Secret × Orders Provider

def CredentialProviderRegistry.after (registry : CredentialProviderRegistry Provider)
    (move : RequestMove Provider Secret) : CredentialProviderRegistry Provider :=
  (alone RegistryOp.handle (move.1.call.program Secret) (move.1.world move.2 registry)).2.registry

/-! ## What is asked of the registry -/

def Available (entry : RegisteredProvider Provider) : Prop :=
  entry.config.enabled = true ∧ entry.healthy = true

instance (entry : RegisteredProvider Provider) : Decidable (Available entry) :=
  inferInstanceAs (Decidable (_ ∧ _))

section Asked

variable (registry : CredentialProviderRegistry Provider)

namespace CredentialProviderRegistry

def defaultEntry : Option (RegisteredProvider Provider) :=
  registry.defaultProvider.bind registry.providers.find

/-- The default provider is registered and enabled, and an available one of the highest priority
when any is available. -/
structure DefaultIsBest : Prop where
  enabled : ∀ name, registry.defaultProvider = some name → ∃ entry,
    registry.providers.find name = some entry ∧ entry.config.enabled = true
  best : (∃ entry ∈ registry.providers.rows, Available entry) → ∃ default,
    registry.defaultEntry = some default ∧ Available default ∧
      ∀ entry ∈ registry.providers.rows, Available entry →
        entry.config.priority ≤ default.config.priority

end CredentialProviderRegistry

/-- Asks one after the other until an answer is final: a success, or an error that is not
retryable. -/
def askInOrder (answer : Nat → Except CredentialError Secret) (number : Nat) :
    List (RegisteredProvider Provider) →
      List (RegisteredProvider Provider) × Except CredentialError Secret
  | [] => ([], .error (.providerUnavailable "All providers unavailable"))
  | entry :: rest =>
      match answer number with
      | .ok secret => ([entry], .ok secret)
      | .error error =>
          if error.isRetryable then
            let later := askInOrder answer (number + 1) rest
            (entry :: later.1, later.2)
          else ([entry], .error error)

/-- The default first and then the other available providers in decreasing priority, each once. -/
structure IsOrder (order : List (RegisteredProvider Provider)) : Prop where
  once : (order.map RegisteredProvider.name).Nodup
  split : ∃ others, order = registry.defaultEntry.toList ++ others ∧
    others.Pairwise (fun first second => second.config.priority ≤ first.config.priority) ∧
    ∀ entry, entry ∈ others ↔ entry ∈ registry.providers.rows ∧ Available entry ∧
      registry.defaultProvider ≠ some entry.name

/-- Whom a `get_secret` asked, and what it returned. -/
def asksAndReturns (key : String) (answer : Nat → Except CredentialError Secret)
    (orders : Orders Provider) :
    List (RegisteredProvider Provider) × Except CredentialError Secret :=
  let request : Request Provider Secret := .getSecret key answer
  let after := alone RegistryOp.handle (getSecret key) (request.world orders registry)
  (after.2.asked.map Prod.fst, after.1)

/-- What is asked of a call: nothing but of `get_secret`. -/
def AsksInOrder : RequestMove Provider Secret → Prop
  | (.getSecret key answer, orders) =>
      ∃ order, IsOrder registry order ∧
        asksAndReturns registry key answer orders = askInOrder answer 0 order
  | _ => True

/-! ## When a call meets it -/

def Answers (outcome : String → Except CredentialError Unit)
    (entry : RegisteredProvider Provider) : Prop :=
  entry.config.enabled = true ∧ (outcome entry.name).isOk = true

/-- The default provider is not disabled; if it is registered anew it keeps the highest priority,
and if it is another one it is healthy or gets a successor. -/
def RegistrationMeets (config : CredentialProviderConfig) : Prop :=
  if config.enabled then
    ∀ default, registry.defaultEntry = some default →
      if default.name = config.name then
        ∀ entry ∈ registry.providers.rows, entry.name ≠ config.name → Available entry →
          entry.config.priority ≤ config.priority
      else default.healthy = true ∨ default.config.priority < config.priority
  else registry.defaultProvider ≠ some config.name

/-- If an enabled provider answers, one of the highest priority among those was healthy before or is
the default. -/
def HealthCheckMeets (outcome : String → Except CredentialError Unit) : Prop :=
  (∃ entry ∈ registry.providers.rows, Answers outcome entry) →
    ∃ kept ∈ registry.providers.rows, Answers outcome kept ∧
      (kept.healthy = true ∨ registry.defaultProvider = some kept.name) ∧
      ∀ entry ∈ registry.providers.rows, Answers outcome entry →
        entry.config.priority ≤ kept.config.priority

/-- A default provider that is also a fallback gives a final answer. -/
def QuestionMeets (answer : Nat → Except CredentialError Secret) : Prop :=
  ∀ default, registry.defaultEntry = some default → Available default →
    default.config.isFallback = true →
      ∀ error, answer 0 = .error error → error.isRetryable = false

/-- The condition on each call, by the registry that it finds. -/
def Meets : Request Provider Secret → Prop
  | .register _ config => RegistrationMeets registry config
  | .unregister _ => True
  | .healthCheckAll outcome => HealthCheckMeets registry outcome
  | .getSecret _ answer => QuestionMeets registry answer

end Asked

/-! ## What the calls do -/

section Alone

variable {Result : Type} (world : World Provider Secret)

@[simp] theorem alone_reading (lock : RegistryLock)
    (body : RegistryProgram Provider Secret Result) :
    alone RegistryOp.handle (reading lock body) world = alone RegistryOp.handle body world :=
  alone_locked RegistryOp.handle world lock .read body

@[simp] theorem alone_writing (lock : RegistryLock)
    (body : RegistryProgram Provider Secret Result) :
    alone RegistryOp.handle (writing lock body) world = alone RegistryOp.handle body world :=
  alone_locked RegistryOp.handle world lock .write body

@[simp] theorem alone_insert_provider (registered : RegisteredProvider Provider) :
    alone RegistryOp.handle (insertProvider registered) world =
      ((), { world with registry := { world.registry with
        providers := world.registry.providers.upsert registered } }) := rfl

@[simp] theorem alone_remove_provider (name : String) :
    alone RegistryOp.handle (removeProvider name) world =
      (world.registry.providers.find name, { world with registry := { world.registry with
        providers := world.registry.providers.delete name } }) := rfl

@[simp] theorem alone_set_healthy (name : String) (healthy : Bool) :
    alone RegistryOp.handle (setHealthy name healthy) world =
      ((), { world with registry := { world.registry with
        providers := world.registry.providers.update name (setHealth healthy)
          (setHealth_name healthy) } }) := rfl

@[simp] theorem alone_read_default : alone RegistryOp.handle readDefault world =
    (world.registry.defaultProvider, world) := rfl

@[simp] theorem alone_find_provider (name : String) :
    alone RegistryOp.handle (findProvider name) world =
      (world.registry.providers.find name, world) := rfl

@[simp] theorem alone_iter_providers : alone RegistryOp.handle iterProviders world =
    ((world.outside.providersOrder world.iterations).order world.registry.providers.rows,
      { world with iterations := world.iterations + 1 }) := rfl

@[simp] theorem alone_select_new_default :
    alone RegistryOp.handle selectNewDefault world =
      ((bestOf ((world.outside.providersOrder world.iterations).order
          world.registry.providers.rows)).map RegisteredProvider.name,
        { world with iterations := world.iterations + 1 }) := by
  unfold selectNewDefault
  rw [alone_reading, alone_bind, alone_iter_providers, alone_pure]

/-- The provider is the default one after its registration. -/
def takesOver (registry : CredentialProviderRegistry Provider) (provider : Provider)
    (config : CredentialProviderConfig) : Bool :=
  match registry.defaultProvider with
  | none => true
  | some current =>
      (((registry.providers.upsert ⟨provider, config, true⟩).find current).map fun registered =>
        decide (config.priority > registered.config.priority)).getD true

theorem alone_register (provider : Provider) (config : CredentialProviderConfig) :
    alone RegistryOp.handle (register provider config) world =
      ((), { world with registry :=
        { providers := world.registry.providers.upsert ⟨provider, config, true⟩
          defaultProvider :=
            if config.enabled && takesOver world.registry provider config then some config.name
            else world.registry.defaultProvider } }) := by
  unfold register takesOver
  rw [alone_bind, alone_writing, alone_insert_provider]
  cases enabled : config.enabled with
  | false => rfl
  | true =>
      rw [if_pos rfl, alone_writing, alone_bind, alone_read_default]
      cases current : world.registry.defaultProvider with
      | none => rfl
      | some name =>
          rw [alone_bind, alone_reading, alone_bind, alone_find_provider, alone_pure, alone_ite,
            Bool.true_and]
          dsimp only
          split_ifs
          · rfl
          · rw [alone_pure, ← current]

theorem alone_unregister (name : String) :
    (alone RegistryOp.handle (unregister name) world).2.registry =
      { providers := world.registry.providers.delete name
        defaultProvider :=
          if (world.registry.providers.find name).isSome = true ∧
              world.registry.defaultProvider = some name then
            (bestOf ((world.outside.providersOrder world.iterations).order
              (world.registry.providers.delete name).rows)).map RegisteredProvider.name
          else world.registry.defaultProvider } := by
  unfold unregister
  rw [alone_bind, alone_writing, alone_remove_provider, alone_ite]
  by_cases removed : (world.registry.providers.find name).isSome = true
  · rw [if_pos removed, alone_bind, alone_writing, alone_bind, alone_read_default, alone_ite]
    dsimp only
    by_cases isDefault : world.registry.defaultProvider = some name
    · rw [if_pos isDefault, if_pos ⟨removed, isDefault⟩, alone_bind, alone_select_new_default]
      rfl
    · rw [if_neg isDefault, if_neg fun both => isDefault both.2]
      rfl
  · rw [if_neg removed, if_neg fun both => removed both.1]
    rfl

/-- What a status update makes of the registry. -/
def CredentialProviderRegistry.withStatus (registry : CredentialProviderRegistry Provider)
    (iteration : Iteration (RegisteredProvider Provider)) (name : String) (healthy : Bool) :
    CredentialProviderRegistry Provider :=
  let providers := registry.providers.update name (setHealth healthy) (setHealth_name healthy)
  { providers := providers
    defaultProvider :=
      if healthy = false ∧ registry.defaultProvider = some name then
        ((bestOf (iteration.order providers.rows)).map RegisteredProvider.name).or
          registry.defaultProvider
      else registry.defaultProvider }

theorem alone_update_health_status (name : String) (healthy : Bool) :
    (alone RegistryOp.handle (updateHealthStatus name healthy) world).2.registry =
      world.registry.withStatus (world.outside.providersOrder world.iterations) name healthy := by
  unfold updateHealthStatus CredentialProviderRegistry.withStatus
  rw [alone_bind, alone_writing, alone_set_healthy, alone_ite]
  cases healthy with
  | true => rfl
  | false =>
      rw [Bool.not_false, if_pos rfl, alone_bind, alone_reading, alone_read_default, alone_ite]
      dsimp only
      by_cases isDefault : world.registry.defaultProvider = some name
      · rw [if_pos isDefault, if_pos ⟨rfl, isDefault⟩, alone_bind, alone_select_new_default,
          alone_ite]
        dsimp only
        cases bestOf ((world.outside.providersOrder world.iterations).order
            (world.registry.providers.update name (setHealth false)
              (setHealth_name false)).rows) with
        | none => rfl
        | some best => rfl
      · rw [if_neg isDefault, if_neg fun both => isDefault both.2]
        rfl

abbrev StatusUpdate (Provider : Type) : Type :=
  HealthResult × Iteration (RegisteredProvider Provider)

def CredentialProviderRegistry.updated (registry : CredentialProviderRegistry Provider)
    (update : StatusUpdate Provider) : CredentialProviderRegistry Provider :=
  registry.withStatus update.2 update.1.1 update.1.2.isOk

theorem alone_updates (results : List HealthResult) :
    ∃ updates : List (StatusUpdate Provider), updates.map Prod.fst = results ∧
      (results.foldl (fun world result =>
        (alone RegistryOp.handle (updateHealthStatus result.1 result.2.isOk) world).2)
          world).registry = updates.foldl CredentialProviderRegistry.updated world.registry := by
  induction results generalizing world with
  | nil => exact ⟨[], rfl, rfl⟩
  | cons result rest ih =>
      obtain ⟨updates, are, after⟩ :=
        ih (alone RegistryOp.handle (updateHealthStatus result.1 result.2.isOk) world).2
      refine ⟨(result, world.outside.providersOrder world.iterations) :: updates, ?_, ?_⟩
      · rw [List.map_cons, are]
      · rw [List.foldl_cons, after, alone_update_health_status]
        rfl

end Alone

/-- The results of a health check, in the order in which they are written back. -/
def resultsOf (registry : CredentialProviderRegistry Provider) (orders : Orders Provider)
    (outcome : String → Except CredentialError Unit) : List HealthResult :=
  (orders.results 1).order (((orders.providers 0).order registry.providers.rows).map
    fun entry => (entry.name, outcome entry.name))

variable (Secret) in
theorem after_health_check_all (registry : CredentialProviderRegistry Provider)
    (orders : Orders Provider) (outcome : String → Except CredentialError Unit) :
    ∃ updates : List (StatusUpdate Provider),
      updates.map Prod.fst = resultsOf registry orders outcome ∧
      registry.after ((.healthCheckAll outcome, orders) : RequestMove Provider Secret) =
        updates.foldl CredentialProviderRegistry.updated registry := by
  let request : Request Provider Secret := .healthCheckAll outcome
  let checking : RegisteredProvider Provider → RegistryProgram Provider Secret HealthResult :=
    fun entry => do
      let result ← checkHealth entry
      pure (entry.name, result)
  let start := (alone RegistryOp.handle iterProviders (request.world orders registry)).2
  let known : World Provider Secret → Prop := fun world =>
    world.outside = (request.world orders registry).outside ∧ world.registry = registry ∧
      world.iterations = 1
  have replies : ∀ entry world, known world →
      (alone RegistryOp.handle (checking entry) world).1 = (entry.name, outcome entry.name) ∧
        known (alone RegistryOp.handle (checking entry) world).2 := by
    rintro entry world ⟨outside, same, once⟩
    refine ⟨?_, outside, same, once⟩
    show (entry.name, world.outside.health world.checks entry) = _
    rw [outside]
    rfl
  obtain ⟨results, outside, same, once⟩ := alone_map_m RegistryOp.handle start known replies
    ((orders.providers 0).order registry.providers.rows) ⟨rfl, rfl, rfl⟩
  let checks := alone RegistryOp.handle
    (((orders.providers 0).order registry.providers.rows).mapM checking) start
  let ordered := (checks.2.outside.resultsOrder checks.2.iterations).order checks.1
  let iterated : World Provider Secret := { checks.2 with iterations := checks.2.iterations + 1 }
  obtain ⟨updates, are, after⟩ := alone_updates iterated ordered
  refine ⟨updates, ?_, ?_⟩
  · rw [are]
    show (checks.2.outside.resultsOrder checks.2.iterations).order checks.1 = _
    rw [outside, once, results]
    rfl
  · have runs : registry.after ((.healthCheckAll outcome, orders) : RequestMove Provider Secret) =
        (alone RegistryOp.handle
          (ordered.forM fun result => updateHealthStatus result.1 result.2.isOk)
            iterated).2.registry := by
      unfold CredentialProviderRegistry.after
      show (alone RegistryOp.handle (healthCheckAll >>= fun _ => pure ())
        (request.world orders registry)).2.registry = _
      rw [alone_bind]
      unfold healthCheckAll
      rw [alone_bind, alone_reading, alone_bind, alone_bind, alone_bind]
      rfl
    rw [runs, alone_for_m, after]
    show updates.foldl _ checks.2.registry = _
    rw [same]

end HodeiJobs.Credentials
