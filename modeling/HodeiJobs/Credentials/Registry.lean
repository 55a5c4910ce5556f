import Mathlib.Data.List.MinMax
import Mathlib.Data.List.Sort
import HodeiJobs.Library.LockPrograms
import HodeiJobs.Library.Table

/-!
# The registry of credential providers

Providers by name and the name of the default one, each behind a read-write lock of its own. The
methods are programs that lock, so that one text has two meanings: calls one after the other, and
tasks that wait for each other. In which order a hash map is iterated, and what the providers
answer, is told from outside.
-/

namespace HodeiJobs.Credentials

open Library Library.LockProgram

structure CredentialProviderConfig where
  name : String
  enabled : Bool
  priority : Nat
  isFallback : Bool
  deriving DecidableEq

inductive CredentialError where
  | notFound (key : String)
  | accessDenied (key : String)
  | expired (key : String)
  | providerUnavailable (provider : String)
  | connectionError (message : String)
  | encryptionError (message : String)
  | configurationError (message : String)
  | rateLimitExceeded (retryAfterSecs : Option Nat)
  deriving DecidableEq

def CredentialError.isRetryable : CredentialError → Bool
  | .providerUnavailable _ | .connectionError _ | .rateLimitExceeded _ => true
  | _ => false

/-- `provider` is the one behind the `Arc`. -/
structure RegisteredProvider (Provider : Type) where
  provider : Provider
  config : CredentialProviderConfig
  healthy : Bool
  deriving DecidableEq

def RegisteredProvider.name {Provider : Type} (registered : RegisteredProvider Provider) : String :=
  registered.config.name

abbrev Providers (Provider : Type) : Type :=
  Table (@RegisteredProvider.name Provider)

structure CredentialProviderRegistry (Provider : Type) where
  providers : Providers Provider
  defaultProvider : Option String

def CredentialProviderRegistry.new {Provider : Type} : CredentialProviderRegistry Provider :=
  ⟨⟨[], List.nodup_nil⟩, none⟩

structure CredentialRegistryStats where
  totalProviders : Nat
  enabledProviders : Nat
  healthyProviders : Nat
  defaultProvider : Option String
  fallbackProviders : List String
  deriving DecidableEq

/-! ## What is not under the registry's control -/

/-- An order in which the entries of a hash map come. -/
structure Iteration (Entry : Type) where
  order : List Entry → List Entry
  perm : ∀ entries, (order entries).Perm entries

abbrev HealthResult := String × Except CredentialError Unit

structure Outside (Provider Secret : Type) where
  /-- The order of the n-th iteration over the providers. -/
  providersOrder : Nat → Iteration (RegisteredProvider Provider)
  resultsOrder : Nat → Iteration HealthResult
  /-- The answer to the n-th health check. -/
  health : Nat → RegisteredProvider Provider → Except CredentialError Unit
  secrets : Nat → String → RegisteredProvider Provider → Except CredentialError Secret

/-- The registry, what happens outside, and how often it was asked. -/
structure World (Provider Secret : Type) where
  registry : CredentialProviderRegistry Provider
  outside : Outside Provider Secret
  iterations : Nat
  checks : Nat
  asked : List (RegisteredProvider Provider × Except CredentialError Secret)

inductive RegistryLock where
  | providers
  | default
  deriving DecidableEq

instance : Fintype RegistryLock :=
  ⟨{.providers, .default}, by intro lock; cases lock <;> simp⟩

inductive RegistryOp (Provider : Type) where
  | insert (registered : RegisteredProvider Provider)
  | remove (name : String)
  | get (name : String)
  | iterProviders
  | iterResults (results : List HealthResult)
  | setHealthy (name : String) (healthy : Bool)
  | readDefault
  | writeDefault (name : Option String)
  | healthCheck (registered : RegisteredProvider Provider)
  | getSecret (registered : RegisteredProvider Provider) (key : String)

def RegistryReply (Provider Secret : Type) : RegistryOp Provider → Type
  | .insert _ | .setHealthy _ _ | .writeDefault _ => Unit
  | .remove _ | .get _ => Option (RegisteredProvider Provider)
  | .iterProviders => List (RegisteredProvider Provider)
  | .iterResults _ => List HealthResult
  | .readDefault => Option String
  | .healthCheck _ => Except CredentialError Unit
  | .getSecret _ _ => Except CredentialError Secret

variable {Provider Secret : Type}

def setHealth (healthy : Bool) (registered : RegisteredProvider Provider) :
    RegisteredProvider Provider :=
  { registered with healthy := healthy }

theorem setHealth_name (healthy : Bool) (registered : RegisteredProvider Provider) :
    (setHealth healthy registered).name = registered.name := rfl

def RegistryOp.handle (op : RegistryOp Provider) (world : World Provider Secret) :
    RegistryReply Provider Secret op × World Provider Secret :=
  let registry := world.registry
  match op with
  | .insert registered =>
      let providers := registry.providers.upsert registered
      ((), { world with registry := { registry with providers := providers } })
  | .remove name =>
      let providers := registry.providers.delete name
      (registry.providers.find name,
        { world with registry := { registry with providers := providers } })
  | .get name => (registry.providers.find name, world)
  | .iterProviders =>
      ((world.outside.providersOrder world.iterations).order registry.providers.rows,
        { world with iterations := world.iterations + 1 })
  | .iterResults results =>
      ((world.outside.resultsOrder world.iterations).order results,
        { world with iterations := world.iterations + 1 })
  | .setHealthy name healthy =>
      let providers := registry.providers.update name (setHealth healthy) (setHealth_name healthy)
      ((), { world with registry := { registry with providers := providers } })
  | .readDefault => (registry.defaultProvider, world)
  | .writeDefault name => ((), { world with registry := { registry with defaultProvider := name } })
  | .healthCheck registered =>
      (world.outside.health world.checks registered, { world with checks := world.checks + 1 })
  | .getSecret registered key =>
      let answer := world.outside.secrets world.asked.length key registered
      (answer, { world with asked := world.asked ++ [(registered, answer)] })

/-! ## The methods -/

abbrev RegistryProgram (Provider Secret Result : Type) : Type :=
  LockProgram RegistryLock (RegistryReply Provider Secret) Result

/-- `RwLock::read`, for the life of the guard. -/
def reading {Result : Type} (lock : RegistryLock) (body : RegistryProgram Provider Secret Result) :
    RegistryProgram Provider Secret Result := locked lock .read body

def writing {Result : Type} (lock : RegistryLock) (body : RegistryProgram Provider Secret Result) :
    RegistryProgram Provider Secret Result := locked lock .write body

def perform (op : RegistryOp Provider) :
    RegistryProgram Provider Secret (RegistryReply Provider Secret op) := use op

def insertProvider (registered : RegisteredProvider Provider) :
    RegistryProgram Provider Secret Unit := perform (.insert registered)

def removeProvider (name : String) :
    RegistryProgram Provider Secret (Option (RegisteredProvider Provider)) := perform (.remove name)

def setHealthy (name : String) (healthy : Bool) : RegistryProgram Provider Secret Unit :=
  perform (.setHealthy name healthy)

def checkHealth (registered : RegisteredProvider Provider) :
    RegistryProgram Provider Secret (Except CredentialError Unit) := perform (.healthCheck registered)

def iterResults (results : List HealthResult) :
    RegistryProgram Provider Secret (List HealthResult) := perform (.iterResults results)

def readDefault : RegistryProgram Provider Secret (Option String) := perform .readDefault

def writeDefault (name : Option String) : RegistryProgram Provider Secret Unit :=
  perform (.writeDefault name)

def findProvider (name : String) :
    RegistryProgram Provider Secret (Option (RegisteredProvider Provider)) := perform (.get name)

def iterProviders : RegistryProgram Provider Secret (List (RegisteredProvider Provider)) :=
  perform .iterProviders

def askSecret (registered : RegisteredProvider Provider) (key : String) :
    RegistryProgram Provider Secret (Except CredentialError Secret) :=
  perform (.getSecret registered key)

def register (provider : Provider) (config : CredentialProviderConfig) :
    RegistryProgram Provider Secret Unit := do
  writing .providers (insertProvider ⟨provider, config, true⟩)
  if config.enabled then
    writing .default do
      let default ← readDefault
      let shouldBeDefault ← (match default with
        | none => pure true
        | some current =>
            reading .providers do
              let found ← findProvider current
              pure ((found.map fun registered =>
                decide (config.priority > registered.config.priority)).getD true))
      if shouldBeDefault then
        writeDefault (some config.name)

/-- `max_by_key` returns the last of several greatest entries. -/
def bestOf (entries : List (RegisteredProvider Provider)) : Option (RegisteredProvider Provider) :=
  ((entries.filter fun entry => entry.config.enabled && entry.healthy).reverse).argmax
    fun entry => entry.config.priority

def selectNewDefault : RegistryProgram Provider Secret (Option String) :=
  reading .providers do
    let entries ← iterProviders
    pure ((bestOf entries).map RegisteredProvider.name)

def unregister (name : String) : RegistryProgram Provider Secret (Option Provider) := do
  let removed ← writing .providers (removeProvider name)
  if removed.isSome then
    writing .default do
      let default ← readDefault
      if default = some name then
        let newDefault ← selectNewDefault
        writeDefault newDefault
  pure (removed.map RegisteredProvider.provider)

/-- The source returns the provider alone; with its registration one can tell which one it was. -/
def getProvider (name : String) :
    RegistryProgram Provider Secret (Option (RegisteredProvider Provider)) :=
  reading .providers (findProvider name)

def getDefaultProvider : RegistryProgram Provider Secret (Option (RegisteredProvider Provider)) := do
  let default ← reading .default readDefault
  match default with
  | none => pure none
  | some name => getProvider name

def setDefaultProvider (name : String) :
    RegistryProgram Provider Secret (Except CredentialError Unit) :=
  reading .providers do
    let found ← findProvider name
    match found with
    | none =>
        pure (.error (.providerUnavailable (String.append "Provider '"
          (String.append name "' not registered"))))
    | some _ =>
        writing .default (writeDefault (some name))
        pure (.ok ())

/-- Those that are asked after the default provider, before they are sorted. -/
def isFallbackFor (default : Option String) (entry : RegisteredProvider Provider) : Bool :=
  entry.config.enabled && entry.healthy &&
    (entry.config.isFallback || decide (default ≠ some entry.name))

/-- The sort is stable. -/
def byPriority (entries : List (RegisteredProvider Provider)) : List (RegisteredProvider Provider) :=
  entries.insertionSort fun first second => second.config.priority ≤ first.config.priority

def getFallbackProviders : RegistryProgram Provider Secret (List (RegisteredProvider Provider)) :=
  reading .providers do
    let default ← reading .default readDefault
    let entries ← iterProviders
    pure (byPriority (entries.filter (isFallbackFor default)))

def askFallbacks (key : String) : List (RegisteredProvider Provider) →
    RegistryProgram Provider Secret (Except CredentialError Secret)
  | [] => pure (.error (.providerUnavailable "All providers unavailable"))
  | fallback :: rest => do
      let answer ← askSecret fallback key
      match answer with
      | .ok secret => pure (.ok secret)
      | .error error => if error.isRetryable then askFallbacks key rest else pure (.error error)

def getSecret (key : String) : RegistryProgram Provider Secret (Except CredentialError Secret) := do
  let default ← getDefaultProvider
  match default with
  | none => do
      let fallbacks ← getFallbackProviders
      askFallbacks key fallbacks
  | some provider => do
      let answer ← askSecret provider key
      match answer with
      | .ok secret => pure (.ok secret)
      | .error error =>
          if error.isRetryable then do
            let fallbacks ← getFallbackProviders
            askFallbacks key fallbacks
          else pure (.error error)

def updateHealthStatus (name : String) (healthy : Bool) : RegistryProgram Provider Secret Unit := do
  writing .providers (setHealthy name healthy)
  if !healthy then
    let default ← reading .default readDefault
    if default = some name then
      let newDefault ← selectNewDefault
      if newDefault.isSome then
        writing .default (writeDefault newDefault)

def healthCheckAll : RegistryProgram Provider Secret (List HealthResult) := do
  let results ← reading .providers do
    let entries ← iterProviders
    entries.mapM fun entry => do
      let result ← checkHealth entry
      pure (entry.name, result)
  let ordered ← iterResults results
  ordered.forM fun result => updateHealthStatus result.1 result.2.isOk
  pure results

def stats : RegistryProgram Provider Secret CredentialRegistryStats :=
  reading .providers do
    let entries ← iterProviders
    let default ← reading .default readDefault
    pure
      { totalProviders := entries.length
        enabledProviders := entries.countP fun entry => entry.config.enabled
        healthyProviders := entries.countP fun entry => entry.config.enabled && entry.healthy
        defaultProvider := default
        fallbackProviders :=
          (entries.filter fun entry => entry.config.isFallback && entry.config.enabled).map
            RegisteredProvider.name }

inductive RegistryCall (Provider : Type) where
  | register (provider : Provider) (config : CredentialProviderConfig)
  | unregister (name : String)
  | setDefaultProvider (name : String)
  | getSecret (key : String)
  | stats
  | healthCheckAll

variable (Secret) in
def RegistryCall.program : RegistryCall Provider → RegistryProgram Provider Secret Unit
  | .register provider config => Credentials.register provider config
  | .unregister name => do
      let _ ← Credentials.unregister name
  | .setDefaultProvider name => do
      let _ ← Credentials.setDefaultProvider name
  | .getSecret key => do
      let _ ← Credentials.getSecret key
  | .stats => do
      let _ ← Credentials.stats
  | .healthCheckAll => do
      let _ ← Credentials.healthCheckAll

end HodeiJobs.Credentials
