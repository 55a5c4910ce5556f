import Mathlib.Algebra.Group.Nat.Defs
import HodeiJobs.Library.Transitions
import HodeiJobs.Outbox.DomainEvents
import HodeiJobs.Provisioning.WorkerProvisioning

/-!
# The health monitor of the providers

The loop of `ProviderHealthMonitor::start_monitoring`, one check of a provider at a time, with
the events that reach the bus. The task works on its own copy of the metrics.
-/

namespace HodeiJobs.Providers

open HodeiJobs.Dispatch (ProviderId)
open HodeiJobs.Library
open HodeiJobs.Outbox (DomainEvent EventDetails FieldTypes ProviderStatus)
open HodeiJobs.Provisioning (HealthStatus)
open HodeiJobs.Sagas (DateTime Duration)

inductive ProviderError where
  | connectionFailed (message : String)
  | authenticationFailed (message : String)
  | resourceLimitExceeded (message : String)
  | workerNotFound (message : String)
  | provisioningFailed (message : String)
  | provisioningTimeout
  | timeout (message : String)
  | notReady (message : String)
  | unsupportedOperation (message : String)
  | operationNotSupported (operation reason : String)
  | configurationError (message : String)
  | providerSpecific (message : String)
  | internal (message : String)

def ProviderError.errorType : ProviderError → String
  | .connectionFailed _ => "connection_failed"
  | .timeout _ => "timeout"
  | .authenticationFailed _ => "auth_failed"
  | .providerSpecific _ => "provider_specific"
  | _ => "unknown_error"

structure ProviderHealthMetrics where
  totalChecks : Nat
  successfulChecks : Nat
  failedChecks : Nat
  responseTimes : List Nat
  lastCheck : Option Nat
  currentStatus : ProviderStatus
  statusDuration : Duration
  statusChangedAt : Nat

def ProviderHealthMetrics.initial (now : Nat) : ProviderHealthMetrics where
  totalChecks := 0
  successfulChecks := 0
  failedChecks := 0
  responseTimes := []
  lastCheck := none
  currentStatus := .active
  statusDuration := ⟨0⟩
  statusChangedAt := now

structure MonitoredProvider where
  providerId : ProviderId
  providerType : String

/-- `HashMap<ProviderId, ProviderHealthMetrics>`. -/
abbrev MetricsMap := ProviderId → Option ProviderHealthMetrics

/-- The calls of the metrics recorder. -/
inductive HealthRecord where
  | total
  | success
  | duration (responseSecs : Nat)
  | error (errorType : String)

/-- One pass through the body of the loop: how the check ends, the whole seconds that it takes,
the clocks after it, and whether the two events get to the bus. -/
structure HealthCheck where
  outcome : Except ProviderError HealthStatus
  responseSecs : Nat
  now : Nat
  occurredAt : DateTime
  changePublished : Bool
  recoveryPublished : Bool

/-- `provider_metrics` of the monitor beside the state of the task that it has spawned, and what
got to the bus and to the recorder, oldest first. -/
structure HealthMonitoring (types : FieldTypes) where
  providers : List MonitoredProvider
  providerMetrics : MetricsMap
  metricsMap : MetricsMap
  published : List (DomainEvent types)
  recorded : List (MonitoredProvider × HealthRecord)

def statusFor : HealthStatus → ProviderStatus
  | .healthy => .active
  | .degraded _ => .overloaded
  | .unhealthy _ => .unhealthy
  | .unknown => .disabled

namespace ProviderHealthMetrics

/-- What a check that was answered counts. -/
def answered (metrics : ProviderHealthMetrics) (check : HealthCheck) : ProviderHealthMetrics :=
  let times := metrics.responseTimes ++ [check.responseSecs]
  { metrics with
    totalChecks := (metrics.totalChecks + 1) % 2 ^ 64
    successfulChecks := (metrics.successfulChecks + 1) % 2 ^ 64
    responseTimes := if 100 < times.length then times.tail else times
    lastCheck := some check.now }

/-- What a check that has failed counts. -/
def missed (metrics : ProviderHealthMetrics) (check : HealthCheck) : ProviderHealthMetrics :=
  { metrics with
    totalChecks := (metrics.totalChecks + 1) % 2 ^ 64
    failedChecks := (metrics.failedChecks + 1) % 2 ^ 64
    lastCheck := some check.now }

def changeTo (metrics : ProviderHealthMetrics) (status : ProviderStatus) (now : Nat) :
    ProviderHealthMetrics :=
  { metrics with currentStatus := status, statusChangedAt := now }

end ProviderHealthMetrics

section Events

variable {types : FieldTypes} (providerId : ProviderId) (occurredAt : DateTime)

def monitorEvent (details : EventDetails types) (agentless : details.isSaga = false) :
    DomainEvent types where
  details := details
  occurredAt := occurredAt
  correlationId := some "health-monitor"
  actor := some "provider-health-monitor"
  agentless := by
    intro isSaga
    rw [agentless] at isSaga
    cases isSaga

def healthChanged (oldStatus newStatus : ProviderStatus) : DomainEvent types :=
  monitorEvent occurredAt (.providerHealthChanged providerId oldStatus newStatus) rfl

def providerRecovered (previousStatus : ProviderStatus) : DomainEvent types :=
  monitorEvent occurredAt (.providerRecovered providerId previousStatus) rfl

/-- The events of a change that get to the bus: the second is not tried without the first. -/
def eventsOfChange (check : HealthCheck) (oldStatus newStatus : ProviderStatus) :
    List (DomainEvent types) :=
  if check.changePublished then
    healthChanged providerId check.occurredAt oldStatus newStatus ::
      if newStatus = .active ∧ check.recoveryPublished then
        [providerRecovered providerId check.occurredAt oldStatus]
      else []
  else []

end Events

def MetricsMap.insertInitial (now : Nat) (metrics : MetricsMap) (provider : MonitoredProvider) :
    MetricsMap :=
  Function.update metrics provider.providerId (some (.initial now))

namespace HealthMonitoring

variable {types : FieldTypes}

/-- `start_monitoring` up to its task. -/
def start (types : FieldTypes) (providers : List MonitoredProvider) (now : Nat) :
    HealthMonitoring types :=
  let metrics := providers.foldl (MetricsMap.insertInitial now) fun _ => none
  { providers := providers
    providerMetrics := metrics
    metricsMap := metrics
    published := []
    recorded := [] }

/-- The metrics of the provider are replaced and events are published. -/
def write (state : HealthMonitoring types) (providerId : ProviderId)
    (metrics : ProviderHealthMetrics) (events : List (DomainEvent types)) :
    HealthMonitoring types :=
  { state with
    metricsMap := Function.update state.metricsMap providerId (some metrics)
    published := state.published ++ events }

def record (state : HealthMonitoring types) (provider : MonitoredProvider)
    (records : List HealthRecord) : HealthMonitoring types :=
  { state with recorded := state.recorded ++ records.map fun record => (provider, record) }

/-- The body of the loop for a provider. -/
def checkProvider (state : HealthMonitoring types) (provider : MonitoredProvider)
    (check : HealthCheck) : HealthMonitoring types :=
  let id := provider.providerId
  match check.outcome with
  | .ok healthStatus =>
      let state := state.record provider [.total, .success, .duration check.responseSecs]
      match state.metricsMap id with
      | none => state
      | some metrics =>
          let counted := metrics.answered check
          let newStatus := statusFor healthStatus
          if counted.currentStatus ≠ newStatus then
            state.write id (counted.changeTo newStatus check.now)
              (eventsOfChange id check counted.currentStatus newStatus)
          else state.write id counted []
  | .error error =>
      let state := state.record provider [.total, .error error.errorType]
      match state.metricsMap id with
      | none => state
      | some metrics => state.write id (metrics.missed check) []

def getProviderMetrics (state : HealthMonitoring types) (providerId : ProviderId) :
    Option ProviderHealthMetrics :=
  state.providerMetrics providerId

end HealthMonitoring

/-! ## Runs of the loop -/

structure CheckMove where
  position : Nat
  check : HealthCheck

/-- The loop with every check that it has made, newest first. -/
structure HealthRun (types : FieldTypes) where
  state : HealthMonitoring types
  checks : List (ProviderId × Except ProviderError HealthStatus)

/-- The status changes in the events about a provider. -/
def changeOf {types : FieldTypes} (id : ProviderId) (event : DomainEvent types) :
    Option (ProviderStatus × ProviderStatus) :=
  match event.details with
  | .providerHealthChanged providerId oldStatus newStatus =>
      if providerId = id then some (oldStatus, newStatus) else none
  | _ => none

def recoveryOf {types : FieldTypes} (id : ProviderId) (event : DomainEvent types) :
    Option ProviderStatus :=
  match event.details with
  | .providerRecovered providerId previousStatus =>
      if providerId = id then some previousStatus else none
  | _ => none

def impliedStatus : Except ProviderError HealthStatus → ProviderStatus
  | .ok healthStatus => statusFor healthStatus
  | .error _ => .unhealthy

/-- What concerns one provider: the status the task holds, what was published, and its checks,
newest first. -/
structure ProviderView where
  status : ProviderStatus
  changes : List (ProviderStatus × ProviderStatus)
  recoveries : List ProviderStatus
  outcomes : List (Except ProviderError HealthStatus)

/-- The effect of a check on a provider of its own. -/
def ProviderView.after (view : ProviderView) (check : HealthCheck) : ProviderView :=
  let checked := { view with outcomes := check.outcome :: view.outcomes }
  match check.outcome with
  | .error _ => checked
  | .ok healthStatus =>
      let newStatus := statusFor healthStatus
      if view.status = newStatus then checked
      else { checked with
        status := newStatus
        changes :=
          if check.changePublished then view.changes ++ [(view.status, newStatus)]
          else view.changes
        recoveries :=
          if check.changePublished ∧ newStatus = .active ∧ check.recoveryPublished then
            view.recoveries ++ [view.status]
          else view.recoveries }

theorem ProviderView.after_outcomes (view : ProviderView) (check : HealthCheck) :
    (view.after check).outcomes = check.outcome :: view.outcomes := by
  unfold ProviderView.after
  dsimp only
  split
  · rfl
  · split
    · rfl
    · rfl

namespace HealthRun

variable {types : FieldTypes}

def start (types : FieldTypes) (providers : List MonitoredProvider) (now : Nat) :
    HealthRun types :=
  ⟨.start types providers now, []⟩

/-- The loop goes through the providers in turn; here they are checked in any order. -/
def step (run : HealthRun types) (move : CheckMove) : HealthRun types :=
  match run.state.providers[move.position]? with
  | none => run
  | some provider =>
      { state := run.state.checkProvider provider move.check
        checks := (provider.providerId, move.check.outcome) :: run.checks }

def view (id : ProviderId) (run : HealthRun types) : ProviderView where
  status := ((run.state.metricsMap id).map ProviderHealthMetrics.currentStatus).getD .active
  changes := run.state.published.filterMap (changeOf id)
  recoveries := run.state.published.filterMap (recoveryOf id)
  outcomes := (run.checks.filter fun checked => checked.1 = id).map Prod.snd

/-- The move is a check of the provider. -/
def Checks (id : ProviderId) (run : HealthRun types) (move : CheckMove) : Prop :=
  ∃ provider, run.state.providers[move.position]? = some provider ∧ provider.providerId = id

/-! ## The contract -/

variable (id : ProviderId)

/-- The published changes form a chain from Active. -/
def Chained (run : HealthRun types) : Prop := Linked .active (run.view id).changes

/-- The last published status is the one that the latest check implies. -/
def PublishesLatest (run : HealthRun types) : Prop :=
  ∀ outcome ∈ (run.view id).outcomes.head?,
    valueAfter .active (run.view id).changes = impliedStatus outcome

/-- The reported metrics count the checks. -/
def ReportsChecks (run : HealthRun types) : Prop :=
  ∃ metrics, run.state.getProviderMetrics id = some metrics ∧
    metrics.totalChecks = (run.view id).outcomes.length ∧
    metrics.successfulChecks = (run.view id).outcomes.countP (·.isOk) ∧
    metrics.failedChecks = (run.view id).outcomes.countP fun outcome => !outcome.isOk

/-- A recovery is published for a change to Active, and for nothing else. -/
def PublishesRecoveries (run : HealthRun types) (move : CheckMove) : Prop :=
  ((run.step move).view id).recoveries = (run.view id).recoveries ++
    if (run.view id).status ≠ .active ∧ ((run.step move).view id).status = .active then
      [(run.view id).status]
    else []

/-! ## What the checks have to be -/

/-- A change is published only from the status that was published last. -/
def StartsFromPublished (run : HealthRun types) (move : CheckMove) : Prop :=
  run.Checks id move → ∀ healthStatus, move.check.outcome = .ok healthStatus →
    (run.view id).status ≠ statusFor healthStatus → move.check.changePublished = true →
      (run.view id).status = valueAfter .active (run.view id).changes

/-- Every change is published, and a check fails only while the provider is unhealthy. -/
def ChangesPublished (run : HealthRun types) (move : CheckMove) : Prop :=
  run.Checks id move →
    match move.check.outcome with
    | .ok healthStatus =>
        (run.view id).status ≠ statusFor healthStatus → move.check.changePublished = true
    | .error _ => (run.view id).status = .unhealthy

/-- Both events of a change to Active are published. -/
def RecoveriesPublished (run : HealthRun types) (move : CheckMove) : Prop :=
  run.Checks id move → ∀ healthStatus, move.check.outcome = .ok healthStatus →
    statusFor healthStatus = .active → (run.view id).status ≠ .active →
      move.check.changePublished = true ∧ move.check.recoveryPublished = true

end HealthRun

/-! ## What a check does -/

section Checks

variable {types : FieldTypes} (id other : ProviderId) (check : HealthCheck)
  (oldStatus newStatus : ProviderStatus)

variable (occurredAt : DateTime)

@[simp] theorem change_of_health_changed :
    changeOf id (healthChanged other occurredAt oldStatus newStatus : DomainEvent types) =
      if other = id then some (oldStatus, newStatus) else none := rfl

@[simp] theorem change_of_provider_recovered :
    changeOf id (providerRecovered other occurredAt oldStatus : DomainEvent types) = none := rfl

@[simp] theorem recovery_of_health_changed :
    recoveryOf id (healthChanged other occurredAt oldStatus newStatus : DomainEvent types) =
      none := rfl

@[simp] theorem recovery_of_provider_recovered :
    recoveryOf id (providerRecovered other occurredAt oldStatus : DomainEvent types) =
      if other = id then some oldStatus else none := rfl

theorem changes_in_events_of_change :
    (eventsOfChange other check oldStatus newStatus : List (DomainEvent types)).filterMap
        (changeOf id) =
      if other = id ∧ check.changePublished then [(oldStatus, newStatus)] else [] := by
  unfold eventsOfChange
  by_cases same : other = id
  · subst same
    split_ifs <;> simp_all [List.filterMap_cons]
  · simp only [same, false_and, if_false]
    split_ifs <;> simp [same]

theorem recoveries_in_events_of_change :
    (eventsOfChange other check oldStatus newStatus : List (DomainEvent types)).filterMap
        (recoveryOf id) =
      if other = id ∧ check.changePublished ∧ newStatus = .active ∧ check.recoveryPublished then
        [oldStatus]
      else [] := by
  unfold eventsOfChange
  by_cases same : other = id
  · subst same
    split_ifs <;> simp_all [List.filterMap_cons]
  · simp only [same, false_and, if_false]
    split_ifs <;> simp [same]

end Checks

namespace HealthRun

variable {types : FieldTypes} {id : ProviderId} {run : HealthRun types} {move : CheckMove}

/-- Every monitored provider has metrics in the task. -/
def Measured (run : HealthRun types) : Prop :=
  ∀ provider ∈ run.state.providers, run.state.metricsMap provider.providerId ≠ none

theorem view_write (id : ProviderId) (run : HealthRun types) (provider : MonitoredProvider)
    (records : List HealthRecord) (metrics : ProviderHealthMetrics)
    (events : List (DomainEvent types)) (outcome : Except ProviderError HealthStatus) :
    view id {
      state := (run.state.record provider records).write provider.providerId metrics events
      checks := (provider.providerId, outcome) :: run.checks } =
    { status :=
        if provider.providerId = id then metrics.currentStatus else (run.view id).status
      changes := (run.view id).changes ++ events.filterMap (changeOf id)
      recoveries := (run.view id).recoveries ++ events.filterMap (recoveryOf id)
      outcomes :=
        if provider.providerId = id then outcome :: (run.view id).outcomes
        else (run.view id).outcomes } := by
  by_cases same : provider.providerId = id
  · subst same
    simp [view, HealthMonitoring.write, HealthMonitoring.record]
  · simp [view, HealthMonitoring.write, HealthMonitoring.record, same, Ne.symm same]

/-- A check changes what concerns its own provider, as the view says. -/
theorem view_check (id : ProviderId) (run : HealthRun types) (provider : MonitoredProvider)
    {metrics : ProviderHealthMetrics}
    (measured : run.state.metricsMap provider.providerId = some metrics) (check : HealthCheck) :
    view id {
      state := run.state.checkProvider provider check
      checks := (provider.providerId, check.outcome) :: run.checks } =
    if provider.providerId = id then (run.view id).after check else run.view id := by
  have status : provider.providerId = id → (run.view id).status = metrics.currentStatus := by
    intro same
    subst same
    simp [view, measured]
  cases outcome : check.outcome with
  | error error =>
      have checked : run.state.checkProvider provider check =
          (run.state.record provider [.total, .error error.errorType]).write provider.providerId
            (metrics.missed check) [] := by
        simp only [HealthMonitoring.checkProvider, outcome]
        simp only [HealthMonitoring.record, measured]
      rw [checked, view_write]
      split_ifs with same
      · simp [ProviderView.after, outcome, status same, ProviderHealthMetrics.missed]
      · simp
  | ok healthStatus =>
      by_cases changes : metrics.currentStatus = statusFor healthStatus
      · have checked : run.state.checkProvider provider check =
            (run.state.record provider
              [.total, .success, .duration check.responseSecs]).write provider.providerId
                (metrics.answered check) [] := by
          simp only [HealthMonitoring.checkProvider, outcome]
          simp [HealthMonitoring.record, measured, ProviderHealthMetrics.answered, changes]
        rw [checked, view_write]
        split_ifs with same
        · simp [ProviderView.after, outcome, status same, changes,
            ProviderHealthMetrics.answered]
        · simp
      · have checked : run.state.checkProvider provider check =
            (run.state.record provider
              [.total, .success, .duration check.responseSecs]).write provider.providerId
                ((metrics.answered check).changeTo (statusFor healthStatus) check.now)
                (eventsOfChange provider.providerId check metrics.currentStatus
                  (statusFor healthStatus)) := by
          simp only [HealthMonitoring.checkProvider, outcome]
          simp [HealthMonitoring.record, measured, ProviderHealthMetrics.answered, changes]
        rw [checked, view_write, changes_in_events_of_change, recoveries_in_events_of_change]
        by_cases same : provider.providerId = id
        · have former := status same
          simp only [same, true_and, if_true, ProviderView.after, outcome, former, if_neg changes]
          congr 1
          · split_ifs <;> simp
          · split_ifs <;> simp
        · simp [same]

theorem view_step (id : ProviderId) (measured : run.Measured) (move : CheckMove) :
    (run.Checks id move ∧ (run.step move).view id = (run.view id).after move.check) ∨
      (¬run.Checks id move ∧ (run.step move).view id = run.view id) := by
  unfold step Checks
  cases found : run.state.providers[move.position]? with
  | none => exact Or.inr ⟨by simp, rfl⟩
  | some provider =>
      have isProvider : provider ∈ run.state.providers := List.mem_of_getElem? found
      obtain ⟨metrics, hasMetrics⟩ := Option.ne_none_iff_exists'.mp (measured provider isProvider)
      simp only
      rw [view_check id run provider hasMetrics]
      by_cases same : provider.providerId = id
      · exact Or.inl ⟨⟨provider, rfl, same⟩, if_pos same⟩
      · right
        refine ⟨?_, if_neg same⟩
        rintro ⟨other, isOther, sameId⟩
        cases isOther
        exact same sameId

/-- The task never writes the metrics of the monitor, and drops none of its own. -/
theorem check_provider_keeps (state : HealthMonitoring types) (provider : MonitoredProvider)
    (check : HealthCheck) :
    (state.checkProvider provider check).providers = state.providers ∧
      (state.checkProvider provider check).providerMetrics = state.providerMetrics ∧
      ∀ id, state.metricsMap id ≠ none →
        (state.checkProvider provider check).metricsMap id ≠ none := by
  have written (records : List HealthRecord) (metrics : ProviderHealthMetrics)
      (events : List (DomainEvent types)) (id : ProviderId) (has : state.metricsMap id ≠ none) :
      ((state.record provider records).write provider.providerId metrics events).metricsMap id ≠
        none := by
    by_cases same : id = provider.providerId
    · subst same
      simp [HealthMonitoring.write]
    · simpa [HealthMonitoring.write, HealthMonitoring.record, same] using has
  unfold HealthMonitoring.checkProvider
  cases check.outcome with
  | error error =>
      dsimp only
      split
      · exact ⟨rfl, rfl, fun _ has => has⟩
      · exact ⟨rfl, rfl, written _ _ _⟩
  | ok healthStatus =>
      dsimp only
      split
      · exact ⟨rfl, rfl, fun _ has => has⟩
      · split_ifs
        · exact ⟨rfl, rfl, written _ _ _⟩
        · exact ⟨rfl, rfl, written _ _ _⟩

theorem measured_step (measured : run.Measured) (move : CheckMove) :
    (run.step move).Measured := by
  unfold step
  split
  · exact measured
  · obtain ⟨sameProviders, _, kept⟩ := check_provider_keeps run.state ‹_› move.check
    intro provider isProvider
    rw [sameProviders] at isProvider
    exact kept _ (measured provider isProvider)

theorem reported_step (run : HealthRun types) (move : CheckMove) :
    (run.step move).state.providerMetrics = run.state.providerMetrics := by
  unfold step
  split
  · rfl
  · exact (check_provider_keeps run.state _ move.check).2.1

theorem inserted_metrics (providers : List MonitoredProvider) (now : Nat) (metrics : MetricsMap)
    (id : ProviderId) :
    providers.foldl (MetricsMap.insertInitial now) metrics id =
      if id ∈ providers.map MonitoredProvider.providerId then some (.initial now)
      else metrics id := by
  induction providers generalizing metrics with
  | nil => simp
  | cons provider rest ih =>
      rw [List.foldl_cons, ih]
      by_cases later : id ∈ rest.map MonitoredProvider.providerId
      · simp only [later, List.map_cons, List.mem_cons, or_true, if_true]
      · by_cases same : id = provider.providerId
        · subst same
          simp [later, MetricsMap.insertInitial]
        · simp only [later, same, List.map_cons, List.mem_cons, or_self, if_false,
            MetricsMap.insertInitial, Function.update_of_ne same]

variable {providers : List MonitoredProvider}

theorem start_metrics (now : Nat) (monitored : id ∈ providers.map MonitoredProvider.providerId) :
    (start types providers now).state.metricsMap id = some (.initial now) := by
  have entry := inserted_metrics providers now (fun _ => none) id
  rwa [if_pos monitored] at entry

theorem measured_start (providers : List MonitoredProvider) (now : Nat) :
    (start types providers now).Measured := by
  intro provider isProvider
  have monitored : provider.providerId ∈ providers.map MonitoredProvider.providerId :=
    List.mem_map_of_mem isProvider
  rw [start_metrics now monitored]
  exact Option.some_ne_none _

/-! ## Each part of the contract -/

theorem chained_step_iff (measured : run.Measured) (chained : run.Chained id) :
    (run.step move).Chained id ↔ run.StartsFromPublished id move := by
  unfold Chained at *
  unfold StartsFromPublished
  rcases view_step id measured move with ⟨checks, next⟩ | ⟨skips, next⟩
  · rw [next]
    unfold ProviderView.after
    cases outcome : move.check.outcome with
    | error error => simpa [checks] using chained
    | ok healthStatus =>
        by_cases same : (run.view id).status = statusFor healthStatus
        · simpa [checks, same] using chained
        · cases published : move.check.changePublished with
          | false => simpa [checks, same] using chained
          | true => simp [checks, same, linked_append_iff, chained]
  · rw [next]
    exact iff_of_true chained fun checks => absurd checks skips

/-- As long as the latest status is published, it is the status that the task holds. -/
def HoldsPublished (id : ProviderId) (run : HealthRun types) : Prop :=
  (run.view id).status = valueAfter .active (run.view id).changes

theorem holds_published_step (measured : run.Measured) (holds : run.HoldsPublished id)
    (latest : (run.step move).PublishesLatest id) : (run.step move).HoldsPublished id := by
  unfold HoldsPublished PublishesLatest at *
  rcases view_step id measured move with ⟨checks, next⟩ | ⟨skips, next⟩
  · rw [next] at latest ⊢
    unfold ProviderView.after at latest ⊢
    cases outcome : move.check.outcome with
    | error error => exact holds
    | ok healthStatus =>
        by_cases same : (run.view id).status = statusFor healthStatus
        · simpa [same] using holds
        · have published := latest (.ok healthStatus) (by simp [outcome, same])
          simp only [outcome, if_neg same] at published ⊢
          exact published.symm
  · rw [next]
    exact holds

theorem publishes_latest_step_iff (measured : run.Measured) (holds : run.HoldsPublished id)
    (latest : run.PublishesLatest id) :
    ((run.step move).PublishesLatest id ∧ (run.step move).HoldsPublished id) ↔
      run.ChangesPublished id move := by
  unfold PublishesLatest HoldsPublished at *
  unfold ChangesPublished
  rcases view_step id measured move with ⟨checks, next⟩ | ⟨skips, next⟩
  · rw [next]
    unfold ProviderView.after
    cases outcome : move.check.outcome with
    | error error => simp [checks, ← holds, impliedStatus]
    | ok healthStatus =>
        by_cases same : (run.view id).status = statusFor healthStatus
        · simp [checks, same, ← holds, impliedStatus]
        · cases published : move.check.changePublished with
          | false => simp [checks, same, ← holds, impliedStatus]
          | true => simp [checks, same, impliedStatus]
  · rw [next]
    exact iff_of_true ⟨latest, holds⟩ fun checks => absurd checks skips

theorem publishes_recoveries_iff (measured : run.Measured) :
    run.PublishesRecoveries id move ↔ run.RecoveriesPublished id move := by
  unfold PublishesRecoveries RecoveriesPublished
  rcases view_step id measured move with ⟨checks, next⟩ | ⟨skips, next⟩
  · rw [next]
    unfold ProviderView.after
    cases outcome : move.check.outcome with
    | error error => simp [checks]
    | ok healthStatus =>
        by_cases same : (run.view id).status = statusFor healthStatus
        · simp +contextual [checks, same]
        · by_cases recovers : statusFor healthStatus = .active
          · have was : (run.view id).status ≠ .active := recovers ▸ same
            simp [checks, recovers, was]
          · simp [checks, same, recovers]
  · rw [next]
    refine iff_of_true ?_ fun checks => absurd checks skips
    simp

/-- The reported metrics stay initial, so any check is missing in them. -/
def ReportsInitial (id : ProviderId) (now : Nat) (run : HealthRun types) : Prop :=
  run.Measured ∧ run.state.getProviderMetrics id = some (.initial now)

theorem reports_checks_iff {now : Nat} (reported : run.ReportsInitial id now) :
    run.ReportsChecks id ↔ (run.view id).outcomes = [] := by
  unfold ReportsChecks
  rw [reported.2]
  constructor
  · rintro ⟨metrics, isInitial, total, _⟩
    cases isInitial
    exact List.length_eq_zero_iff.mp total.symm
  · intro none
    exact ⟨.initial now, rfl, by simp [none, ProviderHealthMetrics.initial]⟩

theorem reports_checks_step_iff {now : Nat} (reported : run.ReportsInitial id now)
    (reports : run.ReportsChecks id) :
    (run.step move).ReportsChecks id ↔ ¬run.Checks id move := by
  have next : (run.step move).ReportsInitial id now := by
    refine ⟨measured_step reported.1 move, ?_⟩
    rw [HealthMonitoring.getProviderMetrics, reported_step]
    exact reported.2
  rw [reports_checks_iff next]
  rw [reports_checks_iff reported] at reports
  rcases view_step id reported.1 move with ⟨checks, after⟩ | ⟨skips, after⟩
  · refine iff_of_false ?_ (not_not_intro checks)
    rw [after, ProviderView.after_outcomes]
    exact List.cons_ne_nil _ _
  · rw [after]
    exact iff_of_true reports skips

variable (moves : List CheckMove) (now : Nat)

theorem always_chained_iff (types : FieldTypes) (id : ProviderId)
    (providers : List MonitoredProvider) :
    Always step (Chained id) (start types providers now) moves ↔
      EachMove step (StartsFromPublished id) (start types providers now) moves :=
  always_iff_each_move_within step Measured (Chained id) (StartsFromPublished id)
    (fun _ move measured => measured_step measured move)
    (fun _ _ measured chained => chained_step_iff measured chained) moves _
    (measured_start providers now) trivial

theorem always_publishes_latest_iff (types : FieldTypes) (id : ProviderId)
    (providers : List MonitoredProvider) :
    Always step (PublishesLatest id) (start types providers now) moves ↔
      EachMove step (ChangesPublished id) (start types providers now) moves := by
  have holds : (start types providers now).HoldsPublished id := by
    unfold HoldsPublished view
    by_cases monitored : id ∈ providers.map MonitoredProvider.providerId
    · rw [start_metrics now monitored]
      rfl
    · have entry := inserted_metrics providers now (fun _ => none) id
      rw [if_neg monitored] at entry
      simp only [start, HealthMonitoring.start, entry]
      rfl
  have latest : (start types providers now).PublishesLatest id := by
    intro outcome isLatest
    cases isLatest
  have both := always_iff_always_and step
    (fun run => run.PublishesLatest id) (fun run => run.Measured ∧ run.HoldsPublished id)
    (fun _ move known latest =>
      ⟨measured_step known.1 move, holds_published_step known.1 known.2 latest⟩)
    moves (start types providers now) ⟨measured_start providers now, holds⟩
  rw [both]
  refine always_iff_each_move step _ _ ?_ moves _ ⟨latest, measured_start providers now, holds⟩
  rintro run move ⟨latest, measured, holds⟩
  rw [← publishes_latest_step_iff measured holds latest]
  have stays := measured_step measured move
  exact ⟨fun known => ⟨known.1, known.2.2⟩, fun known => ⟨known.1, stays, known.2⟩⟩

theorem each_publishes_recoveries_iff (types : FieldTypes) (id : ProviderId)
    (providers : List MonitoredProvider) :
    EachMove step (PublishesRecoveries id) (start types providers now) moves ↔
      EachMove step (RecoveriesPublished id) (start types providers now) moves :=
  each_move_congr_within step Measured (fun _ _ measured => publishes_recoveries_iff measured)
    (fun _ move measured _ => measured_step measured move) moves _ (measured_start providers now)

theorem always_reports_checks_iff (types : FieldTypes)
    (monitored : id ∈ providers.map MonitoredProvider.providerId) :
    Always step (ReportsChecks id) (start types providers now) moves ↔
      EachMove step (fun run move => ¬run.Checks id move) (start types providers now) moves := by
  have initial : (start types providers now).state.metricsMap id = some (.initial now) :=
    start_metrics now monitored
  have reported : (start types providers now).ReportsInitial id now :=
    ⟨measured_start providers now, initial⟩
  refine always_iff_each_move_within step (ReportsInitial id now) (ReportsChecks id) _ ?_ ?_ moves
    _ reported ((reports_checks_iff reported).mpr rfl)
  · intro run move reported
    refine ⟨measured_step reported.1 move, ?_⟩
    rw [HealthMonitoring.getProviderMetrics, reported_step]
    exact reported.2
  · exact fun run move reported reports => reports_checks_step_iff reported reports

/-- What the loop is to keep for a provider. -/
structure Keeps (id : ProviderId) (start : HealthRun types) (moves : List CheckMove) : Prop where
  chained : Always step (Chained id) start moves
  latest : Always step (PublishesLatest id) start moves
  recoveries : EachMove step (PublishesRecoveries id) start moves
  metrics : Always step (ReportsChecks id) start moves

end HealthRun

open HealthRun

/-- The monitor keeps its contract for a provider exactly until it checks it: no check gets to the
reported metrics. The other parts have conditions of their own. -/
theorem monitor_keeps_iff_unchecked (types : FieldTypes) (providers : List MonitoredProvider)
    (now : Nat) (id : ProviderId) (monitored : id ∈ providers.map MonitoredProvider.providerId)
    (moves : List CheckMove) :
    (Keeps id (start types providers now) moves ↔
      EachMove step (fun run move => ¬run.Checks id move) (start types providers now) moves) ∧
    (Always step (Chained id) (start types providers now) moves ↔
      EachMove step (StartsFromPublished id) (start types providers now) moves) ∧
    (Always step (PublishesLatest id) (start types providers now) moves ↔
      EachMove step (ChangesPublished id) (start types providers now) moves) ∧
    (EachMove step (PublishesRecoveries id) (start types providers now) moves ↔
      EachMove step (RecoveriesPublished id) (start types providers now) moves) := by
  have chained := always_chained_iff moves now types id providers
  have latest := always_publishes_latest_iff moves now types id providers
  have recoveries := each_publishes_recoveries_iff moves now types id providers
  have metrics := always_reports_checks_iff moves now types monitored
  refine ⟨⟨fun keeps => metrics.mp keeps.metrics, ?_⟩, chained, latest, recoveries⟩
  intro unchecked
  exact {
    chained := chained.mpr (each_move_imp step
      (fun _ _ skips checks => absurd checks skips) moves _ unchecked)
    latest := latest.mpr (each_move_imp step
      (fun _ _ skips checks => absurd checks skips) moves _ unchecked)
    recoveries := recoveries.mpr (each_move_imp step
      (fun _ _ skips checks => absurd checks skips) moves _ unchecked)
    metrics := metrics.mpr unchecked }

def unitTypes : FieldTypes := ⟨Unit, Unit, Unit, Unit, Unit, Unit, Unit⟩

/-- A monitor of one provider. -/
def oneMonitored : HealthRun unitTypes := start unitTypes [⟨⟨0⟩, "docker"⟩] 0

def checkEnding (outcome : Except ProviderError HealthStatus)
    (changePublished recoveryPublished : Bool) : CheckMove where
  position := 0
  check := ⟨outcome, 0, 1, 1, changePublished, recoveryPublished⟩

/-- The provider turns unhealthy, stops to answer and recovers. -/
def outage : List CheckMove :=
  [checkEnding (.ok (.unhealthy "")) true true, checkEnding (.error (.timeout "")) true true,
    checkEnding (.ok .healthy) true true]

theorem latest_published_in_outage : Always step (PublishesLatest ⟨0⟩) oneMonitored outage := by
  refine (monitor_keeps_iff_unchecked unitTypes [⟨⟨0⟩, "docker"⟩] 0 ⟨0⟩ (by decide)
    outage).2.2.1.mpr ⟨?_, ?_, ?_, trivial⟩
  · intro _ _
    rfl
  · intro _
    rfl
  · intro _ _
    rfl

/-- A failed check, a change whose events are lost before the next one, and a change to Active
whose second event is lost. -/
theorem checks_break_keeps :
    ¬Always step (ReportsChecks ⟨0⟩) oneMonitored [checkEnding (.error (.timeout "")) true true] ∧
    ¬Always step (PublishesLatest ⟨0⟩) oneMonitored
      [checkEnding (.error (.timeout "")) true true] ∧
    ¬Always step (Chained ⟨0⟩) oneMonitored
      [checkEnding (.ok (.unhealthy "")) false true, checkEnding (.ok .healthy) true true] ∧
    ¬EachMove step (PublishesRecoveries ⟨0⟩) oneMonitored
      [checkEnding (.ok (.unhealthy "")) true true, checkEnding (.ok .healthy) true false] := by
  refine ⟨?_, ?_, ?_, ?_⟩
  · rintro ⟨_, metrics, isReported, total, _⟩
    cases isReported
    cases total
  · rintro ⟨_, latest⟩
    have published := latest _ rfl
    cases published
  · rintro ⟨_, _, chained⟩
    cases chained.1
  · rintro ⟨_, recoveries, _⟩
    cases recoveries

end HodeiJobs.Providers
