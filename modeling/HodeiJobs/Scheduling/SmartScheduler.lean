import HodeiJobs.Scheduling.Preference
import HodeiJobs.Scheduling.Requirements
import HodeiJobs.Scheduling.Scoring

/-!
# The scheduler

`SmartScheduler` decides for a job between a worker, a provider and the queue. Its two
round-robin counters are the only state it has; they are passed along.
-/

namespace HodeiJobs.Scheduling

open HodeiJobs.Library
open HodeiJobs.Workers (StringMap Worker canAcceptJobs)
open HodeiJobs.Dispatch (ProviderId)
open HodeiJobs.Execution (JobId WorkerId)

structure JobPreferences where
  preferredProvider : Option String
  requiredLabels : StringMap
  requiredAnnotations : StringMap

/-- What scheduling reads of a job. -/
structure Job where
  id : JobId
  image : Option String
  gpuRequired : Bool
  preferences : JobPreferences

inductive SchedulingDecision where
  | assignToWorker (jobId : JobId) (workerId : WorkerId)
  | provisionWorker (jobId : JobId) (providerId : ProviderId)
  | enqueue (jobId : JobId) (reason : String)
  | reject (jobId : JobId) (reason : String)
  deriving DecidableEq

structure SchedulingContext where
  job : Job
  availableWorkers : List Worker
  availableProviders : List ProviderInfo
  pendingJobsCount : Nat
  systemLoad : ℚ

inductive WorkerSelectionStrategy where
  | firstAvailable
  | leastLoaded
  | mostCapacity
  | roundRobin
  | affinity
  deriving DecidableEq, Repr

inductive ProviderSelectionStrategy where
  | firstAvailable
  | lowestCost
  | fastestStartup
  | mostCapacity
  | roundRobin
  | healthiest
  deriving DecidableEq, Repr

structure SchedulerConfig where
  workerStrategy : WorkerSelectionStrategy
  providerStrategy : ProviderSelectionStrategy
  maxQueueDepth : Nat
  scaleUpLoadThreshold : ℚ

def SchedulerConfig.default : SchedulerConfig := ⟨.leastLoaded, .fastestStartup, 100, 8 / 10⟩

structure SmartScheduler where
  config : SchedulerConfig
  roundRobinWorkerIndex : Nat
  roundRobinProviderIndex : Nat

/-- `fetch_add(1)` on an `AtomicUsize`: it wraps. -/
def fetchAdd (counter : Nat) : Nat := (counter + 1) % 2 ^ 64

/-! ## Worker selectors -/

def FirstAvailableWorkerSelector.selectWorker (workers : List Worker) : Option WorkerId :=
  (workers.find? fun worker => canAcceptJobs worker.state).map Worker.id

/-- `min_by_key` takes the first of the least. -/
def LeastLoadedWorkerSelector.selectWorker (workers : List Worker) : Option WorkerId :=
  ((workers.filter fun worker => canAcceptJobs worker.state).minOn? Worker.jobsExecuted).map
    Worker.id

/-- The last of the strategies: the worker for this kind of image, else the first. -/
def selectByAffinity (job : Job) (workers : List Worker) : Option WorkerId :=
  let sameImage := workers.find? fun worker =>
    ((worker.spec.labels.lookup "image_type").map fun type => some type == job.image).getD false
  (sameImage.or (workers.find? fun worker => canAcceptJobs worker.state)).map Worker.id

namespace SmartScheduler

variable (tables : TextTables)

/-- Step 1 of `select_worker`: no worker is eligible if the preference cannot be read. -/
def preferredWorkers (job : Job) (workers : List Worker) : List Worker :=
  match job.preferences.preferredProvider with
  | some preferred =>
      let preference := (ProviderPreference.new tables preferred).toOption
      workers.filter fun worker =>
        (preference.map fun known => known.matchesProviderType worker.handle.providerType).getD
          false && canAcceptJobs worker.state
  | none => workers.filter fun worker => canAcceptJobs worker.state

/-- Steps 1 and 2: the error of `WorkerRequirements::new` is dropped. -/
def eligibleWorkers (job : Job) (workers : List Worker) : List Worker :=
  let eligible := preferredWorkers tables job workers
  match (WorkerRequirements.new tables.characters job.preferences.requiredLabels
      job.preferences.requiredAnnotations).toOption with
  | some requirements =>
      if requirements.hasRequirements then eligible.filter requirements.matchesWorker else eligible
  | none => eligible

def selectWorker (scheduler : SmartScheduler) (job : Job) (workers : List Worker) :
    Option WorkerId × SmartScheduler :=
  if workers.isEmpty then (none, scheduler)
  else
    let eligible := eligibleWorkers tables job workers
    if eligible.isEmpty then (none, scheduler)
    else
      match scheduler.config.workerStrategy with
      | .firstAvailable => (FirstAvailableWorkerSelector.selectWorker eligible, scheduler)
      | .leastLoaded => (LeastLoadedWorkerSelector.selectWorker eligible, scheduler)
      | .roundRobin =>
          let index := scheduler.roundRobinWorkerIndex
          (eligible[index % eligible.length]?.map Worker.id,
            { scheduler with roundRobinWorkerIndex := fetchAdd index })
      | .mostCapacity => (LeastLoadedWorkerSelector.selectWorker eligible, scheduler)
      | .affinity => (selectByAffinity job eligible, scheduler)

def selectProvider (scheduler : SmartScheduler) (providers : List ProviderInfo) :
    Option ProviderId × SmartScheduler :=
  if providers.isEmpty then (none, scheduler)
  else
    match scheduler.config.providerStrategy with
    | .firstAvailable =>
        ((providers.find? ProviderInfo.canAcceptWorkers).map ProviderInfo.providerId, scheduler)
    | .lowestCost => (LowestCostProviderSelector.selectProvider providers, scheduler)
    | .fastestStartup => (FastestStartupProviderSelector.selectProvider providers, scheduler)
    | .mostCapacity => (MostCapacityProviderSelector.selectProvider providers, scheduler)
    | .roundRobin =>
        let available := providers.filter ProviderInfo.canAcceptWorkers
        if available.isEmpty then (none, scheduler)
        else
          let index := scheduler.roundRobinProviderIndex
          (available[index % available.length]?.map ProviderInfo.providerId,
            { scheduler with roundRobinProviderIndex := fetchAdd index })
    | .healthiest => (HealthiestProviderSelector.selectProvider providers, scheduler)

/-- The test of the preferred provider: by type, or by the id that the preference is. -/
def matchesPreferred (preference : Option ProviderPreference) (provider : ProviderInfo) : Bool :=
  let typeMatches :=
    (preference.map fun known => known.matchesProviderType provider.providerType).getD false
  let idMatches := (preference.map fun known =>
    if known.isProviderId then known.matchesProviderId tables.uuids provider.providerId
    else false).getD false
  (typeMatches || idMatches) && provider.canAcceptWorkers

/-- The region of the job is only logged. -/
def selectProviderWithPreferences (scheduler : SmartScheduler) (job : Job)
    (providers : List ProviderInfo) : Option ProviderId × SmartScheduler :=
  let filtered :=
    if job.gpuRequired then providers.filter fun provider => provider.canHandleGpuRequirement 1
    else providers
  if filtered.isEmpty then (none, scheduler)
  else
    let preferred := job.preferences.preferredProvider.bind fun preferred =>
      filtered.find? (matchesPreferred tables (ProviderPreference.new tables preferred).toOption)
    match preferred with
    | some provider => (some provider.providerId, scheduler)
    | none => scheduler.selectProvider filtered

/-- The filter of `schedule` itself, which lets every worker through if the preference
cannot be read. -/
def offeredWorkers (job : Job) (workers : List Worker) : List Worker :=
  match job.preferences.preferredProvider with
  | some preferred =>
      let preference := (ProviderPreference.new tables preferred).toOption
      workers.filter fun worker =>
        (preference.map fun known => known.matchesProviderType worker.handle.providerType).getD true
  | none => workers

def schedule (scheduler : SmartScheduler) (context : SchedulingContext) :
    SchedulingDecision × SmartScheduler :=
  let jobId := context.job.id
  if scheduler.config.maxQueueDepth < context.pendingJobsCount then
    (.reject jobId ("Queue depth " ++ toString context.pendingJobsCount ++ " exceeds max " ++
      toString scheduler.config.maxQueueDepth), scheduler)
  else
    let assigned :=
      if context.availableWorkers.isEmpty then (none, scheduler)
      else scheduler.selectWorker tables context.job
        (offeredWorkers tables context.job context.availableWorkers)
    match assigned.1 with
    | some workerId => (.assignToWorker jobId workerId, assigned.2)
    | none =>
        let provisioned := assigned.2.selectProviderWithPreferences tables context.job
          context.availableProviders
        match provisioned.1 with
        | some providerId => (.provisionWorker jobId providerId, provisioned.2)
        | none =>
            if scheduler.config.scaleUpLoadThreshold < context.systemLoad then
              (.enqueue jobId "System under high load, enqueueing for later", provisioned.2)
            else (.enqueue jobId "No providers available for job", provisioned.2)

end SmartScheduler

end HodeiJobs.Scheduling
