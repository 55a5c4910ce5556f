import HodeiJobs.Persistence.JobReaders
import HodeiJobs.Scheduling.SmartScheduler

/-!
# The dispatcher of jobs

`JobDispatcher` takes a job from the queue, or is told of one, and assigns it, provisions a
worker for it or queues it again. What the calls that it makes answer is given; they are
made in the order of the source, each at most once in its place.
-/

namespace HodeiJobs.Scheduling

open HodeiJobs.Library HodeiJobs.Shared
open HodeiJobs.Dispatch (ProviderId)
open HodeiJobs.Execution (JobId UuidText WorkerId)
open HodeiJobs.Jobs (DomainError)
open HodeiJobs.Persistence (JobTables ReadError Serde plainSerde)
open HodeiJobs.Sagas (DateTime Duration)
open HodeiJobs.Workers (Worker WorkerSpec)

/-! ## State -/

/-- An entry of `recently_provisioned`; an `Instant` is given in nanoseconds. -/
structure RecentlyProvisioned where
  jobId : JobId
  time : Nat
  deriving DecidableEq

/-- The three places that call `trigger_provisioning`: the decision `ProvisionWorker` of
`dispatch_once`, `handle_no_available_workers` and `request_worker_provisioning`. -/
inductive ProvisioningPath where
  | decided
  | noWorkers
  | requested
  deriving DecidableEq, Repr

/-- That a worker was provisioned for a job. -/
structure Provisioning where
  path : ProvisioningPath
  jobId : JobId
  time : Nat
  deriving DecidableEq

structure JobDispatcher where
  scheduler : SmartScheduler
  recentlyProvisioned : Table RecentlyProvisioned.jobId
  provisioningCooldown : Duration
  heartbeatTimeout : Duration
  hasExecutionSagaDispatcher : Bool
  hasProvisioningSagaCoordinator : Bool
  hasProvisioningService : Bool

/-- The dispatcher, the tables, and what the sagas and the provisioning have done so far. -/
structure DispatchWorld where
  dispatcher : JobDispatcher
  tables : JobTables
  executions : List (JobId × WorkerId)
  provisionings : List Provisioning

/-- The parts of a job that scheduling reads, and those the dispatcher writes. -/
structure JobView (serde : Serde) where
  image : serde.Spec → Option String
  gpuRequired : serde.Spec → Bool
  preferences : serde.Spec → JobPreferences
  setPreferences : JobPreferences → serde.Spec → serde.Spec
  newContext : JobId → ProviderId → String → serde.Context
  preferences_set : ∀ chosen spec, preferences (setPreferences chosen spec) = chosen

variable {serde : Serde}

def JobView.job (view : JobView serde) (job : Persistence.Job serde) : Job where
  id := job.id
  image := view.image job.spec
  gpuRequired := view.gpuRequired job.spec
  preferences := view.preferences job.spec

/-- `job.spec.preferences.preferred_provider = Some(provider_id.to_string())`. -/
def JobView.prefer (view : JobView serde) (uuids : UuidText) (providerId : ProviderId)
    (job : Persistence.Job serde) : Persistence.Job serde :=
  { job with
    spec := view.setPreferences
      { view.preferences job.spec with preferredProvider := some (uuids.display providerId.uuid) }
      job.spec }

/-! ## Calls -/

/-- An error that is returned, or the end of the task. -/
inductive Stop where
  | domain (error : DomainError)
  | message (text : String)
  | panicked

def Stop.ofRead : ReadError → Stop
  | .panicked _ => .panicked
  | .failed error => .domain error

/-- The providers are given as the resource allocator describes them. `provision` is the
provisioning saga or the provisioning service, whichever is asked. -/
structure ProvisioningAnswers where
  enabledProviders : Except DomainError (List ProviderInfo)
  defaultWorkerSpec : ProviderId → Option WorkerSpec
  provision : ProviderId → WorkerSpec → JobId → Except String WorkerId
  tablesAfter : JobTables → JobTables

structure DispatchAnswers where
  utcNow : DateTime
  dequeueFailure : Option DomainError
  dequeueChoice : Nat
  availableWorkers : Except DomainError (List Worker)
  providersWithCapacity : Except DomainError (List ProviderInfo)
  queueLength : Except DomainError Nat
  provisioning : ProvisioningAnswers
  executionSaga : JobId → WorkerId → JobTables → Except String Unit × JobTables
  enqueueFailure : Option DomainError
  foreignKeyViolation : String

/-! ## Provisioning -/

section

variable (text : TextTables)

def selectProviderForProvisioning (scheduler : SmartScheduler) (job : Job)
    (providers : List ProviderInfo) : Except Stop ProviderId × SmartScheduler :=
  match scheduler.selectProviderWithPreferences text job providers with
  | (some providerId, next) => (.ok providerId, next)
  | (none, next) => (.error (.message "No provider found"), next)

def requireProvisioningService (dispatcher : JobDispatcher) : Except Stop Unit :=
  if dispatcher.hasProvisioningService then .ok ()
  else .error (.domain (.infrastructureError "No provisioning service available"))

/-- The last calls of both ways of provisioning. -/
def provisionOn (answers : ProvisioningAnswers) (job : Job) (failed : String)
    (providerId : ProviderId) : Except Stop WorkerId :=
  match answers.defaultWorkerSpec providerId with
  | none =>
      .error (.message ("No default spec for provider " ++ text.uuids.display providerId.uuid))
  | some spec =>
      match answers.provision providerId spec job.id with
      | .ok workerId => .ok workerId
      | .error problem => .error (.message (failed ++ problem))

/-- The calls of `trigger_provisioning`. There is no worker if no provider is enabled, and
that is no error. -/
def provision (answers : ProvisioningAnswers) (dispatcher : JobDispatcher) (job : Job) :
    Except Stop (Option WorkerId) × SmartScheduler :=
  let scheduler := dispatcher.scheduler
  if dispatcher.hasProvisioningSagaCoordinator then
    match answers.enabledProviders with
    | .error error => (.error (.domain error), scheduler)
    | .ok providers =>
        if providers.isEmpty then (.ok none, scheduler)
        else
          let selected := selectProviderForProvisioning text scheduler job providers
          (do
            let providerId ← selected.1
            requireProvisioningService dispatcher
            let workerId ← provisionOn text answers job "Provisioning saga failed: " providerId
            return some workerId, selected.2)
  else
    match requireProvisioningService dispatcher with
    | .error stop => (.error stop, scheduler)
    | .ok () =>
        match answers.enabledProviders with
        | .error error => (.error (.domain error), scheduler)
        | .ok providers =>
            if providers.isEmpty then (.ok none, scheduler)
            else
              let selected := selectProviderForProvisioning text scheduler job providers
              (do
                let providerId ← selected.1
                let workerId ←
                  provisionOn text answers job "Failed to provision worker: " providerId
                return some workerId, selected.2)

/-- A worker that was provisioned. -/
def provisioned (path : ProvisioningPath) (now : Nat) (jobId : JobId) :
    Except Stop (Option WorkerId) → List Provisioning
  | .ok (some _) => [⟨path, jobId, now⟩]
  | _ => []

def triggerProvisioning (path : ProvisioningPath) (now : Nat) (answers : ProvisioningAnswers)
    (job : Job) (world : DispatchWorld) : Except Stop Unit × DispatchWorld :=
  let outcome := provision text answers world.dispatcher job
  (outcome.1.map fun _ => (),
    { world with
      dispatcher := { world.dispatcher with scheduler := outcome.2 }
      tables := answers.tablesAfter world.tables
      provisionings := world.provisionings ++ provisioned path now job.id outcome.1 })

/-! ## One dispatch cycle -/

def enqueue (answers : DispatchAnswers) (jobId : JobId) (world : DispatchWorld) :
    Except Stop Unit × DispatchWorld :=
  match answers.enqueueFailure with
  | some error => (.error (.domain error), world)
  | none =>
      let queued := world.tables.enqueue answers.foreignKeyViolation jobId
      (queued.1.mapError .domain, { world with tables := queued.2 })

/-- `WorkerHealthService::is_healthy`. -/
def isHealthy (dispatcher : JobDispatcher) (utcNow : DateTime) (worker : Worker) : Bool :=
  (Worker.elapsed worker.lastHeartbeat utcNow).nanos < dispatcher.heartbeatTimeout.nanos

def queryHealthyWorkers (answers : DispatchAnswers) (dispatcher : JobDispatcher) :
    Except Stop (List Worker) :=
  match answers.availableWorkers with
  | .error error => .error (.domain error)
  | .ok workers => .ok (workers.filter (isHealthy dispatcher answers.utcNow))

/-- Whether to provision, by the table of recent provisionings; it is cleaned first. -/
def shouldProvision (now : Nat) (jobId : JobId) (dispatcher : JobDispatcher) :
    Bool × JobDispatcher :=
  let cooldown := dispatcher.provisioningCooldown.nanos
  let retained := dispatcher.recentlyProvisioned.retain fun entry => now - entry.time < cooldown
  let inserted := { dispatcher with recentlyProvisioned := retained.upsert ⟨jobId, now⟩ }
  match retained.find jobId with
  | some entry =>
      if now - entry.time < cooldown then
        (false, { dispatcher with recentlyProvisioned := retained })
      else (true, inserted)
  | none => (true, inserted)

def handleNoAvailableWorkers (now : Nat) (answers : DispatchAnswers) (job : Job)
    (world : DispatchWorld) : Except Stop Nat × DispatchWorld :=
  let consulted := shouldProvision now job.id world.dispatcher
  let world := { world with dispatcher := consulted.2 }
  if consulted.1 then
    let triggered := triggerProvisioning text .noWorkers now answers.provisioning job world
    match triggered.1 with
    | .ok () =>
        let queued := enqueue answers job.id triggered.2
        (queued.1.map fun _ => 0, queued.2)
    | .error stop =>
        let dispatcher := { triggered.2.dispatcher with
          recentlyProvisioned := triggered.2.dispatcher.recentlyProvisioned.delete job.id }
        let queued := enqueue answers job.id { triggered.2 with dispatcher := dispatcher }
        (queued.1.bind fun _ => .error stop, queued.2)
  else
    let queued := enqueue answers job.id world
    (queued.1.map fun _ => 0, queued.2)

/-- The providers are none if they cannot be listed. -/
def schedulingContext (answers : DispatchAnswers) (job : Job) (workers : List Worker)
    (queueLength : Nat) : SchedulingContext where
  job
  availableWorkers := workers
  availableProviders := answers.providersWithCapacity.toOption.getD []
  pendingJobsCount := queueLength
  systemLoad := 0

def makeSchedulingDecision (answers : DispatchAnswers) (job : Job) (workers : List Worker)
    (scheduler : SmartScheduler) : Except Stop SchedulingDecision × SmartScheduler :=
  match answers.queueLength with
  | .error error => (.error (.domain error), scheduler)
  | .ok queueLength =>
      let decided := scheduler.schedule text (schedulingContext answers job workers queueLength)
      (.ok decided.1, decided.2)

/-- A job that cannot be dispatched remains as it is. -/
def dispatchJobToWorker (answers : DispatchAnswers) (jobId : JobId) (workerId : WorkerId)
    (world : DispatchWorld) : Except Stop Nat × DispatchWorld :=
  if world.dispatcher.hasExecutionSagaDispatcher then
    match answers.executionSaga jobId workerId world.tables with
    | (.ok (), tables) =>
        (.ok 1, { world with
          tables := tables
          executions := world.executions ++ [(jobId, workerId)] })
    | (.error problem, tables) =>
        (.error (.message ("ExecutionSaga failed: " ++ problem)), { world with tables := tables })
  else
    (.error (.message ("Execution saga dispatcher not configured. Cannot dispatch job to " ++
      "worker. Check server startup configuration.")), world)

/-- The decision is made and carried out. -/
def decideAndExecute (view : JobView serde) (now : Nat) (answers : DispatchAnswers)
    (job : Persistence.Job serde) (workers : List Worker) (world : DispatchWorld) :
    Except Stop Nat × DispatchWorld :=
  let decided := makeSchedulingDecision text answers (view.job job) workers
    world.dispatcher.scheduler
  let world := { world with dispatcher := { world.dispatcher with scheduler := decided.2 } }
  match decided.1 with
  | .error stop => (.error stop, world)
  | .ok (.assignToWorker _ workerId) => dispatchJobToWorker answers job.id workerId world
  | .ok (.provisionWorker _ providerId) =>
      let job := view.prefer text.uuids providerId job
      let triggered :=
        triggerProvisioning text .decided now answers.provisioning (view.job job) world
      let queued := enqueue answers job.id triggered.2
      (queued.1.map fun _ => 0, queued.2)
  | .ok (.enqueue _ _) | .ok (.reject _ _) =>
      let queued := enqueue answers job.id world
      (queued.1.map fun _ => 0, queued.2)

/-- `dispatch_once` on the job that it has dequeued. -/
def dispatchDequeued (view : JobView serde) (now : Nat) (answers : DispatchAnswers)
    (job : Persistence.Job serde) (world : DispatchWorld) : Except Stop Nat × DispatchWorld :=
  match queryHealthyWorkers answers world.dispatcher with
  | .error stop => (.error stop, world)
  | .ok workers =>
      if workers.isEmpty then
        handleNoAvailableWorkers text now answers (view.job job) world
      else decideAndExecute text view now answers job workers world

def dispatchOnce (view : JobView serde) (now : Nat) (answers : DispatchAnswers)
    (world : DispatchWorld) : Except Stop Nat × DispatchWorld :=
  match answers.dequeueFailure with
  | some error => (.error (.domain error), world)
  | none =>
      let dequeued := Persistence.JobQueue.dequeue serde world.tables answers.dequeueChoice
      let world := { world with tables := dequeued.2 }
      match dequeued.1 with
      | .error problem => (.error (.ofRead problem), world)
      | .ok none => (.ok 0, world)
      | .ok (some job) => dispatchDequeued text view now answers job world

/-! ## The event `JobQueued` -/

/-- What the calls of `request_worker_provisioning` answer: whether the provider is
registered, the identifier of the execution, and whether the job cannot be updated. -/
structure RequestAnswers where
  enabledProviders : Except DomainError (List ProviderInfo)
  providerRegistered : ProviderId → Except DomainError Bool
  executionId : String
  updateFailure : Option DomainError

/-- `foundAgain` answers the second `find_by_id`, and `nested` the calls of `dispatch_once`
where it is the fallback. -/
structure QueuedAnswers (serde : Serde) where
  found : JobId → Except DomainError (Option (Persistence.Job serde))
  associatedWorker : JobId → Except DomainError (Option Worker)
  foundAgain : JobId → Except DomainError (Option (Persistence.Job serde))
  dispatch : DispatchAnswers
  request : RequestAnswers
  nested : DispatchAnswers

/-- `Job::assign_to_provider`. -/
def assignToProvider (view : JobView serde) (providerId : ProviderId) (executionId : String)
    (job : Persistence.Job serde) : Except DomainError (Persistence.Job serde) :=
  let assigned := { job with
    state := .assigned
    selectedProvider := some providerId
    executionContext := some (view.newContext job.id providerId executionId) }
  match job.state with
  | .pending | .assigned => .ok assigned
  | state => .error (.invalidStateTransition job.id state .assigned)

/-- `job_repository.update`. -/
def updateJob (answers : RequestAnswers) (job : Persistence.Job serde) (tables : JobTables) :
    Except DomainError Unit × JobTables :=
  match answers.updateFailure with
  | some error => (.error error, tables)
  | none => tables.save job

/-- The job that is saved before its worker is requested, and the scheduler that has
chosen its provider. -/
def selectedJob (view : JobView serde) (answers : RequestAnswers) (scheduler : SmartScheduler)
    (job : Persistence.Job serde) : Option (Persistence.Job serde) × SmartScheduler :=
  match answers.enabledProviders with
  | .error _ => (none, scheduler)
  | .ok providers =>
      if providers.isEmpty then (none, scheduler)
      else
        let selected := selectProviderForProvisioning text scheduler (view.job job) providers
        match selected.1 with
        | .error _ => (none, selected.2)
        | .ok providerId =>
            match answers.providerRegistered providerId with
            | .error _ | .ok false => (none, selected.2)
            | .ok true =>
                match assignToProvider view providerId answers.executionId job with
                | .error _ => (none, selected.2)
                | .ok assigned => (some (view.prefer text.uuids providerId assigned), selected.2)

def requestWorkerProvisioning (view : JobView serde) (now : Nat)
    (answers : QueuedAnswers serde) (job : Persistence.Job serde) (world : DispatchWorld) :
    DispatchWorld :=
  let selected := selectedJob text view answers.request world.dispatcher.scheduler job
  let world := { world with dispatcher := { world.dispatcher with scheduler := selected.2 } }
  match selected.1 with
  | none => world
  | some job =>
      let updated := updateJob answers.request job world.tables
      let world := { world with tables := updated.2 }
      match updated.1 with
      | .error _ => world
      | .ok () =>
          (triggerProvisioning text .requested now answers.dispatch.provisioning (view.job job)
            world).2

/-- `handle_job_queued` with the workers that are available. -/
def dispatchQueued (view : JobView serde) (now : Nat) (answers : QueuedAnswers serde)
    (jobId : JobId) (job : Persistence.Job serde) (workers : List Worker)
    (world : DispatchWorld) : Except Stop Unit × DispatchWorld :=
  let decided := makeSchedulingDecision text answers.dispatch (view.job job) workers
    world.dispatcher.scheduler
  let world := { world with dispatcher := { world.dispatcher with scheduler := decided.2 } }
  match decided.1 with
  | .error _ => (.ok (), world)
  | .ok (.assignToWorker _ workerId) =>
      match answers.foundAgain jobId with
      | .ok (some again) =>
          (.ok (), (dispatchJobToWorker answers.dispatch again.id workerId world).2)
      | .ok none | .error _ => (.error .panicked, world)
  | .ok (.provisionWorker _ _) =>
      (.ok (), requestWorkerProvisioning text view now answers job world)
  | .ok (.enqueue _ _) | .ok (.reject _ _) =>
      match answers.foundAgain jobId with
      | .ok (some _) => (.ok (), (dispatchOnce text view now answers.nested world).2)
      | .ok none | .error _ => (.error .panicked, world)

/-- If the associated worker cannot be looked up, there is none. -/
def handleJobQueued (view : JobView serde) (now : Nat) (answers : QueuedAnswers serde)
    (jobId : JobId) (world : DispatchWorld) : Except Stop Unit × DispatchWorld :=
  match answers.found jobId with
  | .error _ | .ok none => (.ok (), world)
  | .ok (some job) =>
      match (answers.associatedWorker jobId).toOption.join with
      | some worker =>
          match answers.foundAgain jobId with
          | .ok (some again) =>
              (.ok (), (dispatchJobToWorker answers.dispatch again.id worker.id world).2)
          | .ok none | .error _ => (.ok (), world)
      | none =>
          match queryHealthyWorkers answers.dispatch world.dispatcher with
          | .error _ => (.ok (), world)
          | .ok workers =>
              if workers.isEmpty then
                (.ok (), requestWorkerProvisioning text view now answers job world)
              else dispatchQueued text view now answers jobId job workers world

end

/-! ## A dispatcher without sagas and providers -/

def noPreferences : JobPreferences := ⟨none, ∅, ∅⟩

def plainView : JobView (plainSerde noPreferences) where
  image _ := none
  gpuRequired _ := false
  preferences chosen := chosen
  setPreferences chosen _ := chosen
  newContext _ _ _ := ()
  preferences_set _ _ := rfl

def plainDispatcher : JobDispatcher where
  scheduler := ⟨.default, 0, 0⟩
  recentlyProvisioned := ⟨[], List.nodup_nil⟩
  provisioningCooldown := .fromSecs 30
  heartbeatTimeout := .fromSecs 30
  hasExecutionSagaDispatcher := false
  hasProvisioningSagaCoordinator := false
  hasProvisioningService := false

def plainAnswers (available : Except DomainError (List Worker)) : DispatchAnswers where
  utcNow := 0
  dequeueFailure := none
  dequeueChoice := 0
  availableWorkers := available
  providersWithCapacity := .ok []
  queueLength := .ok 0
  provisioning :=
    { enabledProviders := .ok []
      defaultWorkerSpec := fun _ => none
      provision := fun _ _ _ => .error "no provider"
      tablesAfter := id }
  executionSaga := fun _ _ tables => (.error "no saga", tables)
  enqueueFailure := none
  foreignKeyViolation := "violates foreign key constraint"

end HodeiJobs.Scheduling
