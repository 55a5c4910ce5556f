import HodeiJobs.Dispatch.Dispatchers
import HodeiJobs.WorkerAgent.Secrets
import HodeiJobs.Workers.ProviderType

/-!
# Creating and destroying workers

`DefaultWorkerProvisioningService`, the two command handlers in front of it, and the saga
step that calls them. What a worker does to register itself stands between the two.
-/

namespace HodeiJobs.Provisioning

open HodeiJobs.Dispatch (ProviderId)
open HodeiJobs.Execution (JobId RustText WorkerId hasFlag textMetadata)
open HodeiJobs.Library
open HodeiJobs.Sagas (SagaContext SagaError SagaServices Uuid)
open HodeiJobs.WorkerAgent.Secrets (StringMap)
open HodeiJobs.Workers (ProviderType)

/-! ## Infrastructure -/

structure WorkerSpec where
  workerId : WorkerId
  image : String
  serverAddress : String
  environment : StringMap

structure WorkerHandle where
  workerId : WorkerId
  providerResourceId : String
  providerType : ProviderType
  providerId : ProviderId

inductive HealthStatus where
  | healthy
  | degraded (reason : String)
  | unhealthy (reason : String)
  | unknown

/-- A container, pod or machine that a provider holds. -/
structure Resource where
  providerId : ProviderId
  resourceId : String
  spec : WorkerSpec

structure RegisteredWorker where
  handle : WorkerHandle

def RegisteredWorker.id (worker : RegisteredWorker) : WorkerId := worker.handle.workerId

/-- The providers that are connected, all that they hold, and the worker registry. -/
structure Infrastructure where
  providers : List ProviderId
  resources : List Resource
  registry : Table RegisteredWorker.id

/-! ## Errors -/

inductive DomainError where
  | providerNotFound (providerId : ProviderId)
  | providerUnhealthy (providerId : ProviderId)
  | workerNotFound (workerId : WorkerId)
  | workerProvisioningFailed (message : String)
  | infrastructureError (message : String)

inductive CreateWorkerError where
  | provisioningFailed (source : DomainError)

inductive DestroyWorkerError where
  | destructionFailed (workerId : WorkerId) (source : DomainError)

section Texts

variable (text : RustText)

def debugProviderId (id : ProviderId) : String := "ProviderId(" ++ text.display id.uuid ++ ")"

def debugDomainError : DomainError → String
  | .providerNotFound providerId =>
      RustText.debugStruct "ProviderNotFound" [("provider_id", debugProviderId text providerId)]
  | .providerUnhealthy providerId =>
      RustText.debugStruct "ProviderUnhealthy" [("provider_id", debugProviderId text providerId)]
  | .workerNotFound workerId =>
      RustText.debugStruct "WorkerNotFound" [("worker_id", text.debugWorkerId workerId)]
  | .workerProvisioningFailed message =>
      RustText.debugStruct "WorkerProvisioningFailed" [("message", text.strDebug message)]
  | .infrastructureError message =>
      RustText.debugStruct "InfrastructureError" [("message", text.strDebug message)]

def debugCreateWorkerError : CreateWorkerError → String
  | .provisioningFailed source =>
      RustText.debugStruct "ProvisioningFailed" [("source", debugDomainError text source)]

def debugDestroyWorkerError : DestroyWorkerError → String
  | .destructionFailed workerId source =>
      RustText.debugStruct "DestructionFailed" [("worker_id", text.debugWorkerId workerId),
        ("source", debugDomainError text source)]

end Texts

/-! ## The service -/

abbrev ProvisioningM (Failure : Type) := ExceptT Failure (StateM Infrastructure)

def getProvider (providerId : ProviderId) : ProvisioningM DomainError Unit := do
  let infrastructure ← get
  if providerId ∈ infrastructure.providers then return ()
  else throw (.providerNotFound providerId)

structure WorkerProvisioningResult where
  workerId : WorkerId
  providerId : ProviderId
  jobId : JobId

/-- What the health check, the token store and the provider answer. -/
structure ProvisionAnswers where
  health : Except String HealthStatus
  otpToken : Except DomainError Uuid
  created : Except String String

/-- The spec with the token and the job in its environment. -/
def withEnvironment (text : RustText) (spec : WorkerSpec) (otpToken : Uuid) (jobId : JobId) :
    WorkerSpec :=
  { spec with
    environment := (spec.environment.insert "HODEI_OTP_TOKEN" (text.display otpToken)).insert
      "HODEI_JOB_ID" (text.display jobId.uuid) }

/-- The worker is not registered here. -/
def provisionWorker (text : RustText) (answers : ProvisionAnswers) (providerId : ProviderId)
    (spec : WorkerSpec) (jobId : JobId) :
    ProvisioningM DomainError WorkerProvisioningResult := do
  getProvider providerId
  match answers.health with
  | .error message =>
      throw (.workerProvisioningFailed ("Provider health check failed: " ++ message))
  | .ok (.unhealthy _) | .ok .unknown => throw (.providerUnhealthy providerId)
  | .ok .healthy | .ok (.degraded _) => pure ()
  let otpToken ← liftExcept answers.otpToken
  match answers.created with
  | .error message => throw (.workerProvisioningFailed message)
  | .ok resourceId =>
      modify fun infrastructure =>
        { infrastructure with
          resources := infrastructure.resources ++
            [⟨providerId, resourceId, withEnvironment text spec otpToken jobId⟩] }
  return ⟨spec.workerId, providerId, jobId⟩

/-- What a provider answers to `destroy_worker`. A failure may come after the resource is
gone. -/
inductive ProviderAnswer where
  | done
  | failed (message : String) (removed : Bool)

def ProviderAnswer.removes : ProviderAnswer → Bool
  | .done => true
  | .failed _ removed => removed

/-- The answers of the registry are the messages of its errors, if it has any. -/
structure DestroyAnswers where
  find : Option String
  destroyed : ProviderAnswer
  unregister : Option String

section Destroy

-- Which resource of its provider a handle denotes: by its id, its name or its worker.
variable (denotes : WorkerHandle → Resource → Bool)

/-- What the providers hold after the answer. -/
def withoutDenoted (handle : WorkerHandle) (answer : ProviderAnswer)
    (resources : List Resource) : List Resource :=
  resources.filter fun resource =>
    !(answer.removes && decide (resource.providerId = handle.providerId) &&
      denotes handle resource)

/-- A failure of the provider is only logged. -/
def destroyWorker (answers : DestroyAnswers) (workerId : WorkerId) :
    ProvisioningM DomainError Unit := do
  if let some message := answers.find then throw (.infrastructureError message)
  let infrastructure ← get
  match infrastructure.registry.find workerId with
  | none => throw (.workerNotFound workerId)
  | some worker => do
      getProvider worker.handle.providerId
      modify fun infrastructure =>
        { infrastructure with
          resources :=
            withoutDenoted denotes worker.handle answers.destroyed infrastructure.resources }
      if let some message := answers.unregister then throw (.infrastructureError message)
      modify fun infrastructure =>
        { infrastructure with registry := infrastructure.registry.delete workerId }

end Destroy

/-! ## The handlers -/

def createWorkerHandler (text : RustText) (answers : ProvisionAnswers) (spec : WorkerSpec)
    (providerId : ProviderId) (jobId : JobId) :
    ProvisioningM CreateWorkerError WorkerProvisioningResult :=
  ExceptT.adapt .provisioningFailed (provisionWorker text answers providerId spec jobId)

def destroyWorkerHandler (denotes : WorkerHandle → Resource → Bool) (answers : DestroyAnswers)
    (workerId : WorkerId) : ProvisioningM DestroyWorkerError Unit :=
  ExceptT.adapt (.destructionFailed workerId) (destroyWorker denotes answers workerId)

/-- The text of a command whose handler has failed. -/
def dispatchFailed (command debug : String) : String :=
  "Failed to dispatch " ++ command ++
    ": Handler error for hodei_server_domain::saga::commands::provisioning::" ++ command ++
      ": " ++ debug

/-! ## The step -/

structure CreateInfrastructureStep where
  providerId : ProviderId
  spec : WorkerSpec
  jobId : Option JobId

namespace CreateInfrastructureStep

def name : String := "CreateInfrastructure"

def markProvisioned (text : RustText) (workerId : WorkerId) (providerId : ProviderId)
    (context : SagaContext) : SagaContext :=
  let context := context.setMetadata "worker_id" (.string (text.display workerId.uuid))
  let context := context.setMetadata "worker_provider_id" (.string (text.display providerId.uuid))
  context.setMetadata "worker_provisioning_done" (.bool true)

/-- `drawn` is what `JobId::default` draws. The context keeps the job of a step that fails. -/
def execute (text : RustText) (step : CreateInfrastructureStep) (drawn : JobId)
    (answers : ProvisionAnswers) (context : SagaContext) :
    StateM Infrastructure (Except SagaError Unit × SagaContext) :=
  match context.services with
  | none =>
      return (.error (.persistenceError "SagaServices not available in context"), context)
  | some services => do
      if !services.hasCommandBus then
        return (.error (.persistenceError "CommandBus not available in SagaServices"), context)
      if hasFlag context "worker_provisioning_done" then return (.ok (), context)
      if (context.getMetadata "worker_id").isSome then
        return (.ok (), context)
      let jobId := step.jobId.getD drawn
      let context := context.setMetadata "worker_job_id" (.string (text.display jobId.uuid))
      match ← (createWorkerHandler text answers step.spec step.providerId jobId).run with
      | .error error =>
          return (.error (.stepFailed name
            (dispatchFailed "CreateWorkerCommand" (debugCreateWorkerError text error)) true),
            context)
      | .ok result =>
          return (.ok (), markProvisioned text result.workerId step.providerId context)

/-- Without a worker in the context there is nothing to compensate. -/
def compensate (text : RustText) (denotes : WorkerHandle → Resource → Bool)
    (answers : DestroyAnswers) (context : SagaContext) :
    StateM Infrastructure (Except SagaError Unit) :=
  match textMetadata context "worker_id" with
  | none => return .ok ()
  | some workerIdText =>
      match context.services with
      | none => return .error (.compensationFailed name "SagaServices not available")
      | some services => do
          if !services.hasCommandBus then
            return .error (.compensationFailed name "CommandBus not available in SagaServices")
          match text.parse workerIdText with
          | none =>
              return .error (.compensationFailed name
                ("Invalid worker_id in context: " ++ workerIdText))
          | some uuid =>
              match ← (destroyWorkerHandler denotes answers ⟨uuid⟩).run with
              | .error error =>
                  return .error (.compensationFailed name
                    (dispatchFailed "DestroyWorkerCommand" (debugDestroyWorkerError text error)))
              | .ok () => return .ok ()

end CreateInfrastructureStep

/-! ## Registration -/

/-- `on_worker_registered`: the handle of a new row has the name that the worker gives
itself, and the provider that is recovered from the job or else drawn. -/
def onWorkerRegistered (workerId : WorkerId) (name : String) (providerType : ProviderType)
    (providerId : ProviderId) (infrastructure : Infrastructure) : Infrastructure :=
  match infrastructure.registry.find workerId with
  | some _ => infrastructure
  | none =>
      { infrastructure with
        registry := infrastructure.registry.upsert ⟨⟨workerId, name, providerType, providerId⟩⟩ }

end HodeiJobs.Provisioning
