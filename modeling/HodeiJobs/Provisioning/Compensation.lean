import HodeiJobs.Commands.OutboxRelay
import HodeiJobs.Provisioning.WorkerProvisioning

/-!
# Compensating the creation of a worker

A worker is known by its row in the registry and by nothing else: no provider lists what it
holds. The row is there only after the worker has registered itself, and is gone after the
first destruction, whatever the provider has answered.
-/

namespace HodeiJobs.Provisioning

open HodeiJobs.Commands (zerosText)
open HodeiJobs.Dispatch (ProviderId)
open HodeiJobs.Execution (JobId RustText WorkerId get_metadata_set_other get_metadata_set_self
  hasFlag textMetadata)
open HodeiJobs.Library
open HodeiJobs.Sagas (SagaContext SagaError SagaId SagaServices)
open HodeiJobs.Workers (ProviderType)

/-! ## One destruction -/

section Run

variable {Failure Result Value : Type} {infrastructure after : Infrastructure}

theorem get_bind_run (next : Infrastructure → ProvisioningM Failure Result) :
    (get >>= next : ProvisioningM Failure Result).run infrastructure =
      (next infrastructure).run infrastructure :=
  rfl

theorem run_bind_ok {first : ProvisioningM Failure Value}
    {next : Value → ProvisioningM Failure Result} {value : Value}
    (succeeds : first.run infrastructure = (.ok value, after)) :
    (first >>= next).run infrastructure = (next value).run after := by
  rw [ExceptT.run_bind]
  simp only [bind, StateT.bind, succeeds]

theorem run_bind_error {first : ProvisioningM Failure Value}
    {next : Value → ProvisioningM Failure Result} {error : Failure}
    (fails : first.run infrastructure = (.error error, after)) :
    (first >>= next).run infrastructure = (.error error, after) := by
  rw [ExceptT.run_bind]
  simp only [bind, StateT.bind, fails]
  rfl

theorem get_provider_run (providerId : ProviderId) (infrastructure : Infrastructure) :
    (getProvider providerId).run infrastructure =
      (if providerId ∈ infrastructure.providers then .ok ()
        else .error (.providerNotFound providerId), infrastructure) := by
  unfold getProvider
  rw [get_bind_run]
  split <;> rfl

end Run

section Destruction

variable (denotes : WorkerHandle → Resource → Bool)

/-- No call but that of the provider fails. -/
structure Proceeds (answers : DestroyAnswers) (worker : RegisteredWorker)
    (infrastructure : Infrastructure) : Prop where
  found : answers.find = none
  connected : worker.handle.providerId ∈ infrastructure.providers
  unregistered : answers.unregister = none

def destroyed (answers : DestroyAnswers) (worker : RegisteredWorker)
    (infrastructure : Infrastructure) : Infrastructure :=
  { infrastructure with
    resources := withoutDenoted denotes worker.handle answers.destroyed infrastructure.resources
    registry := infrastructure.registry.delete worker.id }

variable {denotes} {answers : DestroyAnswers} {workerId : WorkerId} {worker : RegisteredWorker}
  {infrastructure : Infrastructure}

variable (denotes answers) in
theorem destroy_not_registered (absent : infrastructure.registry.find workerId = none) :
    ∃ error, (destroyWorker denotes answers workerId).run infrastructure =
      (.error error, infrastructure) := by
  unfold destroyWorker
  cases answers.find with
  | some message => exact ⟨_, rfl⟩
  | none =>
      rw [get_bind_run, absent]
      exact ⟨_, rfl⟩

variable (denotes) in
theorem destroy_proceeds (found : infrastructure.registry.find workerId = some worker)
    (proceeds : Proceeds answers worker infrastructure) :
    (destroyWorker denotes answers workerId).run infrastructure =
      (.ok (), destroyed denotes answers worker infrastructure) := by
  have connected := get_provider_run worker.handle.providerId infrastructure
  rw [if_pos proceeds.connected] at connected
  unfold destroyWorker
  rw [proceeds.found, get_bind_run, found, run_bind_ok connected, proceeds.unregistered]
  rw [← Table.find_some_key found]
  rfl

variable (denotes) in
theorem destroy_stops (found : infrastructure.registry.find workerId = some worker)
    (stops : ¬Proceeds answers worker infrastructure) :
    ∃ error after, (destroyWorker denotes answers workerId).run infrastructure =
      (.error error, after) ∧ after.registry = infrastructure.registry := by
  have provider := get_provider_run worker.handle.providerId infrastructure
  unfold destroyWorker
  cases finds : answers.find with
  | some message => exact ⟨_, _, rfl, rfl⟩
  | none =>
      rw [get_bind_run, found]
      by_cases connected : worker.handle.providerId ∈ infrastructure.providers
      · rw [if_pos connected] at provider
        rw [run_bind_ok provider]
        cases unregisters : answers.unregister with
        | some message => exact ⟨_, _, rfl, rfl⟩
        | none => exact absurd ⟨finds, connected, unregisters⟩ stops
      · rw [if_neg connected] at provider
        exact ⟨_, _, run_bind_error provider, rfl⟩

/-- `DestroyWorkerHandler` only puts another error around that of the service. -/
theorem destroy_handler_run (result : Except DomainError Unit) (after : Infrastructure)
    (runs : (destroyWorker denotes answers workerId).run infrastructure = (result, after)) :
    (destroyWorkerHandler denotes answers workerId).run infrastructure =
      (result.mapError (.destructionFailed workerId), after) := by
  have mapped : (destroyWorkerHandler denotes answers workerId).run infrastructure =
      (fun pair : Except DomainError Unit × Infrastructure =>
        (pair.1.mapError (DestroyWorkerError.destructionFailed workerId), pair.2))
          ((destroyWorker denotes answers workerId).run infrastructure) := rfl
  rw [mapped, runs]

end Destruction

/-! ## One compensation -/

section Compensation

variable (text : RustText) (denotes : WorkerHandle → Resource → Bool)

/-- The worker that a context names, which is the one that the step has created. -/
def createdWorker (context : SagaContext) : Option WorkerId :=
  ((textMetadata context "worker_id").bind text.parse).map WorkerId.mk

def hasBus (services : Option SagaServices) : Bool :=
  services.any SagaServices.hasCommandBus

open CreateInfrastructureStep (compensate)

variable {text} {denotes} {answers : DestroyAnswers} {context : SagaContext}
  {workerId : WorkerId} {infrastructure after : Infrastructure}

variable (denotes answers infrastructure) in
theorem compensate_without_bus (named : createdWorker text context = some workerId)
    (noBus : hasBus context.services = false) :
    ∃ error, compensate text denotes answers context infrastructure =
      (.error error, infrastructure) := by
  unfold createdWorker at named
  unfold compensate
  cases recorded : textMetadata context "worker_id" with
  | none => simp [recorded] at named
  | some workerIdText =>
      cases provided : context.services with
      | none => exact ⟨_, rfl⟩
      | some services =>
          rw [provided] at noBus
          have noBus : services.hasCommandBus = false := noBus
          simp only [noBus]
          exact ⟨_, rfl⟩

/-- With a command bus, the compensation is the destruction. -/
theorem compensate_with_bus (named : createdWorker text context = some workerId)
    (bus : hasBus context.services = true) {result : Except DomainError Unit}
    (runs : (destroyWorker denotes answers workerId).run infrastructure = (result, after)) :
    ((compensate text denotes answers context infrastructure).1 = .ok () ↔ result = .ok ()) ∧
      (compensate text denotes answers context infrastructure).2 = after := by
  unfold createdWorker at named
  unfold compensate
  cases recorded : textMetadata context "worker_id" with
  | none => simp [recorded] at named
  | some workerIdText =>
      cases provided : context.services with
      | none =>
          rw [provided] at bus
          cases bus
      | some services =>
          rw [provided] at bus
          have bus : services.hasCommandBus = true := bus
          simp only [recorded, Option.bind_some, Option.map_eq_some_iff] at named
          obtain ⟨uuid, parsed, rfl⟩ := named
          have handled := destroy_handler_run result after runs
          simp only [bus, Bool.not_true, Bool.false_eq_true, if_false, parsed, bind, StateT.bind,
            handled]
          cases result with
          | error error => exact ⟨⟨nofun, nofun⟩, rfl⟩
          | ok value => exact ⟨⟨fun _ => rfl, fun _ => rfl⟩, rfl⟩

end Compensation

/-! ## One creation -/

section Creation

variable {text : RustText} {answers : ProvisionAnswers} {providerId : ProviderId}
  {spec : WorkerSpec} {jobId : JobId} {infrastructure after : Infrastructure}

/-- What a provider has made is held by it, and not in the registry. -/
structure Created (spec : WorkerSpec) (providerId : ProviderId)
    (before after : Infrastructure) : Prop where
  held : ∃ resource ∈ after.resources, resource.spec.workerId = spec.workerId ∧
    resource.providerId = providerId
  sameRegistry : after.registry = before.registry

theorem provision_created {result : WorkerProvisioningResult}
    (runs : (provisionWorker text answers providerId spec jobId).run infrastructure =
      (.ok result, after)) :
    result.workerId = spec.workerId ∧ Created spec providerId infrastructure after := by
  have provider := get_provider_run providerId infrastructure
  unfold provisionWorker at runs
  by_cases connected : providerId ∈ infrastructure.providers
  · rw [if_pos connected] at provider
    rw [run_bind_ok provider] at runs
    obtain ⟨health, otpToken, created⟩ := answers
    cases health with
    | error message => cases runs
    | ok status =>
        cases otpToken with
        | error error => cases status <;> cases runs
        | ok otpToken =>
            cases created with
            | error message => cases status <;> cases runs
            | ok resourceId =>
                cases status with
                | unhealthy | unknown => cases runs
                | healthy | degraded =>
                    cases runs
                    exact ⟨rfl, ⟨_, List.mem_append_right _ List.mem_cons_self, rfl, rfl⟩, rfl⟩
  · rw [if_neg connected] at provider
    rw [run_bind_error provider] at runs
    cases runs

theorem create_handler_run (result : Except DomainError WorkerProvisioningResult)
    (after : Infrastructure)
    (runs : (provisionWorker text answers providerId spec jobId).run infrastructure =
      (result, after)) :
    (createWorkerHandler text answers spec providerId jobId).run infrastructure =
      (result.mapError .provisioningFailed, after) := by
  have mapped : (createWorkerHandler text answers spec providerId jobId).run infrastructure =
      (fun pair : Except DomainError WorkerProvisioningResult × Infrastructure =>
        (pair.1.mapError CreateWorkerError.provisioningFailed, pair.2))
          ((provisionWorker text answers providerId spec jobId).run infrastructure) := rfl
  rw [mapped, runs]

theorem created_worker_mark_provisioned (text : RustText) (workerId : WorkerId)
    (providerId : ProviderId) (context : SagaContext) :
    createdWorker text
      (CreateInfrastructureStep.markProvisioned text workerId providerId context) =
        some workerId := by
  unfold createdWorker textMetadata CreateInfrastructureStep.markProvisioned
  rw [get_metadata_set_other _ _ (by decide), get_metadata_set_other _ _ (by decide),
    get_metadata_set_self]
  simp [text.parse_display]

/-- A step that succeeds on a context without a worker has created the one it names. -/
theorem execute_created {step : CreateInfrastructureStep} {drawn : JobId}
    {context : SagaContext} (unnamed : context.getMetadata "worker_id" = none)
    (notDone : hasFlag context "worker_provisioning_done" = false)
    (succeeds : (step.execute text drawn answers context infrastructure).1.1 = .ok ()) :
    createdWorker text (step.execute text drawn answers context infrastructure).1.2 =
        some step.spec.workerId ∧
      Created step.spec step.providerId infrastructure
        (step.execute text drawn answers context infrastructure).2 := by
  unfold CreateInfrastructureStep.execute at succeeds ⊢
  cases provided : context.services with
  | none => simp only [provided] at succeeds; cases succeeds
  | some services =>
      simp only [provided] at succeeds ⊢
      cases bus : services.hasCommandBus with
      | false => simp only [bus] at succeeds; cases succeeds
      | true =>
          simp only [bus, notDone, unnamed, Bool.not_true, Bool.false_eq_true, if_false,
            Option.isSome_none, bind, StateT.bind] at succeeds ⊢
          cases made : (provisionWorker text answers step.providerId step.spec
            (step.jobId.getD drawn)).run infrastructure with
          | mk result after =>
              rw [create_handler_run result after made] at succeeds ⊢
              cases result with
              | error error => cases succeeds
              | ok result =>
                  obtain ⟨same, created⟩ := provision_created made
                  refine ⟨?_, created⟩
                  rw [← same]
                  exact created_worker_mark_provisioned ..

end Creation

/-! ## Runs -/

/-- `destroyed` are the workers whose destruction has returned `Ok`. -/
structure CompensationState where
  infrastructure : Infrastructure
  contexts : SagaId → SagaContext
  destroyed : List WorkerId

inductive CompensationMove where
  | execute (sagaId : SagaId) (services : Option SagaServices) (step : CreateInfrastructureStep)
      (drawn : JobId) (answers : ProvisionAnswers)
  | compensate (sagaId : SagaId) (services : Option SagaServices) (answers : DestroyAnswers)
  | register (workerId : WorkerId) (name : String) (providerType : ProviderType)
      (providerId : ProviderId)
  /-- Resources that end by themselves. -/
  | vanish (gone : Resource → Bool)
  /-- A row that another component deletes. -/
  | unregister (workerId : WorkerId)
  | connect (providers : List ProviderId)

namespace CompensationRun

open CreateInfrastructureStep (execute compensate)

variable (text : RustText) (denotes : WorkerHandle → Resource → Bool)

def start (infrastructure : Infrastructure) (contexts : SagaId → SagaContext) :
    CompensationState :=
  ⟨infrastructure, contexts, []⟩

/-- The context of a saga, with the services that are injected into it. -/
def contextOf (state : CompensationState) (sagaId : SagaId) (services : Option SagaServices) :
    SagaContext :=
  { state.contexts sagaId with services := services }

def compensated (state : CompensationState) (sagaId : SagaId) (services : Option SagaServices)
    (answers : DestroyAnswers) : Except SagaError Unit × Infrastructure :=
  compensate text denotes answers (contextOf state sagaId services) state.infrastructure

def step (state : CompensationState) : CompensationMove → CompensationState
  | .execute sagaId services created drawn answers =>
      let made := execute text created drawn answers (contextOf state sagaId services)
        state.infrastructure
      { state with
        infrastructure := made.2
        contexts := fun other => if other = sagaId then made.1.2 else state.contexts other }
  | .compensate sagaId services answers =>
      let made := compensated text denotes state sagaId services answers
      { state with
        infrastructure := made.2
        destroyed :=
          match made.1, createdWorker text (state.contexts sagaId) with
          | .ok (), some workerId => workerId :: state.destroyed
          | _, _ => state.destroyed }
  | .register workerId name providerType providerId =>
      { state with
        infrastructure :=
          onWorkerRegistered workerId name providerType providerId state.infrastructure }
  | .vanish gone =>
      { state with
        infrastructure := { state.infrastructure with
          resources := state.infrastructure.resources.filter fun resource => !gone resource } }
  | .unregister workerId =>
      { state with
        infrastructure := { state.infrastructure with
          registry := state.infrastructure.registry.delete workerId } }
  | .connect providers =>
      { state with infrastructure := { state.infrastructure with providers := providers } }

/-- No provider holds anything of the worker. -/
def Released (infrastructure : Infrastructure) (workerId : WorkerId) : Prop :=
  ∀ resource ∈ infrastructure.resources, resource.spec.workerId ≠ workerId

/-- After `Ok` nothing is held any more, after `Err` the worker is listed, and a worker that
was destroyed once can be destroyed again. -/
def Compensates (state : CompensationState) : CompensationMove → Prop
  | .compensate sagaId services answers =>
      ∀ workerId, createdWorker text (state.contexts sagaId) = some workerId →
        let made := compensated text denotes state sagaId services answers
        (made.1 = .ok () → Released made.2 workerId) ∧
          (made.1 ≠ .ok () → made.2.registry.find workerId ≠ none) ∧
          (workerId ∈ state.destroyed → made.1 = .ok ())
  | _ => True

/-- All that is held for the worker is what its handle denotes, and the provider removes it. -/
def Removes (answers : DestroyAnswers) (worker : RegisteredWorker)
    (infrastructure : Infrastructure) (workerId : WorkerId) : Prop :=
  ∀ resource ∈ infrastructure.resources, resource.spec.workerId = workerId →
    answers.destroyed.removes = true ∧ resource.providerId = worker.handle.providerId ∧
      denotes worker.handle resource = true

/-- The worker has registered itself, and either its provider removes it, or it is the first
destruction that another call makes fail. -/
def Registered (state : CompensationState) : CompensationMove → Prop
  | .compensate sagaId services answers =>
      ∀ workerId, createdWorker text (state.contexts sagaId) = some workerId →
        ∃ worker, state.infrastructure.registry.find workerId = some worker ∧
          (hasBus services = true ∧ Proceeds answers worker state.infrastructure →
            Removes denotes answers worker state.infrastructure workerId) ∧
          (¬(hasBus services = true ∧ Proceeds answers worker state.infrastructure) →
            workerId ∉ state.destroyed)
  | _ => True

section Compensated

variable {text} {denotes} {state : CompensationState} {sagaId : SagaId}
  {services : Option SagaServices} {answers : DestroyAnswers} {workerId : WorkerId}
  {worker : RegisteredWorker}

/-- Without a command bus, or where the destruction fails, the compensation fails; what both
leave alone stays. -/
theorem compensated_fails (kept : Infrastructure → Prop)
    (named : createdWorker text (state.contexts sagaId) = some workerId)
    (same : kept state.infrastructure)
    (fails : hasBus services = true → ∃ error after,
      (destroyWorker denotes answers workerId).run state.infrastructure = (.error error, after) ∧
        kept after) :
    (compensated text denotes state sagaId services answers).1 ≠ .ok () ∧
      kept (compensated text denotes state sagaId services answers).2 := by
  unfold compensated
  have named : createdWorker text (contextOf state sagaId services) = some workerId := named
  cases bus : hasBus services with
  | false =>
      obtain ⟨error, refused⟩ := compensate_without_bus denotes answers state.infrastructure
        named bus
      rw [refused]
      exact ⟨nofun, same⟩
  | true =>
      obtain ⟨error, after, refused, keeps⟩ := fails bus
      obtain ⟨ok_iff, isAfter⟩ := compensate_with_bus named bus refused
      rw [isAfter]
      refine ⟨?_, keeps⟩
      intro ok
      cases ok_iff.mp ok

variable (denotes services answers) in
theorem compensated_not_registered
    (named : createdWorker text (state.contexts sagaId) = some workerId)
    (absent : state.infrastructure.registry.find workerId = none) :
    (compensated text denotes state sagaId services answers).1 ≠ .ok () ∧
      (compensated text denotes state sagaId services answers).2 = state.infrastructure := by
  apply compensated_fails (fun after => after = state.infrastructure) named rfl
  intro _
  obtain ⟨error, fails⟩ := destroy_not_registered denotes answers absent
  exact ⟨error, _, fails, rfl⟩

variable (denotes) in
theorem compensated_proceeds
    (named : createdWorker text (state.contexts sagaId) = some workerId)
    (found : state.infrastructure.registry.find workerId = some worker)
    (bus : hasBus services = true) (proceeds : Proceeds answers worker state.infrastructure) :
    (compensated text denotes state sagaId services answers).1 = .ok () ∧
      (compensated text denotes state sagaId services answers).2 =
        destroyed denotes answers worker state.infrastructure := by
  have named : createdWorker text (contextOf state sagaId services) = some workerId := named
  obtain ⟨ok_iff, after⟩ := compensate_with_bus named bus
    (destroy_proceeds denotes found proceeds)
  exact ⟨ok_iff.mpr rfl, after⟩

variable (denotes) in
theorem compensated_stops
    (named : createdWorker text (state.contexts sagaId) = some workerId)
    (found : state.infrastructure.registry.find workerId = some worker)
    (stops : ¬(hasBus services = true ∧ Proceeds answers worker state.infrastructure)) :
    (compensated text denotes state sagaId services answers).1 ≠ .ok () ∧
      (compensated text denotes state sagaId services answers).2.registry =
        state.infrastructure.registry := by
  apply compensated_fails (fun after => after.registry = state.infrastructure.registry) named rfl
  intro bus
  exact destroy_stops denotes found fun proceeds => stops ⟨bus, proceeds⟩

theorem released_destroyed_iff (infrastructure : Infrastructure) :
    Released (destroyed denotes answers worker infrastructure) workerId ↔
      Removes denotes answers worker infrastructure workerId := by
  unfold Released Removes destroyed withoutDenoted
  simp only [List.mem_filter, Bool.not_eq_true', Bool.and_eq_false_iff, decide_eq_false_iff_not,
    and_imp]
  apply forall₂_congr
  intro resource member
  cases answers.destroyed.removes <;> cases denotes worker.handle resource <;>
    simp [imp_not_comm]

end Compensated

/-- A compensation keeps its promise exactly if the worker has registered itself and its
provider removes it. -/
theorem compensates_iff_registered (state : CompensationState) (move : CompensationMove) :
    Compensates text denotes state move ↔ Registered text denotes state move := by
  cases move with
  | compensate sagaId services answers =>
      unfold Compensates Registered
      apply forall₂_congr
      intro workerId named
      cases found : state.infrastructure.registry.find workerId with
      | none =>
          obtain ⟨fails, same⟩ := compensated_not_registered denotes services answers named found
          simp [fails, same, found]
      | some worker =>
          simp only [Option.some.injEq, exists_eq_left']
          by_cases proceeds : hasBus services = true ∧ Proceeds answers worker state.infrastructure
          · obtain ⟨succeeds, after⟩ := compensated_proceeds denotes named found
              proceeds.1 proceeds.2
            simp [succeeds, after, proceeds, released_destroyed_iff]
          · obtain ⟨fails, same⟩ := compensated_stops denotes named found proceeds
            simp [fails, same, found, proceeds]
  | execute | register | vanish | unregister | connect => exact Iff.rfl

theorem compensations_release_iff_registered (infrastructure : Infrastructure)
    (contexts : SagaId → SagaContext) (moves : List CompensationMove) :
    EachMove (step text denotes) (Compensates text denotes) (start infrastructure contexts)
        moves ↔
      EachMove (step text denotes) (Registered text denotes) (start infrastructure contexts)
        moves :=
  each_move_congr (step text denotes) (compensates_iff_registered text denotes) moves
    (start infrastructure contexts)

/-! ## A compensation before the registration -/

def zerosRustText : RustText where
  toUuidText := zerosText
  strDebug value := "\"" ++ value ++ "\""
  rfc3339 _ := "1970-01-01T00:00:00+00:00"

def byResourceId (handle : WorkerHandle) (resource : Resource) : Bool :=
  resource.resourceId == handle.providerResourceId

def oneProvider : Infrastructure := ⟨[⟨9⟩], [], ⟨[], List.nodup_nil⟩⟩

def newContext (sagaId : SagaId) : SagaContext := .new sagaId .provisioning none none 0

def busServices : Option SagaServices := some ⟨true, true⟩

def createAndCompensate : List CompensationMove :=
  [.execute ⟨3⟩ busServices
      ⟨⟨9⟩, ⟨⟨2⟩, "hodei-jobs-worker:latest", "http://localhost:50051", ⟨[], List.nodup_nil⟩⟩,
        some ⟨1⟩⟩
      ⟨1⟩ ⟨.ok .healthy, .ok 5, .ok "container"⟩,
    .compensate ⟨3⟩ busServices ⟨none, .done, none⟩]

theorem early_compensation_leaks :
    ¬EachMove (step zerosRustText byResourceId) (Compensates zerosRustText byResourceId)
      (start oneProvider newContext) createAndCompensate := by
  intro each
  have promise := each.2.1 ⟨2⟩ rfl
  exact promise.2.1 nofun rfl

end CompensationRun

end HodeiJobs.Provisioning
