import HodeiJobs.Scheduling.SmartScheduler

/-!
# Assignment to a worker

Whatever the strategy, the chosen worker is one of the eligible ones. Those carry what the
job requires only if the requirements could be built: the scheduler drops the error.
-/

namespace HodeiJobs.Scheduling

open HodeiJobs.Library
open HodeiJobs.Workers (ProviderType Worker WorkerSpec canAcceptJobs)
open HodeiJobs.Execution (JobId WorkerId)

/-! ## The claim and the condition -/

/-- The worker is free, carries what the job requires and is of a preferred type. -/
structure Fits (tables : TextTables) (job : Job) (worker : Worker) : Prop where
  accepts : canAcceptJobs worker.state = true
  labels : WorkerRequirements.Carries job.preferences.requiredLabels worker.spec.labels
  annotations :
    WorkerRequirements.Carries job.preferences.requiredAnnotations worker.spec.annotations
  preferred : ∀ preferred preference, job.preferences.preferredProvider = some preferred →
    ProviderPreference.new tables preferred = .ok preference →
      preference.matchesProviderType worker.handle.providerType = true

def AssignsFitting (tables : TextTables) (scheduler : SmartScheduler)
    (context : SchedulingContext) : Prop :=
  ∀ jobId workerId, (scheduler.schedule tables context).1 = .assignToWorker jobId workerId →
    ∃ worker ∈ context.availableWorkers, worker.id = workerId ∧ Fits tables context.job worker

/-- Workers of this type are considered for the job. -/
def Admits (tables : TextTables) (job : Job) (providerType : ProviderType) : Prop :=
  ∀ preferred, job.preferences.preferredProvider = some preferred →
    ∃ preference, ProviderPreference.new tables preferred = .ok preference ∧
      preference.matchesProviderType providerType = true

namespace SmartScheduler

variable {tables : TextTables} {job : Job} {workers : List Worker} {worker : Worker}

/-! ## Eligible workers -/

theorem mem_preferred_iff : worker ∈ preferredWorkers tables job workers ↔
    worker ∈ workers ∧ Admits tables job worker.handle.providerType ∧
      canAcceptJobs worker.state = true := by
  unfold preferredWorkers Admits
  cases job.preferences.preferredProvider with
  | none => simp
  | some preferred =>
      cases built : ProviderPreference.new tables preferred with
      | error problem => simp [built, Except.toOption]
      | ok preference => simp [built, Except.toOption]

theorem mem_eligible_iff : worker ∈ eligibleWorkers tables job workers ↔
    worker ∈ preferredWorkers tables job workers ∧
      (WorkerRequirements.Valid tables.characters job.preferences.requiredLabels
          job.preferences.requiredAnnotations →
        WorkerRequirements.Carries job.preferences.requiredLabels worker.spec.labels ∧
          WorkerRequirements.Carries job.preferences.requiredAnnotations
            worker.spec.annotations) := by
  unfold eligibleWorkers
  rw [← WorkerRequirements.new_iff]
  cases built : WorkerRequirements.new tables.characters job.preferences.requiredLabels
      job.preferences.requiredAnnotations with
  | error problem => simp [Except.toOption]
  | ok requirements =>
      have same := WorkerRequirements.new_ok tables.characters built
      have labels : requirements.requiredLabels = job.preferences.requiredLabels := by rw [same]
      have annotations :
          requirements.requiredAnnotations = job.preferences.requiredAnnotations := by rw [same]
      cases asked : requirements.hasRequirements with
      | true =>
          have matched := WorkerRequirements.matches_worker_iff requirements worker
          rw [labels, annotations] at matched
          simp [Except.toOption, asked, matched]
      | false =>
          have carries := WorkerRequirements.carries_of_no_requirements asked worker
          rw [labels, annotations] at carries
          simp [Except.toOption, asked, carries]

/-! ## The strategies -/

theorem mem_of_find {test : Worker → Bool} {workerId : WorkerId}
    (found : (workers.find? test).map Worker.id = some workerId) :
    ∃ worker ∈ workers, worker.id = workerId := by
  obtain ⟨worker, first, same⟩ := Option.map_eq_some_iff.mp found
  exact ⟨worker, List.mem_of_find?_eq_some first, same⟩

/-- Every strategy takes one of the eligible workers. -/
theorem mem_of_selected {scheduler : SmartScheduler} {workerId : WorkerId}
    (selected : (scheduler.selectWorker tables job workers).1 = some workerId) :
    ∃ worker ∈ eligibleWorkers tables job workers, worker.id = workerId := by
  simp only [selectWorker] at selected
  split_ifs at selected
  · have leastLoaded : LeastLoadedWorkerSelector.selectWorker (eligibleWorkers tables job workers) =
        some workerId → ∃ worker ∈ eligibleWorkers tables job workers, worker.id = workerId := by
      intro least
      obtain ⟨worker, minimum, same⟩ := Option.map_eq_some_iff.mp least
      exact ⟨worker, List.mem_of_mem_filter (List.minOn?_mem minimum), same⟩
    cases strategy : scheduler.config.workerStrategy with
    | firstAvailable =>
        rw [strategy] at selected
        exact mem_of_find selected
    | leastLoaded | mostCapacity =>
        rw [strategy] at selected
        exact leastLoaded selected
    | roundRobin =>
        rw [strategy] at selected
        obtain ⟨worker, indexed, same⟩ := Option.map_eq_some_iff.mp selected
        exact ⟨worker, List.mem_of_getElem? indexed, same⟩
    | affinity =>
        rw [strategy] at selected
        obtain ⟨worker, either, same⟩ := Option.map_eq_some_iff.mp selected
        rcases Option.or_eq_some_iff.mp either with alike | ⟨_, first⟩
        · exact ⟨worker, List.mem_of_find?_eq_some alike, same⟩
        · exact ⟨worker, List.mem_of_find?_eq_some first, same⟩

theorem find_accepting (accept : ∀ worker ∈ workers, canAcceptJobs worker.state = true)
    (some : workers ≠ []) : (workers.find? fun worker => canAcceptJobs worker.state).isSome := by
  rw [List.find?_isSome]
  obtain ⟨first, rest, same⟩ := List.exists_cons_of_ne_nil some
  exact ⟨first, by simp [same], accept first (by simp [same])⟩

/-- A strategy finds somebody as soon as somebody is eligible. -/
theorem selected_of_eligible (scheduler : SmartScheduler)
    (eligible : eligibleWorkers tables job workers ≠ []) :
    (scheduler.selectWorker tables job workers).1.isSome := by
  have accept : ∀ worker ∈ eligibleWorkers tables job workers,
      canAcceptJobs worker.state = true := fun worker member =>
    (mem_preferred_iff.mp (mem_eligible_iff.mp member).1).2.2
  have offered : workers ≠ [] := by
    intro nobody
    apply eligible
    apply List.eq_nil_iff_forall_not_mem.mpr
    intro worker member
    have listed := (mem_preferred_iff.mp (mem_eligible_iff.mp member).1).1
    rw [nobody] at listed
    cases listed
  have first := find_accepting accept eligible
  have least : (LeastLoadedWorkerSelector.selectWorker
      (eligibleWorkers tables job workers)).isSome := by
    unfold LeastLoadedWorkerSelector.selectWorker
    rw [Option.isSome_map, List.filter_eq_self.mpr accept, List.isSome_minOn?_iff]
    exact eligible
  simp only [selectWorker]
  rw [if_neg (by simpa using offered), if_neg (by simpa using eligible)]
  cases scheduler.config.workerStrategy with
  | firstAvailable => exact (Option.isSome_map ..).trans first
  | leastLoaded | mostCapacity => exact least
  | roundRobin =>
      have some := List.length_pos_of_ne_nil eligible
      have inside := Nat.mod_lt scheduler.roundRobinWorkerIndex some
      simp [List.getElem?_eq_getElem inside]
  | affinity =>
      show (selectByAffinity job _).isSome = true
      unfold selectByAffinity
      rw [Option.isSome_map, Option.isSome_or, first, Bool.or_true]

/-! ## Decisions -/

theorem offered_subset (member : worker ∈ offeredWorkers tables job workers) :
    worker ∈ workers := by
  unfold offeredWorkers at member
  split at member
  · exact List.mem_of_mem_filter member
  · exact member

theorem offered_of_admits (listed : worker ∈ workers)
    (admits : Admits tables job worker.handle.providerType) :
    worker ∈ offeredWorkers tables job workers := by
  unfold offeredWorkers
  cases named : job.preferences.preferredProvider with
  | none => exact listed
  | some preferred =>
      obtain ⟨preference, built, matched⟩ := admits preferred named
      simp [built, Except.toOption, matched, listed]

/-- Within the queue limit, `schedule` assigns exactly the worker that is selected. -/
theorem schedule_assigned_iff (scheduler : SmartScheduler) (context : SchedulingContext)
    (jobId : JobId) (workerId : WorkerId) :
    (scheduler.schedule tables context).1 = .assignToWorker jobId workerId ↔
      context.pendingJobsCount ≤ scheduler.config.maxQueueDepth ∧ jobId = context.job.id ∧
        (scheduler.selectWorker tables context.job
          (offeredWorkers tables context.job context.availableWorkers)).1 = some workerId := by
  have nobody : (if context.availableWorkers.isEmpty then (none, scheduler)
      else scheduler.selectWorker tables context.job
        (offeredWorkers tables context.job context.availableWorkers)).1 =
      (scheduler.selectWorker tables context.job
        (offeredWorkers tables context.job context.availableWorkers)).1 := by
    split_ifs with empty
    · have offered : offeredWorkers tables context.job context.availableWorkers = [] := by
        apply List.eq_nil_iff_forall_not_mem.mpr
        intro worker member
        have listed := offered_subset member
        rw [List.isEmpty_iff.mp empty] at listed
        cases listed
      simp [offered, selectWorker]
    · rfl
  simp only [schedule]
  by_cases full : scheduler.config.maxQueueDepth < context.pendingJobsCount
  · simp [full, not_le.mpr full]
  · rw [if_neg full, nobody, and_iff_right (not_lt.mp full)]
    cases (scheduler.selectWorker tables context.job
        (offeredWorkers tables context.job context.availableWorkers)).1 with
    | some chosen => simp [eq_comm]
    | none =>
        dsimp only
        split
        · simp
        · split_ifs <;> simp

theorem fits_of_assigned {scheduler : SmartScheduler} {context : SchedulingContext}
    (valid : WorkerRequirements.Valid tables.characters
      context.job.preferences.requiredLabels context.job.preferences.requiredAnnotations) :
    AssignsFitting tables scheduler context := by
  intro jobId workerId assigned
  have selected := ((schedule_assigned_iff scheduler context jobId workerId).mp assigned).2.2
  obtain ⟨worker, member, same⟩ := mem_of_selected selected
  obtain ⟨preferred, carries⟩ := mem_eligible_iff.mp member
  obtain ⟨offered, admits, accepts⟩ := mem_preferred_iff.mp preferred
  refine ⟨worker, offered_subset offered, same, accepts, (carries valid).1, (carries valid).2, ?_⟩
  intro named preference stated built
  obtain ⟨known, alsoBuilt, matched⟩ := admits named stated
  rw [built] at alsoBuilt
  cases alsoBuilt
  exact matched

/-- A job that admits no type of provider is never assigned to a worker. -/
theorem unassigned_of_admits_nothing {scheduler : SmartScheduler} {context : SchedulingContext}
    (nothing : ∀ providerType, ¬Admits tables context.job providerType) :
    AssignsFitting tables scheduler context := by
  intro jobId workerId assigned
  have selected := ((schedule_assigned_iff scheduler context jobId workerId).mp assigned).2.2
  obtain ⟨worker, member, same⟩ := mem_of_selected selected
  exact absurd (mem_preferred_iff.mp (mem_eligible_iff.mp member).1).2.1 (nothing _)

/-- A ready worker without labels and annotations. -/
def plainWorker (providerType : ProviderType) : Worker :=
  { Worker.new ⟨⟨0⟩, providerType⟩ WorkerSpec.new 0 with state := .ready }

/-- The invalid requirements are dropped, so a worker that carries nothing is assigned. -/
theorem assigned_of_invalid (scheduler : SmartScheduler) (job : Job) (providerType : ProviderType)
    (admits : Admits tables job providerType)
    (invalid : ¬WorkerRequirements.Valid tables.characters
      job.preferences.requiredLabels job.preferences.requiredAnnotations) :
    (scheduler.schedule tables ⟨job, [plainWorker providerType], [], 0, 0⟩).1 =
      .assignToWorker job.id ⟨0⟩ := by
  rw [schedule_assigned_iff]
  refine ⟨Nat.zero_le _, rfl, ?_⟩
  have offered : plainWorker providerType ∈
      offeredWorkers tables job [plainWorker providerType] :=
    offered_of_admits (List.mem_singleton_self _) admits
  have eligible := mem_eligible_iff.mpr
    ⟨mem_preferred_iff.mpr ⟨offered, admits, rfl⟩, fun valid => absurd valid invalid⟩
  have chosen := selected_of_eligible scheduler (List.ne_nil_of_mem eligible)
  obtain ⟨workerId, selected⟩ := Option.isSome_iff_exists.mp chosen
  obtain ⟨worker, member, same⟩ := mem_of_selected selected
  have listed := offered_subset (mem_preferred_iff.mp (mem_eligible_iff.mp member).1).1
  rw [List.mem_singleton.mp listed] at same
  rw [selected, ← same]
  rfl

/-- Every assignment fits exactly for the jobs whose required labels and annotations
are valid, and for those that admit no type of provider. -/
theorem assigns_fitting_iff (tables : TextTables) (config : SchedulerConfig) (job : Job) :
    (∀ workerIndex providerIndex context, context.job = job →
        AssignsFitting tables ⟨config, workerIndex, providerIndex⟩ context) ↔
      WorkerRequirements.Valid tables.characters job.preferences.requiredLabels
          job.preferences.requiredAnnotations ∨
        ∀ providerType, ¬Admits tables job providerType := by
  constructor
  · intro fitting
    by_contra neither
    obtain ⟨invalid, some⟩ := not_or.mp neither
    obtain ⟨providerType, admits⟩ := not_forall_not.mp some
    have assigned := assigned_of_invalid ⟨config, 0, 0⟩ job providerType admits invalid
    obtain ⟨worker, listed, same, fits⟩ := fitting 0 0 _ rfl _ _ assigned
    rw [List.mem_singleton.mp listed] at fits
    exact WorkerRequirements.asked_of_invalid tables.characters invalid
      ⟨fits.labels, fits.annotations⟩
  · intro condition workerIndex providerIndex context same
    subst same
    rcases condition with valid | nothing
    · exact fits_of_assigned valid
    · exact unassigned_of_admits_nothing nothing

/-- The blank in the required value makes the requirement be ignored. -/
theorem blank_label_is_ignored :
    ¬AssignsFitting asciiTables ⟨.default, 0, 0⟩
      ⟨⟨⟨7⟩, none, false, none, AList.singleton "team" "data science", ∅⟩,
        [plainWorker .docker], [], 0, 0⟩ := by
  intro fitting
  obtain ⟨worker, listed, same, fits⟩ := fitting ⟨7⟩ ⟨0⟩ rfl
  rw [List.mem_singleton.mp listed] at fits
  cases fits.labels "team" "data science" rfl

end SmartScheduler

end HodeiJobs.Scheduling
