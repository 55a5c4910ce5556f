import HodeiJobs.Library.Ranking
import HodeiJobs.Providers.ProviderConfig
import Mathlib.Algebra.Order.Field.Rat

/-!
# The best provider for a job

`select_best_provider` and its eight checks. The load of a provider is an exact fraction, and the
number type of CPU cores is any with a comparison.
-/

namespace HodeiJobs.Providers

open HodeiJobs.Library
open HodeiJobs.Sagas (Duration)
open HodeiJobs.WorkerAgent.Secrets (StringMap)

/-! ## Capabilities and requirements -/

inductive Architecture where
  | amd64
  | arm64
  | arm
  deriving DecidableEq

structure ResourceLimits (Cores : Type) where
  maxCpuCores : Cores
  maxMemoryBytes : Int64

structure ProviderCapabilities (Cores : Type) where
  maxResources : ResourceLimits Cores
  gpuSupport : Bool
  architectures : List Architecture
  maxExecutionTime : Option Duration

structure ResourceRequirements (Cores : Type) where
  cpuCores : Cores
  memoryBytes : Int64
  gpuCount : UInt32

structure JobRequirements (Cores : Type) where
  resources : ResourceRequirements Cores
  architecture : Option Architecture
  requiredLabels : StringMap
  allowedRegions : List String
  timeout : Option Duration
  requiredAnnotations : StringMap

/-- The types of configurations with the capabilities of the provider API. -/
abbrev ProviderTypes.withCapabilities (types : ProviderTypes) {Cores : Type}
    (default : ProviderCapabilities Cores) : ProviderTypes :=
  { types with
    Capabilities := ProviderCapabilities Cores
    defaultCapabilities := default }

variable {types : ProviderTypes} {Cores : Type} {default : ProviderCapabilities Cores}

/-! ## The checks -/

section

variable [LE Cores] [DecidableLE Cores]
  (provider : ProviderConfig (types.withCapabilities default))
  (requirements : JobRequirements Cores)

def validateCpuRequirements : Bool :=
  requirements.resources.cpuCores ≤ provider.capabilities.maxResources.maxCpuCores

def validateMemoryRequirements : Bool :=
  requirements.resources.memoryBytes ≤ provider.capabilities.maxResources.maxMemoryBytes

def validateGpuRequirements : Bool :=
  if 0 < requirements.resources.gpuCount ∧ provider.capabilities.gpuSupport = false then false
  else true

def validateTimeoutRequirements : Bool :=
  match requirements.timeout, provider.capabilities.maxExecutionTime with
  | some requiredTimeout, some maxTimeout =>
      if maxTimeout.nanos < requiredTimeout.nanos then false else true
  | _, _ => true

def validateArchitectureRequirements : Bool :=
  match requirements.architecture with
  | some requiredArch => provider.capabilities.architectures.contains requiredArch
  | none => true

/-- A provider without regions takes jobs of any region. -/
def validateRegionRequirements : Bool :=
  if !requirements.allowedRegions.isEmpty then
    if !provider.allowedRegions.isEmpty then
      requirements.allowedRegions.any provider.allowedRegions.contains
    else true
  else true

def validateLabelsRequirements : Bool :=
  requirements.requiredLabels.rows.all fun (key, value) =>
    provider.requiredLabels.get key = some value

def validateAnnotationsRequirements : Bool :=
  requirements.requiredAnnotations.rows.all fun (key, value) =>
    provider.annotations.get key = some value

def canFulfillRequirements : Bool :=
  if validateCpuRequirements provider requirements = false then false
  else if validateMemoryRequirements provider requirements = false then false
  else if validateGpuRequirements provider requirements = false then false
  else if validateTimeoutRequirements provider requirements = false then false
  else if validateArchitectureRequirements provider requirements = false then false
  else if validateRegionRequirements provider requirements = false then false
  else if validateLabelsRequirements provider requirements = false then false
  else if validateAnnotationsRequirements provider requirements = false then false
  else true

end

/-! ## The selection -/

namespace ProviderConfig

def load (provider : ProviderConfig types) : ℚ :=
  provider.activeWorkers.toNat / (max provider.maxWorkers.toNat 1 : Nat)

/-- The higher priority first, and of one priority the lower load. -/
def compareRank (first second : ProviderConfig types) : Ordering :=
  (compare second.priority first.priority).then (compare first.load second.load)

end ProviderConfig

def selectBestProvider [LE Cores] [DecidableLE Cores]
    (withCapacity : Except DomainError
      (List (ProviderConfig (types.withCapabilities default))))
    (requirements : JobRequirements Cores) :
    Except DomainError (Option (ProviderConfig (types.withCapabilities default))) := do
  let available ← withCapacity
  let candidates := available.filter fun provider => canFulfillRequirements provider requirements
  if candidates.isEmpty then return none
  return (sortBy ProviderConfig.compareRank candidates).head?

/-! ## What is asked of it -/

/-- The provider satisfies all requirements. -/
structure Fulfills [LE Cores] (requirements : JobRequirements Cores)
    (provider : ProviderConfig (types.withCapabilities default)) : Prop where
  cpu : requirements.resources.cpuCores ≤ provider.capabilities.maxResources.maxCpuCores
  memory : requirements.resources.memoryBytes ≤ provider.capabilities.maxResources.maxMemoryBytes
  gpu : 0 < requirements.resources.gpuCount → provider.capabilities.gpuSupport = true
  timeout : ∀ required allowed, requirements.timeout = some required →
    provider.capabilities.maxExecutionTime = some allowed → required.nanos ≤ allowed.nanos
  architecture : ∀ required, requirements.architecture = some required →
    required ∈ provider.capabilities.architectures
  region : requirements.allowedRegions = [] ∨ provider.allowedRegions = [] ∨
    ∃ region ∈ requirements.allowedRegions, region ∈ provider.allowedRegions
  labels : ∀ key value, requirements.requiredLabels.get key = some value →
    provider.requiredLabels.get key = some value
  annotations : ∀ key value, requirements.requiredAnnotations.get key = some value →
    provider.annotations.get key = some value

/-- Of the providers that satisfy the requirements the one of the highest priority, with the lowest
load among those of that priority. -/
structure IsBest [LE Cores] (requirements : JobRequirements Cores)
    (providers : List (ProviderConfig (types.withCapabilities default)))
    (best : ProviderConfig (types.withCapabilities default)) : Prop where
  listed : best ∈ providers
  fulfills : Fulfills requirements best
  priority : ∀ other ∈ providers, Fulfills requirements other → other.priority ≤ best.priority
  load : ∀ other ∈ providers, Fulfills requirements other → other.priority = best.priority →
    best.load ≤ other.load

/-! ## The checks, one by one -/

theorem all_included_iff (required map : StringMap) :
    (required.rows.all fun (key, value) => map.get key = some value) = true ↔
      ∀ key value, required.get key = some value → map.get key = some value := by
  rw [List.all_eq_true]
  constructor
  · intro all key value isRequired
    obtain ⟨entry, found, same⟩ := Option.map_eq_some_iff.mp isRequired
    have isKey := Table.find_some_key found
    have included := all entry (Table.mem_rows_iff.mpr (isKey ▸ found))
    rw [← same, ← isKey]
    exact of_decide_eq_true included
  · intro each entry member
    have found := Table.mem_rows_iff.mp member
    exact decide_eq_true (each entry.1 entry.2 (Option.map_eq_some_iff.mpr ⟨entry, found, rfl⟩))

section

variable {provider : ProviderConfig (types.withCapabilities default)}
  {requirements : JobRequirements Cores}

theorem gpu_valid_iff : validateGpuRequirements provider requirements = true ↔
    (0 < requirements.resources.gpuCount → provider.capabilities.gpuSupport = true) := by
  unfold validateGpuRequirements
  by_cases asked : 0 < requirements.resources.gpuCount
  · cases provider.capabilities.gpuSupport <;> simp [asked]
  · simp [asked]

theorem timeout_valid_iff : validateTimeoutRequirements provider requirements = true ↔
    ∀ required allowed, requirements.timeout = some required →
      provider.capabilities.maxExecutionTime = some allowed →
        required.nanos ≤ allowed.nanos := by
  unfold validateTimeoutRequirements
  cases requirements.timeout with
  | none => simp
  | some required =>
      cases provider.capabilities.maxExecutionTime with
      | none => simp
      | some allowed => simp

theorem architecture_valid_iff : validateArchitectureRequirements provider requirements = true ↔
    ∀ required, requirements.architecture = some required →
      required ∈ provider.capabilities.architectures := by
  unfold validateArchitectureRequirements
  cases requirements.architecture with
  | none => simp
  | some required => simp

theorem region_valid_iff : validateRegionRequirements provider requirements = true ↔
    requirements.allowedRegions = [] ∨ provider.allowedRegions = [] ∨
      ∃ region ∈ requirements.allowedRegions, region ∈ provider.allowedRegions := by
  unfold validateRegionRequirements
  by_cases unrestricted : requirements.allowedRegions = []
  · simp [unrestricted]
  · by_cases anywhere : provider.allowedRegions = []
    · simp [anywhere]
    · simp [unrestricted, anywhere]

theorem can_fulfill_iff [LE Cores] [DecidableLE Cores] :
    canFulfillRequirements provider requirements = true ↔ Fulfills requirements provider := by
  have cpu : validateCpuRequirements provider requirements = true ↔ _ := decide_eq_true_iff
  have memory : validateMemoryRequirements provider requirements = true ↔ _ := decide_eq_true_iff
  have labels := all_included_iff requirements.requiredLabels provider.requiredLabels
  have annotations := all_included_iff requirements.requiredAnnotations provider.annotations
  unfold canFulfillRequirements
  constructor
  · intro all
    split_ifs at all with first second third fourth fifth sixth seventh eighth
    rw [Bool.not_eq_false] at first second third fourth fifth sixth seventh eighth
    exact ⟨cpu.mp first, memory.mp second, gpu_valid_iff.mp third, timeout_valid_iff.mp fourth,
      architecture_valid_iff.mp fifth, region_valid_iff.mp sixth, labels.mp seventh,
      annotations.mp eighth⟩
  · intro fulfills
    rw [if_neg, if_neg, if_neg, if_neg, if_neg, if_neg, if_neg, if_neg] <;> rw [Bool.not_eq_false]
    · exact annotations.mpr fulfills.annotations
    · exact labels.mpr fulfills.labels
    · exact region_valid_iff.mpr fulfills.region
    · exact architecture_valid_iff.mpr fulfills.architecture
    · exact timeout_valid_iff.mpr fulfills.timeout
    · exact gpu_valid_iff.mpr fulfills.gpu
    · exact memory.mpr fulfills.memory
    · exact cpu.mpr fulfills.cpu

end

/-! ## The order -/

instance : Std.TransCmp (@ProviderConfig.compareRank types) :=
  inferInstanceAs (Std.TransCmp (compareLex
    (fun first second => compareOn ProviderConfig.priority second first)
    (compareOn ProviderConfig.load)))

theorem ranks_first {first second : ProviderConfig types}
    (before : (first.compareRank second).isLE = true) :
    second.priority ≤ first.priority ∧
      (second.priority = first.priority → first.load ≤ second.load) := by
  unfold ProviderConfig.compareRank at before
  obtain ⟨higher, lower⟩ := Ordering.isLE_then_iff_and.mp before
  refine ⟨Std.isLE_compare.mp higher, ?_⟩
  intro same
  have equal : compare second.priority first.priority = .eq := Std.compare_eq_iff_eq.mpr same
  rcases lower with smaller | lighter
  · rw [equal] at smaller
    cases smaller
  · exact compare_le_iff_le.mp (Ordering.isLE_iff_ne_gt.mp lighter)

/-! ## The result -/

end HodeiJobs.Providers
