import HodeiJobs.Jobs.Parameters
import HodeiJobs.WorkerAgent.Secrets

/-!
# Job specifications

The part of `domain/src/jobs/aggregate.rs` that says what a job runs, where and with what.
-/

namespace HodeiJobs.Jobs

open HodeiJobs.WorkerAgent.Secrets (StringMap)

/-- The floating-point types of a specification, with what is asked of them. -/
structure Floats where
  F32 : Type
  F64 : Type
  one : F32
  /-- `<= 0.0` -/
  notPositive : F32 → Bool
  /-- `> 0.0` -/
  isPositive : F64 → Bool
  /-- `as f32` -/
  narrow : F64 → F32

inductive CommandType where
  | shell (cmd : String) (args : List String)
  | script (interpreter content : String)
  deriving DecidableEq

def CommandType.toCommandVec : CommandType → List String
  | .shell cmd args => cmd :: args
  | .script interpreter content => [interpreter, "-c", content]

inductive ConstraintOperator where
  | eq
  | ne
  | gt
  | lt
  | in
  | notIn
  deriving DecidableEq

structure Constraint where
  key : String
  operator : ConstraintOperator
  value : String
  deriving DecidableEq

structure ArtifactSource where
  url : String
  destPath : String
  deriving DecidableEq

structure ArtifactDest where
  srcPath : String
  url : String
  deriving DecidableEq

inductive JobPriority where
  | low
  | normal
  | high
  | critical
  deriving DecidableEq

structure JobResources (floats : Floats) where
  cpuCores : floats.F32
  memoryMb : UInt64
  storageMb : UInt64
  gpuRequired : Bool
  architecture : String

def JobResources.default (floats : Floats) : JobResources floats where
  cpuCores := floats.one
  memoryMb := 512
  storageMb := 1024
  gpuRequired := false
  architecture := "x86_64"

structure JobPreferences (floats : Floats) where
  preferredProvider : Option String
  preferredRegion : Option String
  maxBudget : Option floats.F64
  priority : JobPriority
  allowRetry : Bool
  requiredLabels : StringMap
  requiredAnnotations : StringMap

def JobPreferences.default (floats : Floats) : JobPreferences floats where
  preferredProvider := none
  preferredRegion := none
  maxBudget := none
  priority := .normal
  allowRetry := true
  requiredLabels := ⟨[], List.nodup_nil⟩
  requiredAnnotations := ⟨[], List.nodup_nil⟩

structure JobSpec (floats : Floats) where
  command : CommandType
  env : StringMap
  inputs : List ArtifactSource
  outputs : List ArtifactDest
  constraints : List Constraint
  resources : JobResources floats
  timeoutMs : UInt64
  image : Option String
  workingDir : Option String
  stdin : Option String
  preferences : JobPreferences floats

/-- `DomainError::InvalidJobSpec`. -/
structure InvalidJobSpec where
  field : String
  reason : String
  deriving DecidableEq

namespace JobSpec

variable {floats : Floats}

def looksLikeScript (content : String) : Bool :=
  content.contains '\n' || content.startsWith "#!"

/-- The command that `new` makes of the words of a request. -/
def commandOf (command : List String) : CommandType :=
  match command with
  | [] => .shell "bash" ["-c", "echo"]
  | cmd :: args =>
      if 2 ≤ command.length ∧ command[command.length - 2]? = some "-c" then .shell cmd args
      else if args = [] then
        if looksLikeScript cmd then .script "bash" cmd else .shell "bash" ["-c", cmd]
      else .shell "bash" ["-c", " ".intercalate command]

def withCommand (floats : Floats) (command : CommandType) : JobSpec floats where
  command := command
  env := ⟨[], List.nodup_nil⟩
  inputs := []
  outputs := []
  constraints := []
  resources := .default floats
  timeoutMs := 300000
  image := none
  workingDir := none
  stdin := none
  preferences := .default floats

def new (floats : Floats) (command : List String) : JobSpec floats :=
  withCommand floats (commandOf command)

def commandVec (spec : JobSpec floats) : List String := spec.command.toCommandVec

def validate (spec : JobSpec floats) : Except InvalidJobSpec Unit := do
  if spec.commandVec.all (·.isEmpty) then
    throw ⟨"command", "Job command cannot be empty"⟩
  if spec.timeoutMs = 0 then
    throw ⟨"timeout_ms", "Job timeout must be greater than 0"⟩
  if floats.notPositive spec.resources.cpuCores then
    throw ⟨"cpu_cores", "CPU cores must be greater than 0"⟩
  if spec.resources.memoryMb = 0 then
    throw ⟨"memory_mb", "Memory must be greater than 0"⟩
  if spec.inputs.any (·.destPath.isEmpty) then
    throw ⟨"inputs.dest_path", "Destination path cannot be empty"⟩
  if spec.outputs.any (·.srcPath.isEmpty) then
    throw ⟨"outputs.src_path", "Source path cannot be empty"⟩

end JobSpec

/-! ## Parameter substitution -/

/-- The map as the substitution reads it, in the order in which it is iterated. -/
def Parameters.ofStringMap (map : StringMap) : Parameters where
  entries := map.rows.map fun entry => (entry.1.toList, entry.2.toList)
  distinct := by
    have names : (map.rows.map fun entry => entry.1.toList) =
        (map.rows.map Prod.fst).map String.toList := by
      rw [List.map_map]
      rfl
    rw [List.map_map]
    change (map.rows.map fun entry => entry.1.toList).Nodup
    rw [names]
    exact map.unique.map fun _ _ => String.toList_inj.mp

def substituteText (parameters : StringMap) (text : String) : String :=
  let parameters := Parameters.ofStringMap parameters
  String.ofList (substituteParameters parameters parameters.entries text.toList)

def substituteInCommand (parameters : StringMap) : CommandType → CommandType
  | .shell cmd args =>
      .shell (substituteText parameters cmd) (args.map (substituteText parameters))
  | .script interpreter content =>
      .script (substituteText parameters interpreter) (substituteText parameters content)

/-- `values_mut` -/
def substituteInValues (parameters env : StringMap) : StringMap where
  rows := env.rows.map fun entry => (entry.1, substituteText parameters entry.2)
  unique := by
    rw [List.map_map]
    exact env.unique

def JobSpec.applyParameters {floats : Floats} (spec : JobSpec floats) (parameters : StringMap)
    (requiredParams : Option (List String)) : Except InvalidJobSpec (JobSpec floats) := do
  match (requiredParams.getD []).find? fun param => (parameters.find param).isNone with
  | some param => throw ⟨"parameters", "Missing required parameter: " ++ param⟩
  | none =>
      return { spec with
        command := substituteInCommand parameters spec.command
        env := substituteInValues parameters spec.env
        stdin := spec.stdin.map (substituteText parameters) }

end HodeiJobs.Jobs
