import HodeiJobs.Commands.OutboxRelay
import HodeiJobs.Jobs.JobSpec
import HodeiJobs.Outbox.Serde

/-!
# Job specifications as values

What `Serialize` and `Deserialize` derive for `JobSpec` and the types of its fields.
-/

namespace HodeiJobs.Outbox

open HodeiJobs.Commands (payloadFields)
open HodeiJobs.Jobs
open HodeiJobs.Library
open HodeiJobs.Sagas (Json JsonMap)
open HodeiJobs.WorkerAgent.Secrets (StringMap)

namespace Serde

variable {Value : Type}

/-- `from_value` of a vector. -/
def fromList (serde : Serde Value) : Json → Option (List Value)
  | .array items => items.mapM serde.fromValue
  | _ => none

theorem from_list_list (serde : Serde Value) (values : List Value) :
    serde.fromList (serde.list values) = some values := by
  change (values.map serde.toValue).mapM serde.fromValue = some values
  induction values with
  | nil => rfl
  | cons value rest ih => simp [List.mapM_cons, serde.from_to_value, ih]

def fromTextEntry (entry : String × Json) : Option (String × String) :=
  entry.2.asStr.map fun text => (entry.1, text)

/-- `from_value` of a map of texts. -/
def fromStringMap : Json → Option StringMap
  | .object entries => (entries.mapM fromTextEntry).map Table.ofRows
  | _ => none

theorem from_string_map_string_map (map : StringMap) :
    fromStringMap (stringMap map) = some map := by
  have read : ∀ rows : List (String × String),
      (rows.map fun entry => (entry.1, Json.string entry.2)).mapM fromTextEntry = some rows := by
    intro rows
    induction rows with
    | nil => rfl
    | cons row rest ih =>
        have first : fromTextEntry (row.1, .string row.2) = some row := rfl
        simp only [List.map_cons, List.mapM_cons, first, ih]
        rfl
  rw [stringMap, fromStringMap, read, Option.map_some, Table.of_rows_rows]

end Serde

def constraintOperator : Serde ConstraintOperator :=
  .variant [.eq, .ne, .gt, .lt, .in, .notIn]
    (fun
      | .eq => "Eq" | .ne => "Ne" | .gt => "Gt" | .lt => "Lt" | .in => "In" | .notIn => "NotIn")
    fun operator => by cases operator <;> rfl

def jobPriority : Serde JobPriority :=
  .variant [.low, .normal, .high, .critical]
    (fun | .low => "Low" | .normal => "Normal" | .high => "High" | .critical => "Critical")
    fun priority => by cases priority <;> rfl

/-! ## Structures of texts -/

def constraint : Serde Constraint where
  toValue constraint := .object
    [("key", .string constraint.key), ("operator", constraintOperator.toValue constraint.operator),
      ("value", .string constraint.value)]
  fromValue value :=
    match payloadFields ["key", "operator", "value"] value with
    | some [some key, some operator, some value] => do
        return ⟨← key.asStr, ← constraintOperator.fromValue operator, ← value.asStr⟩
    | _ => none
  from_to_value constraint := by
    obtain ⟨key, operator, value⟩ := constraint
    cases operator <;> rfl
  from_null := rfl

def artifactSource : Serde ArtifactSource where
  toValue source := .object [("url", .string source.url), ("dest_path", .string source.destPath)]
  fromValue value :=
    match payloadFields ["url", "dest_path"] value with
    | some [some url, some destPath] => do return ⟨← url.asStr, ← destPath.asStr⟩
    | _ => none
  from_to_value _ := rfl
  from_null := rfl

def artifactDest : Serde ArtifactDest where
  toValue dest := .object [("src_path", .string dest.srcPath), ("url", .string dest.url)]
  fromValue value :=
    match payloadFields ["src_path", "url"] value with
    | some [some srcPath, some url] => do return ⟨← srcPath.asStr, ← url.asStr⟩
    | _ => none
  from_to_value _ := rfl
  from_null := rfl

def commandType : Serde CommandType where
  toValue
    | .shell cmd args => .object
        [("Shell", .object [("cmd", .string cmd), ("args", Serde.text.list args)])]
    | .script interpreter content => .object
        [("Script", .object [("interpreter", .string interpreter), ("content", .string content)])]
  fromValue
    | .object [("Shell", fields)] =>
        match payloadFields ["cmd", "args"] fields with
        | some [some cmd, some args] => do return .shell (← cmd.asStr) (← Serde.text.fromList args)
        | _ => none
    | .object [("Script", fields)] =>
        match payloadFields ["interpreter", "content"] fields with
        | some [some interpreter, some content] => do
            return .script (← interpreter.asStr) (← content.asStr)
        | _ => none
    | _ => none
  from_to_value command := by
    cases command with
    | shell cmd args =>
        change (do return CommandType.shell cmd (← Serde.text.fromList (Serde.text.list args))) = _
        rw [Serde.from_list_list]
        rfl
    | script interpreter content => rfl
  from_null := rfl

/-! ## The specification -/

structure FloatSerdes (floats : Floats) where
  f32 : Serde floats.F32
  f64 : Serde floats.F64

section

variable {floats : Floats} (serdes : FloatSerdes floats)

def jobResources : Serde (JobResources floats) where
  toValue resources := .object
    [("cpu_cores", serdes.f32.toValue resources.cpuCores),
      ("memory_mb", Serde.u64.toValue resources.memoryMb),
      ("storage_mb", Serde.u64.toValue resources.storageMb),
      ("gpu_required", .bool resources.gpuRequired),
      ("architecture", .string resources.architecture)]
  fromValue value :=
    match payloadFields ["cpu_cores", "memory_mb", "storage_mb", "gpu_required", "architecture"]
      value with
    | some [some cpuCores, some memoryMb, some storageMb, some gpuRequired, some architecture] => do
        return ⟨← serdes.f32.fromValue cpuCores, ← Serde.u64.fromValue memoryMb,
          ← Serde.u64.fromValue storageMb, ← gpuRequired.asBool, ← architecture.asStr⟩
    | _ => none
  from_to_value resources := by
    change (do
      return (⟨← serdes.f32.fromValue (serdes.f32.toValue resources.cpuCores),
        ← Serde.u64.fromValue (Serde.u64.toValue resources.memoryMb),
        ← Serde.u64.fromValue (Serde.u64.toValue resources.storageMb),
        ← (Json.bool resources.gpuRequired).asBool,
        ← (Json.string resources.architecture).asStr⟩ : JobResources floats)) = _
    rw [serdes.f32.from_to_value, Serde.from_to_value, Serde.from_to_value]
    rfl
  from_null := rfl

/-- The fields of a struct whose absent fields take their defaults: an array may be shorter. -/
def defaultedFields (names : List String) : Json → Option (List (Option Json))
  | .object entries => some (names.map (JsonMap.get entries))
  | .array items =>
      if items.length ≤ names.length then
        some (items.map some ++ List.replicate (names.length - items.length) none)
      else none
  | _ => none

/-- What an absent field stands for. -/
def orDefault {Value : Type} (read : Json → Option Value) (default : Value) :
    Option Json → Option Value
  | some value => read value
  | none => some default

def jobPreferences : Serde (JobPreferences floats) where
  toValue preferences := .object
    [("preferred_provider", Serde.text.optional preferences.preferredProvider),
      ("preferred_region", Serde.text.optional preferences.preferredRegion),
      ("max_budget", serdes.f64.optional preferences.maxBudget),
      ("priority", jobPriority.toValue preferences.priority),
      ("allow_retry", .bool preferences.allowRetry),
      ("required_labels", Serde.stringMap preferences.requiredLabels),
      ("required_annotations", Serde.stringMap preferences.requiredAnnotations)]
  fromValue value :=
    let default := JobPreferences.default floats
    match defaultedFields ["preferred_provider", "preferred_region", "max_budget", "priority",
      "allow_retry", "required_labels", "required_annotations"] value with
    | some [provider, region, budget, priority, retry, labels, annotations] => do
        return ⟨← orDefault Serde.text.fromOptional default.preferredProvider provider,
          ← orDefault Serde.text.fromOptional default.preferredRegion region,
          ← orDefault serdes.f64.fromOptional default.maxBudget budget,
          ← orDefault jobPriority.fromValue default.priority priority,
          ← orDefault Json.asBool default.allowRetry retry,
          ← orDefault Serde.fromStringMap default.requiredLabels labels,
          ← orDefault Serde.fromStringMap default.requiredAnnotations annotations⟩
    | _ => none
  from_to_value preferences := by
    change (do
      return (⟨← Serde.text.fromOptional (Serde.text.optional preferences.preferredProvider),
        ← Serde.text.fromOptional (Serde.text.optional preferences.preferredRegion),
        ← serdes.f64.fromOptional (serdes.f64.optional preferences.maxBudget),
        ← jobPriority.fromValue (jobPriority.toValue preferences.priority),
        ← (Json.bool preferences.allowRetry).asBool,
        ← Serde.fromStringMap (Serde.stringMap preferences.requiredLabels),
        ← Serde.fromStringMap (Serde.stringMap preferences.requiredAnnotations)⟩ :
          JobPreferences floats)) = _
    simp only [Serde.from_optional_optional, Serde.from_to_value,
      Serde.from_string_map_string_map]
    rfl
  from_null := rfl

def jobSpec : Serde (JobSpec floats) where
  toValue spec := .object
    [("command", commandType.toValue spec.command), ("env", Serde.stringMap spec.env),
      ("inputs", artifactSource.list spec.inputs), ("outputs", artifactDest.list spec.outputs),
      ("constraints", constraint.list spec.constraints),
      ("resources", (jobResources serdes).toValue spec.resources),
      ("timeout_ms", Serde.u64.toValue spec.timeoutMs),
      ("image", Serde.text.optional spec.image),
      ("working_dir", Serde.text.optional spec.workingDir),
      ("stdin", Serde.text.optional spec.stdin),
      ("preferences", (jobPreferences serdes).toValue spec.preferences)]
  fromValue value :=
    match payloadFields ["command", "env", "inputs", "outputs", "constraints", "resources",
      "timeout_ms", "image", "working_dir", "stdin", "preferences"] value with
    | some [some command, some env, some inputs, some outputs, some constraints, some resources,
        some timeoutMs, image, workingDir, stdin, some preferences] => do
        return ⟨← commandType.fromValue command, ← Serde.fromStringMap env,
          ← artifactSource.fromList inputs, ← artifactDest.fromList outputs,
          ← constraint.fromList constraints, ← (jobResources serdes).fromValue resources,
          ← Serde.u64.fromValue timeoutMs, ← Serde.text.fromOptional (image.getD .null),
          ← Serde.text.fromOptional (workingDir.getD .null),
          ← Serde.text.fromOptional (stdin.getD .null),
          ← (jobPreferences serdes).fromValue preferences⟩
    | _ => none
  from_to_value spec := by
    change (do
      return (⟨← commandType.fromValue (commandType.toValue spec.command),
        ← Serde.fromStringMap (Serde.stringMap spec.env),
        ← artifactSource.fromList (artifactSource.list spec.inputs),
        ← artifactDest.fromList (artifactDest.list spec.outputs),
        ← constraint.fromList (constraint.list spec.constraints),
        ← (jobResources serdes).fromValue ((jobResources serdes).toValue spec.resources),
        ← Serde.u64.fromValue (Serde.u64.toValue spec.timeoutMs),
        ← Serde.text.fromOptional (Serde.text.optional spec.image),
        ← Serde.text.fromOptional (Serde.text.optional spec.workingDir),
        ← Serde.text.fromOptional (Serde.text.optional spec.stdin),
        ← (jobPreferences serdes).fromValue ((jobPreferences serdes).toValue spec.preferences)⟩ :
          JobSpec floats)) = _
    simp only [Serde.from_optional_optional, Serde.from_to_value, Serde.from_list_list,
      Serde.from_string_map_string_map]
    rfl
  from_null := rfl

end

end HodeiJobs.Outbox
