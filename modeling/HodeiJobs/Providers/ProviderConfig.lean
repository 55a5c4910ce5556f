import HodeiJobs.Dispatch.Dispatchers
import HodeiJobs.Outbox.JobSpecSerde
import HodeiJobs.Workers.ProviderType

/-!
# Provider configurations

`ProviderConfig`, and the statements with which `PostgresProviderConfigRepository` writes and
reads the table `provider_configs`. The table has no column for the active workers, nor for
the capabilities.
-/

namespace HodeiJobs.Providers

open HodeiJobs.Dispatch (ProviderId)
open HodeiJobs.Library
open HodeiJobs.Outbox (ProviderStatus Serde)
open HodeiJobs.Sagas (DateTime Json)
open HodeiJobs.WorkerAgent.Secrets (StringMap)
open HodeiJobs.Workers (ProviderType)

/-! ## The configuration -/

/-- What a configuration consists of besides texts and numbers. A type configuration is
written as an object with its tag in the field `type`. -/
structure ProviderTypes where
  Capabilities : Type
  defaultCapabilities : Capabilities
  TypeConfig : Type
  toValue : TypeConfig → Json
  fromValue : Json → Except String TypeConfig
  from_to_value : ∀ config, fromValue (toValue config) = .ok config
  tagged : ∀ config, ∃ tag, ((toValue config).get "type").bind Json.asStr = some tag
  tables : CaseTables
  toUppercase : String → String

structure ProviderConfig (types : ProviderTypes) where
  id : ProviderId
  name : String
  providerType : ProviderType
  status : ProviderStatus
  capabilities : types.Capabilities
  typeConfig : types.TypeConfig
  priority : Int32
  maxWorkers : UInt32
  activeWorkers : UInt32
  createdAt : DateTime
  updatedAt : DateTime
  tags : List String
  metadata : StringMap
  preferredRegion : Option String
  allowedRegions : List String
  requiredLabels : StringMap
  annotations : StringMap

inductive DomainError where
  | infrastructureError (message : String)
  | providerNotFound (providerId : ProviderId)
  deriving DecidableEq

variable {types : ProviderTypes}

namespace ProviderConfig

variable (config : ProviderConfig types) (now : DateTime)

def isEnabled : Bool := config.status = .active

def hasCapacity : Bool := config.activeWorkers < config.maxWorkers

def incrementWorkers : ProviderConfig types :=
  { config with activeWorkers := config.activeWorkers + 1, updatedAt := now }

def decrementWorkers : ProviderConfig types :=
  { config with
    activeWorkers :=
      if 0 < config.activeWorkers then config.activeWorkers - 1 else config.activeWorkers
    updatedAt := now }

end ProviderConfig

/-- `to_string` of a status. -/
def displayStatus : ProviderStatus → String
  | .active => "ACTIVE"
  | .maintenance => "MAINTENANCE"
  | .disabled => "DISABLED"
  | .overloaded => "OVERLOADED"
  | .unhealthy => "UNHEALTHY"
  | .degraded => "DEGRADED"

/-- The text with the tag replaced by another. -/
def withType (tag : String) : Json → Json
  | .object entries => .object (entries.map fun entry =>
      if entry.1 = "type" then (entry.1, .string tag) else entry)
  | value => value

def normalizedType (typeField : String) (lower : String) : String :=
  match lower with
  | "docker" => "docker"
  | "kubernetes" => "kubernetes"
  | "fargate" => "fargate"
  | "cloud_run" | "cloudrun" => "cloud_run"
  | "container_apps" | "containerapps" => "container_apps"
  | "lambda" => "lambda"
  | "cloud_functions" | "cloudfunctions" => "cloud_functions"
  | "azure_functions" | "azurefunctions" => "azure_functions"
  | "ec2" => "ec2"
  | "compute_engine" | "computeengine" => "compute_engine"
  | "azure_vms" | "azurevms" => "azure_vms"
  | "bare_metal" | "baremetal" => "bare_metal"
  | "custom" => "custom"
  | _ => typeField

/-- The error is the message of an infrastructure error. -/
def deserializeFromJson (types : ProviderTypes) (value : Json) : Except String types.TypeConfig :=
  match (value.get "type").bind Json.asStr with
  | none => .error "Missing 'type' field in provider config"
  | some typeField =>
      match types.fromValue value with
      | .ok config => .ok config
      | .error _ =>
          let normalized := normalizedType typeField (types.tables.toLowercase typeField)
          (types.fromValue (withType normalized value)).mapError
            ("Failed to deserialize provider config: " ++ ·)

theorem deserialize_to_value (config : types.TypeConfig) :
    deserializeFromJson types (types.toValue config) = .ok config := by
  obtain ⟨tag, tagged⟩ := types.tagged config
  simp [deserializeFromJson, tagged, types.from_to_value]

/-! ## The table -/

structure ProviderRow where
  id : ProviderId
  name : String
  providerType : String
  config : Json
  status : String
  priority : Int32
  maxWorkers : Int32
  tags : Json
  metadata : Json
  preferredRegion : Option String
  allowedRegions : Json
  requiredLabels : Json
  annotations : Json
  createdAt : DateTime
  updatedAt : DateTime

/-- Both the id and the name of a row are unique. -/
structure ProviderConfigs where
  table : Table ProviderRow.id
  names : (table.rows.map ProviderRow.name).Nodup

/-- What the database makes of a value that is bound to the column `preferred_region`, which
holds a text, and the violation that it reports. -/
structure Database where
  region : Json → Except String (Option String)
  duplicateId : String

/-- A character inside the text of a `jsonb` string. -/
def escapeJson (symbol : Char) : String :=
  match symbol.toNat with
  | 8 => "\\b"
  | 9 => "\\t"
  | 10 => "\\n"
  | 12 => "\\f"
  | 13 => "\\r"
  | 34 => "\\\""
  | 92 => "\\\\"
  | code =>
      if code < 32 then
        "\\u00" ++ (if code < 16 then "0" else "") ++ String.ofList (Nat.toDigits 16 code)
      else symbol.toString

/-- The text of a `jsonb` string. -/
def quoteJson (text : String) : String :=
  String.ofList ("\"".toList ++ text.toList.flatMap (fun symbol => (escapeJson symbol).toList) ++
    "\"".toList)

/-- `preferred_region VARCHAR(100)` takes the text of the JSON value that is bound to it, `null`
or the region in quotes. `jsonb` has no NUL. -/
def varcharRegion : Json → Except String (Option String)
  | .null => .ok (some "null")
  | .string region =>
      if region.toList.any (fun symbol => symbol.toNat = 0) then
        .error "unsupported Unicode escape sequence"
      else if (quoteJson region).length ≤ 100 then .ok (some (quoteJson region))
      else .error "value too long for type character varying(100)"
  -- No other value is bound.
  | _ => .error "invalid input syntax"

/-- `status_str` as a status: what it does not name is disabled. -/
def statusOf : String → ProviderStatus
  | "ACTIVE" => .active
  | "MAINTENANCE" => .maintenance
  | "DISABLED" => .disabled
  | "OVERLOADED" => .overloaded
  | "UNHEALTHY" => .unhealthy
  | _ => .disabled

def providerTypeOf : String → ProviderType
  | "DOCKER" => .docker
  | "KUBERNETES" => .kubernetes
  | "FARGATE" => .fargate
  | "CLOUDRUN" => .cloudRun
  | "CONTAINERAPPS" => .containerApps
  | "LAMBDA" => .lambda
  | "CLOUDFUNCTIONS" => .cloudFunctions
  | "AZUREFUNCTIONS" => .azureFunctions
  | "EC2" => .ec2
  | "COMPUTEENGINE" => .computeEngine
  | "AZUREVMS" => .azureVMs
  | "TEST" => .test
  | "BAREMETAL" => .bareMetal
  | "CUSTOM" => .custom "custom"
  | _ => .docker

def emptyMap : StringMap := ⟨[], List.nodup_nil⟩

def mapRowToProviderConfig (types : ProviderTypes) (row : ProviderRow) :
    Except DomainError (ProviderConfig types) :=
  match deserializeFromJson types row.config with
  | .error problem =>
      .error (.infrastructureError
        ("Failed to deserialize provider config: Infrastructure error: " ++ problem))
  | .ok typeConfig =>
      .ok {
        id := row.id
        name := row.name
        providerType := providerTypeOf (types.toUppercase row.providerType)
        status := statusOf row.status
        capabilities := types.defaultCapabilities
        typeConfig
        priority := row.priority
        maxWorkers := row.maxWorkers.toUInt32
        activeWorkers := 0
        createdAt := row.createdAt
        updatedAt := row.updatedAt
        tags := (Serde.text.fromList row.tags).getD []
        metadata := (Serde.fromStringMap row.metadata).getD emptyMap
        preferredRegion := row.preferredRegion
        allowedRegions := (Serde.text.fromList row.allowedRegions).getD []
        requiredLabels := (Serde.fromStringMap row.requiredLabels).getD emptyMap
        annotations := (Serde.fromStringMap row.annotations).getD emptyMap }

/-- The values of an `INSERT`. -/
def ProviderRow.ofConfig (config : ProviderConfig types) (region : Option String) :
    ProviderRow where
  id := config.id
  name := config.name
  providerType := config.providerType.display
  config := types.toValue config.typeConfig
  status := displayStatus config.status
  priority := config.priority
  maxWorkers := config.maxWorkers.toInt32
  tags := Serde.text.list config.tags
  metadata := Serde.stringMap config.metadata
  preferredRegion := region
  allowedRegions := Serde.text.list config.allowedRegions
  requiredLabels := Serde.stringMap config.requiredLabels
  annotations := Serde.stringMap config.annotations
  createdAt := config.createdAt
  updatedAt := config.updatedAt

/-- `DO UPDATE SET`: the id, the name, the type and the time of creation stay. -/
def ProviderRow.overwrite (excluded : ProviderRow) (now : DateTime) (row : ProviderRow) :
    ProviderRow :=
  { excluded with
    id := row.id
    name := row.name
    providerType := row.providerType
    createdAt := row.createdAt
    updatedAt := now }

namespace ProviderConfigs

variable (configs : ProviderConfigs)

def overwrite (id : ProviderId) (excluded : ProviderRow) (now : DateTime) : ProviderConfigs where
  table := configs.table.update id (excluded.overwrite now) fun _ => rfl
  names := by
    have same : ∀ row : ProviderRow,
        (if row.id = id then excluded.overwrite now row else row).name = row.name := by
      intro row
      split <;> rfl
    simpa [Table.update, Function.comp_def, same] using configs.names

def insert (row : ProviderRow) (unnamed : row.name ∉ configs.table.rows.map ProviderRow.name)
    (absent : row.id ∉ configs.table.rows.map ProviderRow.id) : ProviderConfigs where
  table := configs.table.upsert row
  names := by
    rw [Table.rows_upsert_of_absent _ _ absent, List.map_append]
    refine List.nodup_append.mpr ⟨configs.names, List.nodup_singleton _, ?_⟩
    intro name member other single same
    exact unnamed (List.mem_singleton.mp single ▸ same ▸ member)

/-- `INSERT … ON CONFLICT (name) DO UPDATE`. -/
def save (database : Database) (fault : Option String) (now : DateTime)
    (config : ProviderConfig types) : Except DomainError Unit × ProviderConfigs :=
  let failed (problem : String) : Except DomainError Unit × ProviderConfigs :=
    (.error (.infrastructureError ("Failed to save provider config: " ++ problem)), configs)
  match fault, database.region (Serde.text.optional config.preferredRegion) with
  | some problem, _ => failed problem
  | none, .error problem => failed problem
  | none, .ok region =>
      let excluded := ProviderRow.ofConfig config region
      match configs.table.findWhere fun row => row.name = config.name with
      | some row => (.ok (), configs.overwrite row.id excluded now)
      | none =>
          if fresh : excluded.name ∉ configs.table.rows.map ProviderRow.name ∧
              excluded.id ∉ configs.table.rows.map ProviderRow.id then
            (.ok (), configs.insert excluded fresh.1 fresh.2)
          else failed database.duplicateId

def findById (types : ProviderTypes) (fault : Option String) (id : ProviderId) :
    Except DomainError (Option (ProviderConfig types)) :=
  match fault with
  | some problem =>
      .error (.infrastructureError ("Failed to find provider config by id: " ++ problem))
  | none =>
      match configs.table.find id with
      | some row => (mapRowToProviderConfig types row).map some
      | none => .ok none

/-- `ORDER BY priority DESC, name ASC`. -/
def listedBefore (row other : ProviderRow) : Prop :=
  other.priority < row.priority ∨ row.priority = other.priority ∧ row.name ≤ other.name

instance : DecidableRel listedBefore := fun _ _ => inferInstanceAs (Decidable (_ ∨ _))

def findWithCapacity (types : ProviderTypes) (fault : Option String) :
    Except DomainError (List (ProviderConfig types)) :=
  match fault with
  | some problem =>
      .error (.infrastructureError
        ("Failed to find provider configs with capacity: " ++ problem))
  | none =>
      (configs.table.query (fun row => row.status = "ACTIVE") listedBefore
        configs.table.rows.length).mapM (mapRowToProviderConfig types)

end ProviderConfigs

end HodeiJobs.Providers
