import HodeiJobs.Library.LetterCase
import HodeiJobs.Providers.ProviderConfig

/-!
# Saving a configuration and finding it again

`ProviderTypeConfig` with the tags that `rename_all = "snake_case"` derives for its variants, and
what a configuration is after `save` and `find_by_id`.
-/

namespace HodeiJobs.Providers

open HodeiJobs.Library
open HodeiJobs.Outbox (ProviderStatus Serde)
open HodeiJobs.Sagas (DateTime Json JsonMap)
open HodeiJobs.Workers (ProviderType)

/-! ## Tagged type configurations -/

inductive TypeVariant where
  | docker
  | kubernetes
  | fargate
  | cloudRun
  | containerApps
  | lambda
  | cloudFunctions
  | azureFunctions
  | ec2
  | computeEngine
  | azureVMs
  | bareMetal
  | custom
  deriving DecidableEq

namespace TypeVariant

def all : List TypeVariant :=
  [docker, kubernetes, fargate, cloudRun, containerApps, lambda, cloudFunctions, azureFunctions,
    ec2, computeEngine, azureVMs, bareMetal, custom]

def name : TypeVariant → String
  | docker => "Docker"
  | kubernetes => "Kubernetes"
  | fargate => "Fargate"
  | cloudRun => "CloudRun"
  | containerApps => "ContainerApps"
  | lambda => "Lambda"
  | cloudFunctions => "CloudFunctions"
  | azureFunctions => "AzureFunctions"
  | ec2 => "EC2"
  | computeEngine => "ComputeEngine"
  | azureVMs => "AzureVMs"
  | bareMetal => "BareMetal"
  | custom => "Custom"

def tag (variant : TypeVariant) : String := snakeCase variant.name

def tagged (text : String) : Option TypeVariant := all.find? fun variant => variant.tag = text

def lowerName (variant : TypeVariant) : String :=
  String.ofList (variant.name.toList.map Char.toLower)

theorem tagged_tag (variant : TypeVariant) : tagged variant.tag = some variant := by
  cases variant <;> decide

theorem name_ascii (variant : TypeVariant) :
    ∀ symbol ∈ variant.name.toList.map Char.toLower, symbol.toNat < 128 := by
  apply ascii_of_all
  cases variant <;> decide

theorem tag_small (variant : TypeVariant) :
    String.ofList (variant.tag.toList.map Char.toLower) = variant.tag := by
  cases variant <;> decide

/-- The names that are tags without underscores. -/
theorem tagged_lower_name {variant other : TypeVariant}
    (known : tagged variant.lowerName = some other) :
    other = variant ∧ variant ≠ ec2 ∧ variant ≠ azureVMs := by
  have either : tagged variant.lowerName = none ∨
      tagged variant.lowerName = some variant ∧ variant ≠ ec2 ∧ variant ≠ azureVMs := by
    cases variant <;> decide
  rcases either with unknown | ⟨own, others⟩
  · rw [unknown] at known
    cases known
  · rw [own] at known
    exact ⟨(Option.some.inj known).symm, others⟩

theorem tagged_of_same_letters {variant other : TypeVariant} {text : String}
    (same : SameLetters text variant.name) (known : tagged text = some other) :
    other = variant ∧ variant ≠ ec2 ∧ variant ≠ azureVMs := by
  have isTag : other.tag = text := by simpa using List.find?_some known
  have spelled : variant.lowerName = text := by
    rw [lowerName, ← same, ← isTag, tag_small]
  rw [← spelled] at known
  exact tagged_lower_name known

/-- The tag that the text is replaced by does not occur where the derived one has a word of one
letter. -/
theorem tagged_normalized (variant : TypeVariant) (text : String) :
    tagged (normalizedType text variant.lowerName) =
      if variant = ec2 ∨ variant = azureVMs then none else some variant := by
  cases variant <;> rfl

end TypeVariant

/-- What the variants hold. No struct of a variant has a field `type`. -/
structure TypeContents where
  Content : TypeVariant → Type
  fields : ∀ variant, Content variant → JsonMap
  read : ∀ variant, Json → Except String (Content variant)
  /-- The message for a value without the tag of a variant. -/
  untagged : Json → String
  read_fields : ∀ variant content,
    read variant (.object (fields variant content)) = .ok content
  untyped : ∀ variant content, ∀ entry ∈ fields variant content, entry.1 ≠ "type"

structure ProviderTypeConfig (contents : TypeContents) where
  variant : TypeVariant
  content : contents.Content variant

namespace ProviderTypeConfig

variable {contents : TypeContents}

def toValue (config : ProviderTypeConfig contents) : Json :=
  .object (("type", .string config.variant.tag) :: contents.fields config.variant config.content)

/-- The content is read from what is left of the value without its tag. -/
def readTagged (contents : TypeContents) (value tag rest : Json) :
    Except String (ProviderTypeConfig contents) :=
  match tag.asStr.bind TypeVariant.tagged with
  | none => .error (contents.untagged value)
  | some variant => (contents.read variant rest).map fun content => ⟨variant, content⟩

/-- The tag is the field `type`, or the first item. -/
def fromValue (contents : TypeContents) : Json → Except String (ProviderTypeConfig contents)
  | .object entries =>
      readTagged contents (.object entries) ((JsonMap.get entries "type").getD .null)
        (.object (entries.filter fun entry => entry.1 ≠ "type"))
  | .array (tag :: rest) => readTagged contents (.array (tag :: rest)) tag (.array rest)
  | value => .error (contents.untagged value)

section

variable (config : ProviderTypeConfig contents) (text : String)

/-- The value of a configuration under another tag. -/
def retagged : Json :=
  .object (("type", .string text) :: contents.fields config.variant config.content)

theorem with_type_retagged (other : String) :
    withType other (config.retagged text) = config.retagged other := by
  have kept : (contents.fields config.variant config.content).map (fun entry =>
      if entry.1 = "type" then (entry.1, Json.string other) else entry) =
      contents.fields config.variant config.content :=
    (List.map_congr_left fun entry member =>
      if_neg (contents.untyped _ _ entry member)).trans (List.map_id _)
  rw [retagged, withType, List.map_cons, kept, if_pos rfl]
  rfl

theorem get_retagged : (config.retagged text).get "type" = some (.string text) := rfl

theorem from_value_retagged : fromValue contents (config.retagged text) =
    match TypeVariant.tagged text with
    | none => .error (contents.untagged (config.retagged text))
    | some variant =>
        (contents.read variant (.object (contents.fields config.variant config.content))).map
          fun content => ⟨variant, content⟩ := by
  have rest : (("type", Json.string text) ::
      contents.fields config.variant config.content).filter (fun entry => entry.1 ≠ "type") =
      contents.fields config.variant config.content := by
    rw [List.filter_cons_of_neg (by simp), List.filter_eq_self]
    intro entry member
    exact decide_eq_true (contents.untyped _ _ entry member)
  rw [retagged, fromValue, rest]
  rfl

theorem from_value_own_tag (own : TypeVariant.tagged text = some config.variant) :
    fromValue contents (config.retagged text) = .ok config := by
  rw [from_value_retagged, own]
  dsimp only
  rw [contents.read_fields]
  rfl

end

end ProviderTypeConfig

section

variable (contents : TypeContents) (tables : CaseTables) (upper : UppercaseTable)
  {Capabilities : Type} (capabilities : Capabilities)

/-- The types of this repository, for the default `capabilities`. -/
def providerTypes : ProviderTypes where
  Capabilities := Capabilities
  defaultCapabilities := capabilities
  TypeConfig := ProviderTypeConfig contents
  toValue := ProviderTypeConfig.toValue
  fromValue := ProviderTypeConfig.fromValue contents
  from_to_value config :=
    config.from_value_own_tag config.variant.tag (TypeVariant.tagged_tag config.variant)
  tagged config := ⟨config.variant.tag, rfl⟩
  tables := tables
  toUppercase := upper.toUppercase

/-- The name of its variant in whatever letter case does for a tag, but for the names of which
one word is a single letter. -/
theorem deserialize_same_letters_iff (config : ProviderTypeConfig contents) {text : String}
    (same : SameLetters text config.variant.name) :
    deserializeFromJson (providerTypes contents tables upper capabilities)
        (withType text config.toValue) = .ok config ↔
      config.variant ≠ .ec2 ∧ config.variant ≠ .azureVMs := by
  have replaced : withType text config.toValue = config.retagged text :=
    config.with_type_retagged config.variant.tag text
  have lower : tables.toLowercase text = config.variant.lowerName :=
    tables.to_lowercase_same_letters same config.variant.name_ascii
  have normalized := TypeVariant.tagged_normalized config.variant text
  rw [replaced]
  unfold deserializeFromJson
  rw [config.get_retagged]
  dsimp only [providerTypes, Option.bind_some, Json.asStr]
  cases known : TypeVariant.tagged text with
  | some other =>
      obtain ⟨own, neither⟩ := TypeVariant.tagged_of_same_letters same known
      rw [own] at known
      rw [config.from_value_own_tag text known]
      exact iff_of_true rfl neither
  | none =>
      have unread := config.from_value_retagged text
      rw [known] at unread
      rw [unread]
      dsimp only
      rw [lower, config.with_type_retagged]
      by_cases neither : config.variant ≠ .ec2 ∧ config.variant ≠ .azureVMs
      · rw [if_neg (not_or.mpr neither)] at normalized
        rw [config.from_value_own_tag _ normalized]
        exact iff_of_true rfl neither
      · rw [if_pos (not_and_or.mp neither |>.imp not_not.mp not_not.mp)] at normalized
        rw [config.from_value_retagged, normalized]
        exact iff_of_false (by simp [Except.mapError]) neither

end

/-! ## The table -/

structure ConfigDatabase extends Database where
  /-- What a time column gives back for a time that was bound to it. -/
  columnTime : DateTime → DateTime

variable {types : ProviderTypes}

/-- The configuration with its times as their columns keep them. -/
def ProviderConfig.bound (database : ConfigDatabase) (config : ProviderConfig types) :
    ProviderConfig types :=
  { config with
    createdAt := database.columnTime config.createdAt
    updatedAt := database.columnTime config.updatedAt }

/-- `find_by_id` after a `save` that succeeds returns the configuration itself. -/
structure RoundTrips (database : ConfigDatabase) (configs : ProviderConfigs) (now : DateTime)
    (config : ProviderConfig types) : Prop where
  saved : (configs.save database.toDatabase none now (config.bound database)).1 = .ok ()
  found : (configs.save database.toDatabase none now (config.bound database)).2.findById types
    none config.id = .ok (some config)

/-- The database gives the region and the times back, and the configuration has the values that
stand for a column that is missing or a text that the tables do not name. -/
structure Storable (database : ConfigDatabase) (config : ProviderConfig types) : Prop where
  region : database.region (Serde.text.optional config.preferredRegion) =
    .ok config.preferredRegion
  createdAt : database.columnTime config.createdAt = config.createdAt
  updatedAt : database.columnTime config.updatedAt = config.updatedAt
  capabilities : config.capabilities = types.defaultCapabilities
  idle : config.activeWorkers = 0
  named : ∀ name, config.providerType ≠ .custom name
  status : config.status ≠ .degraded

theorem status_of_display_iff {status : ProviderStatus} :
    statusOf (displayStatus status) = status ↔ status ≠ .degraded := by
  cases status <;> decide

/-- The colon of a custom type stands in none of the names. -/
theorem provider_type_of_ne_custom {text : String} (colon : ':' ∈ text.toList) (name : String) :
    providerTypeOf text ≠ .custom name := by
  unfold providerTypeOf
  split
  case h_14 => exact absurd colon (by decide)
  all_goals exact nofun

theorem provider_type_of_display_iff (upper : UppercaseTable) {providerType : ProviderType} :
    providerTypeOf (upper.toUppercase providerType.display) = providerType ↔
      ∀ name, providerType ≠ .custom name := by
  constructor
  · intro back name custom
    have colon : ':' ∈ (upper.toUppercase providerType.display).toList := by
      have display : ':' ∈ providerType.display.toList := by
        rw [custom, ProviderType.display, String.toList_append]
        exact List.mem_append_left _ (by decide)
      rw [UppercaseTable.toUppercase, String.toList_ofList]
      apply List.mem_flatMap_of_mem display
      rw [upper.ascii ':' (by decide)]
      decide
    exact provider_type_of_ne_custom colon name (back.trans custom)
  · intro named
    cases providerType with
    | custom name => exact absurd rfl (named name)
    | _ =>
        rw [upper.to_uppercase_ascii (ascii_of_all (by decide))]
        decide

/-- What the row of a saved configuration is read as. -/
theorem map_row_of_config (config : ProviderConfig types) (region : Option String) :
    mapRowToProviderConfig types (.ofConfig config region) = .ok
      { config with
        providerType := providerTypeOf (types.toUppercase config.providerType.display)
        status := statusOf (displayStatus config.status)
        capabilities := types.defaultCapabilities
        activeWorkers := 0
        preferredRegion := region } := by
  unfold mapRowToProviderConfig
  dsimp only [ProviderRow.ofConfig]
  rw [deserialize_to_value]
  dsimp only
  rw [Serde.from_list_list, Serde.from_list_list, Serde.from_string_map_string_map,
    Serde.from_string_map_string_map, Serde.from_string_map_string_map, UInt32.toUInt32_toInt32]
  rfl

section

variable {upper : UppercaseTable} {database : ConfigDatabase} {configs : ProviderConfigs}
  {now : DateTime} {config : ProviderConfig types}

/-- The row of a configuration with a new name and a new id. -/
theorem save_fresh (config : ProviderConfig types)
    (unnamed : config.name ∉ configs.table.rows.map ProviderRow.name)
    (absent : config.id ∉ configs.table.rows.map ProviderRow.id) {region : Option String}
    (accepted : database.region (Serde.text.optional config.preferredRegion) = .ok region) :
    configs.save database.toDatabase none now config =
      (.ok (), configs.insert (.ofConfig config region) unnamed absent) := by
  have noRow : configs.table.findWhere (fun row => row.name = config.name) = none := by
    rw [Table.findWhere, List.find?_eq_none]
    intro row member
    rw [decide_eq_true_iff]
    intro same
    exact unnamed (same ▸ List.mem_map_of_mem member)
  unfold ProviderConfigs.save
  rw [accepted]
  dsimp only
  rw [noRow]
  exact dif_pos ⟨unnamed, absent⟩

theorem find_inserted {row : ProviderRow}
    (unnamed : row.name ∉ configs.table.rows.map ProviderRow.name)
    (absent : row.id ∉ configs.table.rows.map ProviderRow.id) :
    (configs.insert row unnamed absent).findById types none row.id =
      (mapRowToProviderConfig types row).map some := by
  unfold ProviderConfigs.findById ProviderConfigs.insert
  dsimp only
  rw [Table.find_upsert_self]

/-- The configuration that is read is the one that was saved if each field is. -/
theorem read_eq_iff (uppercase : types.toUppercase = upper.toUppercase) {region : Option String}
    (accepted : database.region (Serde.text.optional config.preferredRegion) = .ok region) :
    { config.bound database with
      providerType := providerTypeOf (types.toUppercase config.providerType.display)
      status := statusOf (displayStatus config.status)
      capabilities := types.defaultCapabilities
      activeWorkers := 0
      preferredRegion := region } = config ↔ Storable database config := by
  rw [uppercase]
  constructor
  · intro same
    have region := congrArg ProviderConfig.preferredRegion same
    exact
      { region := region ▸ accepted
        createdAt := congrArg ProviderConfig.createdAt same
        updatedAt := congrArg ProviderConfig.updatedAt same
        capabilities := (congrArg ProviderConfig.capabilities same).symm
        idle := (congrArg ProviderConfig.activeWorkers same).symm
        named := (provider_type_of_display_iff upper).mp (congrArg ProviderConfig.providerType same)
        status := status_of_display_iff.mp (congrArg ProviderConfig.status same) }
  · intro storable
    have providerType := (provider_type_of_display_iff upper).mpr storable.named
    have status := status_of_display_iff.mpr storable.status
    have isRegion : region = config.preferredRegion :=
      Except.ok.inj (accepted.symm.trans storable.region)
    cases config
    rw [ProviderConfig.mk.injEq]
    exact ⟨rfl, rfl, providerType, status, storable.capabilities.symm, rfl, rfl, rfl,
      storable.idle.symm, storable.createdAt, storable.updatedAt, rfl, rfl, isRegion, rfl, rfl, rfl⟩

theorem round_trips_iff (uppercase : types.toUppercase = upper.toUppercase)
    (unnamed : config.name ∉ configs.table.rows.map ProviderRow.name)
    (absent : config.id ∉ configs.table.rows.map ProviderRow.id) :
    RoundTrips database configs now config ↔ Storable database config := by
  cases accepted : database.region (Serde.text.optional config.preferredRegion) with
  | error problem =>
      constructor
      · intro back
        have saved := back.saved
        have refused : database.region
            (Serde.text.optional (config.bound database).preferredRegion) = .error problem :=
          accepted
        simp [ProviderConfigs.save, refused] at saved
      · intro storable
        have given := storable.region
        rw [accepted] at given
        cases given
  | ok region =>
      have saved : configs.save database.toDatabase none now (config.bound database) =
          (.ok (), configs.insert (.ofConfig (config.bound database) region) unnamed absent) :=
        save_fresh (config.bound database) unnamed absent accepted
      have found : (configs.insert (.ofConfig (config.bound database) region) unnamed
          absent).findById types none config.id = _ :=
        find_inserted unnamed absent
      rw [map_row_of_config] at found
      rw [← read_eq_iff uppercase accepted]
      constructor
      · intro back
        have same := back.found
        rw [saved, found] at same
        exact Option.some.inj (Except.ok.inj same)
      · intro same
        refine ⟨by rw [saved], ?_⟩
        rw [saved, found]
        exact congrArg (fun read => Except.ok (some read)) same

/-- Quoting makes a text longer. -/
theorem length_lt_quote_json (text : String) : text.length < (quoteJson text).length := by
  have escaped : ∀ symbols : List Char, symbols.length ≤
      (symbols.flatMap fun symbol => (escapeJson symbol).toList).length := by
    intro symbols
    induction symbols with
    | nil => exact Nat.le_refl _
    | cons symbol rest ih =>
        have visible : 1 ≤ (escapeJson symbol).length := by
          unfold escapeJson
          split
          case h_8 =>
            split
            · rw [String.length_append, String.length_append, Nat.add_assoc]
              exact Nat.le_add_right_of_le (by decide)
            · simp
          all_goals decide
        rw [List.flatMap_cons, List.length_append, List.length_cons, String.length_toList]
        omega
  have inner := escaped text.toList
  rw [String.length_toList] at inner
  simp only [quoteJson, String.length_ofList, List.length_append]
  have quote : "\"".toList.length = 1 := rfl
  omega

/-- From the column neither a region nor its absence comes back. -/
theorem not_storable_varchar (column : database.region = varcharRegion) :
    ¬Storable database config := by
  intro storable
  have given := storable.region
  rw [column] at given
  cases preferred : config.preferredRegion with
  | none =>
      rw [preferred] at given
      cases given
  | some region =>
      rw [preferred] at given
      change varcharRegion (.string region) = _ at given
      unfold varcharRegion at given
      dsimp only at given
      split_ifs at given
      have same : quoteJson region = region := Option.some.inj (Except.ok.inj given)
      exact absurd (congrArg String.length same) (length_lt_quote_json region).ne'

end

/-- A configuration comes back exactly if it can be stored, which none can be in the documented
column, and the names that do for tags are those without a word of one letter. -/
theorem config_round_trip_iff (contents : TypeContents) (tables : CaseTables)
    (upper : UppercaseTable) {Capabilities : Type} (capabilities : Capabilities)
    (database : ConfigDatabase) :
    (∀ (configs : ProviderConfigs) (now : DateTime)
      (config : ProviderConfig (providerTypes contents tables upper capabilities)),
      config.name ∉ configs.table.rows.map ProviderRow.name →
      config.id ∉ configs.table.rows.map ProviderRow.id →
        (RoundTrips database configs now config ↔ Storable database config)) ∧
    (database.region = varcharRegion →
      ∀ config : ProviderConfig (providerTypes contents tables upper capabilities),
        ¬Storable database config) ∧
    ∀ (config : ProviderTypeConfig contents) (text : String),
      SameLetters text config.variant.name →
        (deserializeFromJson (providerTypes contents tables upper capabilities)
            (withType text config.toValue) = .ok config ↔
          config.variant ≠ .ec2 ∧ config.variant ≠ .azureVMs) :=
  ⟨fun _ _ _ unnamed absent => round_trips_iff rfl unnamed absent,
    fun column _ => not_storable_varchar column, fun config _ same =>
    deserialize_same_letters_iff contents tables upper capabilities config same⟩

/-! Variants without content, and the documented columns. -/

def plainContents : TypeContents where
  Content _ := Unit
  fields _ _ := []
  read _ _ := .ok ()
  untagged _ := "unknown variant"
  read_fields _ _ := rfl
  untyped _ _ _ member := absurd member List.not_mem_nil

def plainTypes : ProviderTypes :=
  providerTypes plainContents ProviderType.asciiTables .ofAscii ()

def varcharDatabase : ConfigDatabase where
  region := varcharRegion
  duplicateId := "duplicate key value violates unique constraint"
  columnTime time := time

def noConfigs : ProviderConfigs := ⟨⟨[], List.nodup_nil⟩, List.nodup_nil⟩

/-- A new provider. -/
def newProvider (providerType : ProviderType) (variant : TypeVariant) :
    ProviderConfig plainTypes where
  id := ⟨1⟩
  name := "provider"
  providerType := providerType
  status := .active
  capabilities := ()
  typeConfig := ⟨variant, ()⟩
  priority := 0
  maxWorkers := 10
  activeWorkers := 0
  createdAt := 0
  updatedAt := 0
  tags := []
  metadata := emptyMap
  preferredRegion := none
  allowedRegions := []
  requiredLabels := emptyMap
  annotations := emptyMap

/-- A provider for some regions only. -/
def regionalProvider : ProviderConfig plainTypes :=
  { newProvider .docker .docker with
    id := ⟨2⟩
    name := "docker-eu"
    tags := ["eu", "batch"]
    preferredRegion := some "eu-west-1"
    allowedRegions := ["eu-west-1", "eu-central-1"]
    requiredLabels := ⟨[("tier", "gold")], List.nodup_singleton _⟩
    annotations := ⟨[("team", "data"), ("cost-center", "42")], by decide⟩ }

def oneConfig : ProviderConfigs :=
  (noConfigs.save varcharDatabase.toDatabase none 0 (newProvider .kubernetes .kubernetes)).2

/-- All of the provider comes back but its region, which is in quotes. -/
theorem regional_provider_requoted :
    ((oneConfig.save varcharDatabase.toDatabase none 0
        (regionalProvider.bound varcharDatabase)).2.findById plainTypes none ⟨2⟩ =
          .ok (some { regionalProvider with preferredRegion := some "\"eu-west-1\"" }) ∧
      ¬RoundTrips varcharDatabase oneConfig 0 regionalProvider) ∧
      deserializeFromJson plainTypes (withType "DockER" (plainTypes.toValue ⟨.docker, ()⟩)) =
        .ok ⟨.docker, ()⟩ := by
  obtain ⟨exactly, column, tags⟩ := config_round_trip_iff plainContents ProviderType.asciiTables
    .ofAscii () varcharDatabase
  refine ⟨⟨by rfl, ?_⟩, (tags ⟨.docker, ()⟩ "DockER" (by decide)).mpr ⟨nofun, nofun⟩⟩
  exact (exactly oneConfig 0 regionalProvider (by decide) (by decide)).not.mpr
    (column rfl regionalProvider)

/-- A custom provider becomes one of Docker, and the name of a variant is refused as its tag. -/
theorem custom_provider_not_read_back :
    (((noConfigs.save varcharDatabase.toDatabase none 0
        ((newProvider (.custom "gpu") .custom).bound varcharDatabase)).2.findById plainTypes none
          ⟨1⟩).map (Option.map ProviderConfig.providerType) = .ok (some .docker) ∧
      ¬RoundTrips varcharDatabase noConfigs 0 (newProvider (.custom "gpu") .custom)) ∧
    SameLetters "EC2" TypeVariant.ec2.name ∧
      deserializeFromJson plainTypes (withType "EC2" (plainTypes.toValue ⟨.ec2, ()⟩)) =
        .error "Failed to deserialize provider config: unknown variant" := by
  have read : ((noConfigs.save varcharDatabase.toDatabase none 0
      ((newProvider (.custom "gpu") .custom).bound varcharDatabase)).2.findById plainTypes none
        ⟨1⟩).map (Option.map ProviderConfig.providerType) = .ok (some .docker) := by
    rfl
  refine ⟨⟨read, fun back => ?_⟩, by decide, by rfl⟩
  have found : (noConfigs.save varcharDatabase.toDatabase none 0
      ((newProvider (.custom "gpu") .custom).bound varcharDatabase)).2.findById plainTypes none
        ⟨1⟩ = .ok (some (newProvider (.custom "gpu") .custom)) := back.found
  rw [found] at read
  cases read

end HodeiJobs.Providers
