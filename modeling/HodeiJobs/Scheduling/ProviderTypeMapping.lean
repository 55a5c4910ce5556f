import HodeiJobs.Library.Runs
import HodeiJobs.Scheduling.Preference
import HodeiJobs.Scheduling.LruTtlCache

/-!
# Names of provider types

`ProviderTypeMapping` brings a name into the normal form of the preferences and looks that up. What
it has found is cached under the normal form, and looked for under the name as it was given.
-/

namespace HodeiJobs.Scheduling

open HodeiJobs.Library
open HodeiJobs.Workers (ProviderType)
open HodeiJobs.Sagas (Duration)

/-- Tables in which a white space is its own lower case. -/
structure NameTables extends TextTables where
  whitespace : ∀ symbol, isWhitespace symbol = true → characters.Settled symbol

def NameTables.case (tables : NameTables) : CaseTables := tables.characters.toCaseTables

def asciiNameTables : NameTables where
  toTextTables := asciiTables
  whitespace := by
    intro symbol white
    have other : symbol ≠ 'Σ' := by
      intro same
      subst same
      exact absurd white (by decide)
    change (if symbol = 'Σ' then ['σ'] else
      if symbol.toNat < 128 then [symbol.toLower] else [symbol]) = [symbol]
    rw [if_neg other]
    split_ifs with ascii
    · have every : ∀ code < 128, isWhitespace (Char.ofNat code) = true →
          (Char.ofNat code).toLower = Char.ofNat code := by decide
      have known := every symbol.toNat ascii
      rw [Char.ofNat_toNat] at known
      rw [known white]
    · rfl

/-! ## The mapping -/

def standardTypes : List (String × ProviderType) :=
  [("docker", .docker), ("kubernetes", .kubernetes), ("k8s", .kubernetes), ("kube", .kubernetes),
    ("lambda", .lambda), ("aws_lambda", .lambda), ("fargate", .fargate), ("aws_fargate", .fargate),
    ("cloudrun", .cloudRun), ("gcp_cloudrun", .cloudRun), ("container_apps", .containerApps),
    ("azure_container_apps", .containerApps), ("azure_functions", .azureFunctions), ("ec2", .ec2),
    ("aws_ec2", .ec2), ("compute_engine", .computeEngine), ("gcp_compute", .computeEngine),
    ("azure_vm", .azureVMs), ("azure_vms", .azureVMs), ("test", .test), ("bare_metal", .bareMetal),
    ("baremetal", .bareMetal)]

def aliasMappings : List (String × String) :=
  [("k8s", "kubernetes"), ("kube", "kubernetes"), ("aws-lambda", "lambda"),
    ("aws-fargate", "fargate"), ("gcp-cloudrun", "cloudrun"),
    ("azure-container-apps", "container_apps"), ("az-functions", "azure_functions"),
    ("aws-ec2", "ec2"), ("gcp-compute", "compute_engine"), ("azure-vm", "azure_vm"),
    ("baremetal", "bare_metal")]

/-- Each type under its name and under its text in lower case. A map is the list of what was
inserted, the latest first. -/
def buildTypeCache (tables : CaseTables) : List (String × ProviderType) :=
  standardTypes.foldl
    (fun cache named => (tables.toLowercase named.2.display, named.2) :: named :: cache) []

def buildAliases : List (String × String) :=
  aliasMappings.foldl (fun aliases mapping => mapping :: aliases) []

structure ProviderTypeMapping where
  typeCache : List (String × ProviderType)
  aliases : List (String × String)
  lookupCache : LruTtlCache String ProviderType

/-- The clock in the lookup, and in the insertion of what was found. -/
structure MatchReads where
  lookup : GetReads
  insertion : InsertReads String

namespace ProviderTypeMapping

def providerCacheTtl : Duration := .fromSecs 300

def providerCacheMaxEntries : Nat := 500

def new (tables : CaseTables) : ProviderTypeMapping where
  typeCache := buildTypeCache tables
  aliases := buildAliases
  lookupCache := .new providerCacheTtl providerCacheMaxEntries

/-- The type behind a name, with the form of the name under which it is cached. -/
def resolve (mapping : ProviderTypeMapping) (tables : CaseTables) (name : String) :
    Option (String × ProviderType) :=
  let normalized := (ProviderPreference.normalizeOptimized tables name).1
  match mapping.typeCache.lookup normalized with
  | some providerType => some (normalized, providerType)
  | none =>
      match (mapping.aliases.lookup normalized).bind fun canonical =>
          mapping.typeCache.lookup canonical with
      | some providerType => some (normalized, providerType)
      | none =>
          let lower := tables.toLowercase normalized
          if lower ≠ normalized then
            (mapping.typeCache.lookup lower).map fun providerType => (lower, providerType)
          else none

def matchProvider (mapping : ProviderTypeMapping) (tables : CaseTables) (reads : MatchReads)
    (name : String) : Option ProviderType × ProviderTypeMapping :=
  let cached := mapping.lookupCache.get reads.lookup name
  match cached.1 with
  | some providerType => (some providerType, { mapping with lookupCache := cached.2 })
  | none =>
      match mapping.resolve tables name with
      | some (key, providerType) =>
          (some providerType,
            { mapping with lookupCache := (cached.2.insert reads.insertion key providerType).2 })
      | none => (none, { mapping with lookupCache := cached.2 })

def clearCache (mapping : ProviderTypeMapping) : ProviderTypeMapping :=
  { mapping with lookupCache := mapping.lookupCache.clear }

end ProviderTypeMapping

inductive MappingCall where
  | matchProvider (reads : MatchReads) (name : String)
  | clearCache

def ProviderTypeMapping.step (tables : CaseTables) (mapping : ProviderTypeMapping) :
    MappingCall → ProviderTypeMapping
  | .matchProvider reads name => (mapping.matchProvider tables reads name).2
  | .clearCache => mapping.clearCache

/-! ## Normal forms -/

/-- The known names, in lower case, and the forms that they have. -/
def knownNames : List String :=
  ["k8s", "kube", "kuber", "docker", "containerd", "lambda", "aws-lambda", "ecs", "aws-ecs",
    "fargate", "aws-fargate", "ec2", "aws-ec2", "gke", "gcp-k8s", "cloudrun", "gcp-cloudrun",
    "container-apps", "azure-container-apps", "azure-functions", "az-functions", "azure-vm",
    "azure-vms"]

def knownForms : List String :=
  ["kubernetes", "docker", "lambda", "ecs", "fargate", "ec2", "cloudrun", "container_apps",
    "azure_functions", "azure_vm"]

def plainSymbol (symbol : Char) : Char := if symbol = ' ' || symbol = '-' then '_' else symbol

def plainForm (lower : String) : String := String.ofList (lower.toList.map plainSymbol)

def normalized (tables : CaseTables) (name : String) : String :=
  (ProviderPreference.normalizeOptimized tables name).1

section

variable (tables : CaseTables)

theorem normalized_cases (name : String) :
    ProviderPreference.isUuidFormat (tables.toLowercase name) = true ∧
        normalized tables name = tables.toLowercase name ∨
      tables.toLowercase name ∈ knownNames ∧ normalized tables name ∈ knownForms ∨
      ProviderPreference.isUuidFormat (tables.toLowercase name) = false ∧
        tables.toLowercase name ∉ knownNames ∧
        normalized tables name = plainForm (tables.toLowercase name) := by
  unfold normalized ProviderPreference.normalizeOptimized
  generalize tables.toLowercase name = lower
  dsimp only
  split_ifs with uuid
  · exact .inl ⟨uuid, rfl⟩
  · right
    split
    case h_24 =>
      refine .inr ⟨Bool.eq_false_iff.mpr uuid, ?_, rfl⟩
      simp_all [knownNames]
    all_goals exact .inl ⟨by decide, by decide⟩

theorem normalized_of_uuid {name : String}
    (uuid : ProviderPreference.isUuidFormat (tables.toLowercase name) = true) :
    normalized tables name = tables.toLowercase name := by
  unfold normalized ProviderPreference.normalizeOptimized
  exact congrArg Prod.fst (if_pos uuid)

/-- The text consists of ASCII characters that are no capital letters. -/
def isPlainAscii (text : String) : Bool :=
  text.toList.all fun symbol => symbol.toNat < 128 && symbol.toLower == symbol

theorem to_lowercase_ascii {text : String} (plain : isPlainAscii text = true) :
    tables.toLowercase text = text :=
  tables.to_lowercase_settled text (tables.settled_of_all_ascii plain)

theorem known_forms_fixed : ∀ form ∈ knownForms, isPlainAscii form = true ∧
    normalized ProviderType.asciiTables form = form := by decide

/-- Such a text has one normal form, whatever the tables. -/
theorem normalized_ascii (other : CaseTables) {text : String} (plain : isPlainAscii text = true) :
    normalized tables text = normalized other text := by
  unfold normalized ProviderPreference.normalizeOptimized
  rw [to_lowercase_ascii tables plain, to_lowercase_ascii other plain]

theorem plain_form_settled {lower : String}
    (settled : ∀ symbol ∈ lower.toList, tables.Settled symbol) :
    ∀ symbol ∈ (plainForm lower).toList, tables.Settled symbol := by
  intro symbol member
  rw [plainForm, String.toList_ofList] at member
  rcases List.mem_map.mp member with ⟨before, isBefore, isPlain⟩
  rw [← isPlain, plainSymbol]
  split_ifs
  · exact tables.settled_of_ascii (by decide) (by decide)
  · exact settled before isBefore

theorem to_lowercase_normalized (name : String) :
    tables.toLowercase (normalized tables name) = normalized tables name := by
  have lowered : ∀ symbol ∈ (tables.toLowercase name).toList, tables.Settled symbol := by
    rw [CaseTables.toLowercase, String.toList_ofList]
    exact tables.settled_of_mem_lower_from name.toList []
  rcases normalized_cases tables name with ⟨_, isForm⟩ | ⟨_, known⟩ | ⟨_, _, isForm⟩
  · rw [isForm]
    exact tables.to_lowercase_settled _ lowered
  · exact to_lowercase_ascii tables (known_forms_fixed _ known).1
  · rw [isForm]
    exact tables.to_lowercase_settled _ (plain_form_settled tables lowered)

/-- A dash stands in front of the ninth character of a UUID. -/
theorem dash_of_uuid_format {text : String}
    (uuid : ProviderPreference.isUuidFormat text = true) : '-' ∈ text.toList := by
  unfold ProviderPreference.isUuidFormat at uuid
  simp only [Bool.and_eq_true, beq_iff_eq] at uuid
  have inside : 8 < text.toList.length := by omega
  have dash := List.all_eq_true.mp uuid.2 (text.toList[8], 8)
    (List.mk_mem_zipIdx_iff_getElem?.mpr (List.getElem?_eq_getElem inside))
  have isDash : text.toList[8] = '-' := by simpa using dash
  rw [← isDash]
  exact List.getElem_mem inside

theorem plain_symbol_ne_dash (symbol : Char) : plainSymbol symbol ≠ '-' := by
  unfold plainSymbol
  split_ifs with replaced
  · decide
  · intro same
    subst same
    exact replaced (by decide)

theorem plain_symbol_idem (symbol : Char) :
    plainSymbol (plainSymbol symbol) = plainSymbol symbol := by
  rw [plainSymbol]
  split_ifs with replaced
  · unfold plainSymbol at replaced ⊢
    split_ifs at replaced ⊢ <;> simp_all
  · rfl

theorem plain_form_idem (lower : String) : plainForm (plainForm lower) = plainForm lower := by
  unfold plainForm
  rw [String.toList_ofList, List.map_map]
  congr 2
  funext symbol
  exact plain_symbol_idem symbol

/-- A form without underscores was not changed. -/
theorem plain_form_eq_self {lower : String} (plain : '_' ∉ (plainForm lower).toList) :
    plainForm lower = lower := by
  rw [plainForm, String.toList_ofList] at plain
  have each : lower.toList.map plainSymbol = lower.toList.map id := by
    apply List.map_congr_left
    intro symbol member
    rw [plainSymbol]
    split_ifs with replaced
    · have underscore : plainSymbol symbol = '_' := if_pos replaced
      exact absurd (List.mem_map.mpr ⟨symbol, member, underscore⟩) plain
    · rfl
  rw [plainForm, each, List.map_id, String.ofList_toList]

/-- A normal form is its own normal form. -/
theorem normalized_idem (name : String) :
    normalized tables (normalized tables name) = normalized tables name := by
  have lower := to_lowercase_normalized tables name
  rcases normalized_cases tables name with ⟨uuid, isForm⟩ | ⟨_, known⟩ | ⟨_, unknown, isForm⟩
  · rw [← isForm, ← lower] at uuid
    rw [normalized_of_uuid tables uuid, lower]
  · have isFixed := known_forms_fixed _ known
    rw [normalized_ascii tables ProviderType.asciiTables isFixed.1, isFixed.2]
  · have noDash : '-' ∉ (normalized tables name).toList := by
      rw [isForm, plainForm, String.toList_ofList]
      intro member
      rcases List.mem_map.mp member with ⟨symbol, _, isDash⟩
      exact plain_symbol_ne_dash symbol isDash
    rcases normalized_cases tables (normalized tables name) with
      ⟨uuid, _⟩ | ⟨known, _⟩ | ⟨_, _, again⟩
    · rw [lower] at uuid
      exact absurd (dash_of_uuid_format uuid) noDash
    · rw [lower, isForm] at known
      have plain : ∀ known ∈ knownNames, '_' ∉ known.toList := by decide
      rw [plain_form_eq_self (plain _ known)] at known
      exact absurd known unknown
    · rw [again, lower, isForm, plain_form_idem]

end

/-! ## What is found -/

/-- The types under their names and their texts, whatever the tables. -/
def staticTypes : List (String × ProviderType) :=
  standardTypes.foldl (fun cache named => (named.2.display, named.2) :: named :: cache) []

/-- The type behind a normal form. -/
def typeOf (form : String) : Option ProviderType :=
  match staticTypes.lookup form with
  | some providerType => some providerType
  | none => (buildAliases.lookup form).bind fun canonical => staticTypes.lookup canonical

/-- The standard names that are written with an underscore. -/
def underscoredNames : List String :=
  (standardTypes.map Prod.fst).filter fun name => name.toList.contains '_'

theorem build_type_cache_eq (tables : CaseTables) : buildTypeCache tables = staticTypes := by
  apply List.foldl_ext
  intro cache named member
  have plain : ∀ named ∈ standardTypes, isPlainAscii named.2.display = true := by decide
  rw [to_lowercase_ascii tables (plain named member)]

/-- The maps are those that were built. -/
def ProviderTypeMapping.Static (mapping : ProviderTypeMapping) : Prop :=
  mapping.typeCache = staticTypes ∧ mapping.aliases = buildAliases

theorem resolve_eq (tables : CaseTables) {mapping : ProviderTypeMapping} (static : mapping.Static)
    (name : String) :
    mapping.resolve tables name =
      (typeOf (normalized tables name)).map fun providerType =>
        (normalized tables name, providerType) := by
  have lower := to_lowercase_normalized tables name
  unfold normalized at lower
  unfold ProviderTypeMapping.resolve typeOf normalized
  dsimp only
  rw [static.1, static.2, lower]
  cases staticTypes.lookup (ProviderPreference.normalizeOptimized tables name).1 with
  | some providerType => rfl
  | none =>
      dsimp only
      cases (buildAliases.lookup (ProviderPreference.normalizeOptimized tables name).1).bind
          fun canonical => staticTypes.lookup canonical with
      | some providerType => rfl
      | none => exact if_neg (not_not_intro rfl)

/-- What a new mapping returns. -/
def typeNamed (tables : CaseTables) (name : String) : Option ProviderType :=
  typeOf (normalized tables name)

/-- The maps are as they were built, and what is cached is what would be found. -/
structure ProviderTypeMapping.Sound (tables : CaseTables) (mapping : ProviderTypeMapping) : Prop where
  static : mapping.Static
  cached : mapping.lookupCache.Holds id (typeNamed tables)

section

variable {tables : CaseTables} {mapping : ProviderTypeMapping}

theorem new_sound (tables : CaseTables) : (ProviderTypeMapping.new tables).Sound tables where
  static := ⟨build_type_cache_eq tables, rfl⟩
  cached := LruTtlCache.new_holds _ _ _

/-- A name is found where its normal form is, as the cache has it. -/
theorem type_named_of_resolve (sound : mapping.Sound tables) {name key : String}
    {providerType : ProviderType} (found : mapping.resolve tables name = some (key, providerType)) :
    typeNamed tables key = some providerType := by
  rw [resolve_eq tables sound.static] at found
  rcases Option.map_eq_some_iff.mp found with ⟨other, isType, same⟩
  cases same
  rw [typeNamed, normalized_idem]
  exact isType

theorem match_provider_eq (sound : mapping.Sound tables) (reads : MatchReads) (name : String) :
    (mapping.matchProvider tables reads name).1 = typeNamed tables name := by
  unfold ProviderTypeMapping.matchProvider
  dsimp only
  cases isCached : (mapping.lookupCache.get reads.lookup name).1 with
  | some providerType =>
      rw [LruTtlCache.get_value] at isCached
      exact (LruTtlCache.live_last sound.cached isCached).symm
  | none =>
      rw [resolve_eq tables sound.static, typeNamed]
      cases typeOf (normalized tables name) <;> rfl

theorem match_provider_sound (sound : mapping.Sound tables) (reads : MatchReads) (name : String) :
    (mapping.matchProvider tables reads name).2.Sound tables := by
  have kept := LruTtlCache.get_holds sound.cached reads.lookup name
  unfold ProviderTypeMapping.matchProvider
  dsimp only
  cases (mapping.lookupCache.get reads.lookup name).1 with
  | some providerType => exact ⟨sound.static, kept⟩
  | none =>
      dsimp only
      cases found : mapping.resolve tables name with
      | none => exact ⟨sound.static, kept⟩
      | some entry =>
          have isNew := type_named_of_resolve sound found
          exact ⟨sound.static,
            LruTtlCache.insert_holds kept reads.insertion entry.1 entry.2 isNew fun _ _ => rfl⟩

theorem step_sound (sound : mapping.Sound tables) (call : MappingCall) :
    (mapping.step tables call).Sound tables := by
  cases call with
  | matchProvider reads name => exact match_provider_sound sound reads name
  | clearCache =>
      constructor
      · exact sound.static
      · intro key entry found
        cases found

theorem run_sound (calls : List MappingCall) (sound : mapping.Sound tables) :
    (calls.foldl (ProviderTypeMapping.step tables) mapping).Sound tables := by
  have always := always_of_preserved (ProviderTypeMapping.step tables)
    (ProviderTypeMapping.Sound tables) (fun _ call sound => step_sound sound call) calls mapping sound
  exact always_final (ProviderTypeMapping.step tables) calls mapping always

end

/-! ## What the preference makes of the name -/

section

variable {tables : NameTables} {name : String} {providerType : ProviderType}

theorem mem_of_lookup {Value : Type} {rows : List (String × Value)} {key : String} {value : Value}
    (found : rows.lookup key = some value) : (key, value) ∈ rows := by
  rcases List.lookup_eq_some_iff.mp found with ⟨before, after, split, _⟩
  rw [split]
  exact List.mem_append_right _ List.mem_cons_self

theorem plain_aliases : ∀ row ∈ buildAliases, isPlainAscii row.1 = true := by decide

/-- The aliases that are normal forms are names of the types as well. -/
theorem static_of_named (found : typeNamed tables.case name = some providerType) :
    (normalized tables.case name, providerType) ∈ staticTypes := by
  have fixed := normalized_idem tables.case name
  rw [typeNamed] at found
  generalize normalized tables.case name = form at found fixed
  unfold typeOf at found
  cases isStatic : staticTypes.lookup form with
  | some other =>
      rw [isStatic] at found
      cases found
      exact mem_of_lookup isStatic
  | none =>
      rw [isStatic] at found
      rcases Option.bind_eq_some_iff.mp found with ⟨canonical, isAlias, _⟩
      have member := mem_of_lookup isAlias
      have known : ∀ row ∈ buildAliases, normalized ProviderType.asciiTables row.1 = row.1 →
          staticTypes.lookup row.1 ≠ none := by decide
      rw [normalized_ascii tables.case ProviderType.asciiTables (plain_aliases _ member)] at fixed
      exact absurd isStatic (known _ member fixed)

/-- A white space at an end of the name would stand, or be replaced, at that end of the form. -/
theorem no_white_edge (edge : List Char → Option Char)
    (natural : ∀ text, edge (text.map plainSymbol) = (edge text).map plainSymbol)
    (knownEdge : ∀ known ∈ knownNames,
      (edge known.toList).all (fun symbol => !isWhitespace symbol) = true)
    (staticEdge : ∀ row ∈ staticTypes,
      (edge row.1.toList).all (fun symbol => !isWhitespace symbol && symbol != '_') = true)
    (found : typeNamed tables.case name = some providerType) {symbol : Char}
    (isEdge : edge (tables.case.toLowercase name).toList = some symbol) :
    isWhitespace symbol = false := by
  have ends : ∀ symbol, edge (normalized tables.case name).toList = some symbol →
      isWhitespace symbol = false ∧ symbol ≠ '_' := by
    intro symbol isEdge
    have static := staticEdge _ (static_of_named found)
    simpa [isEdge] using static
  rcases normalized_cases tables.case name with ⟨_, isForm⟩ | ⟨known, _⟩ | ⟨_, _, isForm⟩
  · rw [isForm] at ends
    exact (ends symbol isEdge).1
  · have plain := knownEdge _ known
    simpa [isEdge] using plain
  · have replaced : edge (normalized tables.case name).toList = some (plainSymbol symbol) := by
      rw [isForm, plainForm, String.toList_ofList, natural, isEdge, Option.map_some]
    have kept := ends _ replaced
    rw [plainSymbol] at kept
    split_ifs at kept with changed
    · exact absurd rfl kept.2
    · exact kept.1

theorem trim_named (found : typeNamed tables.case name = some providerType) :
    trim name = name := by
  apply trim_eq_self
  · intro symbol isFirst
    by_contra isWhite
    have white := Bool.not_eq_false _ ▸ isWhite
    rcases List.head?_eq_some_iff.mp isFirst with ⟨rest, split⟩
    have settled : ∀ other ∈ [symbol], tables.case.Settled other := by
      intro other member
      rw [List.mem_singleton.mp member]
      exact tables.whitespace symbol white
    have lower : (tables.case.toLowercase name).toList.head? = some symbol := by
      rw [CaseTables.toLowercase, String.toList_ofList, split, ← List.singleton_append,
        tables.case.lower_from_settled_append [symbol] rest [] settled]
      rfl
    have notWhite := no_white_edge List.head? (fun _ => List.head?_map) (by decide)
      (by decide) found lower
    exact isWhite notWhite
  · intro symbol isLast
    by_contra isWhite
    have white := Bool.not_eq_false _ ▸ isWhite
    rcases List.getLast?_eq_some_iff.mp isLast with ⟨front, split⟩
    have lower : (tables.case.toLowercase name).toList.getLast? = some symbol := by
      rw [CaseTables.toLowercase, String.toList_ofList, split]
      rcases tables.case.lower_from_concat front [] (tables.whitespace symbol white) with
        ⟨lowered, isLowered⟩
      rw [isLowered]
      exact List.getLast?_concat
    have notWhite := no_white_edge List.getLast? (fun _ => List.getLast?_map) (by decide)
      (by decide) found lower
    exact isWhite notWhite

theorem preference_of_named (found : typeNamed tables.case name = some providerType) :
    ProviderPreference.new tables.toTextTables name =
      .ok ⟨normalized tables.case name, name, false, none⟩ := by
  have nonempty : name ≠ "" := by
    intro empty
    have unknown : typeOf (normalized ProviderType.asciiTables "") = none := by decide
    rw [empty, typeNamed, normalized_ascii tables.case ProviderType.asciiTables (by decide),
      unknown] at found
    cases found
  have noUuid : ¬ProviderPreference.isUuidFormat (tables.case.toLowercase name) = true := by
    intro uuid
    have named : ∀ row ∈ staticTypes, ProviderPreference.isUuidFormat row.1 = false := by decide
    have other := named _ (static_of_named found)
    rw [normalized_of_uuid tables.case uuid, uuid] at other
    cases other
  unfold ProviderPreference.new
  dsimp only
  rw [trim_named found, if_neg nonempty]
  exact if_neg noUuid

/-- A type that is found under a name is one that the preference of the name matches. -/
def PreferenceMatches (tables : NameTables) (name : String) (providerType : ProviderType) : Prop :=
  ∃ preference, ProviderPreference.new tables.toTextTables name = .ok preference ∧
    preference.matchesProviderType providerType = true

/-- The standard names that are abbreviations are no normal forms. -/
theorem abbreviation_not_normalized (name : String) :
    normalized tables.case name ∉ ["k8s", "kube"] := by
  intro short
  have fixed := normalized_idem tables.case name
  have other : ∀ short ∈ ["k8s", "kube"], isPlainAscii short = true ∧
      normalized ProviderType.asciiTables short ≠ short := by decide
  have written := other _ short
  rw [normalized_ascii tables.case ProviderType.asciiTables written.1] at fixed
  exact written.2 fixed

/-- The name of a type is one word: a name with an underscore is no part of it. -/
theorem static_inside_iff : ∀ row ∈ staticTypes, row.1 ∉ ["k8s", "kube"] →
    (row.1.toList <:+: row.2.name.toList ↔ row.1 ∉ underscoredNames) := by decide

theorem preference_matches_iff (found : typeNamed tables.case name = some providerType) :
    PreferenceMatches tables name providerType ↔
      normalized tables.case name ∉ underscoredNames := by
  have inside := ProviderPreference.matches_provider_type_iff
    ⟨normalized tables.case name, name, false, none⟩ providerType
  have isPreference := preference_of_named found
  have static := static_inside_iff _ (static_of_named found) (abbreviation_not_normalized name)
  dsimp only at inside static
  rw [← static, ← inside]
  constructor
  · intro ⟨preference, isNew, matched⟩
    rw [isPreference] at isNew
    rw [Except.ok.inj isNew]
    exact matched
  · intro matched
    exact ⟨_, isPreference, matched⟩

theorem underscored_named (underscored : normalized tables.case name ∈ underscoredNames) :
    ∃ providerType, typeNamed tables.case name = some providerType := by
  have every : ∀ name ∈ underscoredNames, (typeOf name).isSome = true := by decide
  exact Option.isSome_iff_exists.mp (every _ underscored)

end

/-- Whenever the mapping is asked for the name, it returns what a new mapping returns, and if that
is a type, the preference of the name matches it. -/
def Agrees (tables : NameTables) (mapping : ProviderTypeMapping) (name : String) : Prop :=
  ∀ reads, (∀ other, (mapping.matchProvider tables.case reads name).1 =
      ((ProviderTypeMapping.new tables.case).matchProvider tables.case other name).1) ∧
    ∀ providerType, (mapping.matchProvider tables.case reads name).1 = some providerType →
      PreferenceMatches tables name providerType

/-- After any calls, the two ways to read a name agree on it exactly if its normal form is none of
the standard names that are written with an underscore. -/
theorem agrees_iff_not_underscored (tables : NameTables) (calls : List MappingCall)
    (name : String) :
    Agrees tables (calls.foldl (ProviderTypeMapping.step tables.case) (.new tables.case)) name ↔
      (ProviderPreference.normalizeOptimized tables.case name).1 ∉ underscoredNames := by
  have sound := run_sound calls (new_sound tables.case)
  constructor
  · intro agrees underscored
    rcases underscored_named underscored with ⟨providerType, found⟩
    have reads : MatchReads := ⟨⟨0, 0, 0⟩, ⟨0, fun _ => 0⟩⟩
    have matched := (agrees reads).2 providerType
      ((match_provider_eq sound reads name).trans found)
    exact (preference_matches_iff found).mp matched underscored
  · intro other reads
    rw [match_provider_eq sound reads name]
    constructor
    · intro freshReads
      exact (match_provider_eq (new_sound tables.case) freshReads name).symm
    · intro providerType found
      exact (preference_matches_iff found).mpr other

/-- `container-apps` is found by the mapping, and not by the preference. -/
theorem container_apps_disagree :
    ¬Agrees asciiNameTables (.new asciiNameTables.case) "container-apps" := by
  intro agrees
  have found : ((ProviderTypeMapping.new asciiNameTables.case).matchProvider asciiNameTables.case
      ⟨⟨0, 0, 0⟩, ⟨0, fun _ => 0⟩⟩ "container-apps").1 = some .containerApps := by decide
  rcases (agrees ⟨⟨0, 0, 0⟩, ⟨0, fun _ => 0⟩⟩).2 .containerApps found with
    ⟨preference, isNew, matched⟩
  have isPreference : ProviderPreference.new asciiNameTables.toTextTables "container-apps" =
      .ok ⟨"container_apps", "container-apps", false, none⟩ := by decide
  rw [isPreference] at isNew
  cases isNew
  exact absurd matched (by decide)

end HodeiJobs.Scheduling
