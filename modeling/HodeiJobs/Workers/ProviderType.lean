import HodeiJobs.Library.Text
import HodeiJobs.Sagas.Types

/-!
# The text of a provider type

`Display` writes the name of a custom provider as it stands; `FromStr` puts the whole
text in lower case and takes the tag away as often as it stands at the front.
-/

namespace HodeiJobs.Workers

open HodeiJobs.Library
open HodeiJobs.Sagas (Json)

inductive ProviderType where
  | docker
  | kubernetes
  | fargate
  | cloudRun
  | containerApps
  | lambda
  | cloudFunctions
  | azureFunctions
  | ec2
  | computeEngine
  | azureVMs
  | test
  | bareMetal
  | custom (name : String)
  deriving DecidableEq, Repr

namespace ProviderType

def name : ProviderType → String
  | docker => "docker"
  | kubernetes => "kubernetes"
  | fargate => "fargate"
  | cloudRun => "cloudrun"
  | containerApps => "containerapps"
  | lambda => "lambda"
  | cloudFunctions => "cloudfunctions"
  | azureFunctions => "azurefunctions"
  | ec2 => "ec2"
  | computeEngine => "computeengine"
  | azureVMs => "azurevms"
  | test => "test"
  | bareMetal => "baremetal"
  | custom _ => "custom"

/-- `Display::fmt`. -/
def display : ProviderType → String
  | docker => "docker"
  | kubernetes => "kubernetes"
  | fargate => "fargate"
  | cloudRun => "cloudrun"
  | containerApps => "containerapps"
  | lambda => "lambda"
  | cloudFunctions => "cloudfunctions"
  | azureFunctions => "azurefunctions"
  | ec2 => "ec2"
  | computeEngine => "computeengine"
  | azureVMs => "azurevms"
  | test => "test"
  | bareMetal => "baremetal"
  | custom name => "custom:" ++ name

def customTag : List Char := "custom:".toList

/-- `FromStr::from_str`; the error says nothing. -/
def fromStr (tables : CaseTables) (text : String) : Except Unit ProviderType :=
  match tables.toLowercase text with
  | "docker" => .ok docker
  | "kubernetes" | "k8s" => .ok kubernetes
  | "fargate" => .ok fargate
  | "cloudrun" => .ok cloudRun
  | "containerapps" => .ok containerApps
  | "lambda" => .ok lambda
  | "cloudfunctions" => .ok cloudFunctions
  | "azurefunctions" => .ok azureFunctions
  | "ec2" => .ok ec2
  | "computeengine" => .ok computeEngine
  | "azurevms" => .ok azureVMs
  | "test" => .ok test
  | "baremetal" | "bare_metal" => .ok bareMetal
  | other =>
      if customTag <+: other.toList then
        .ok (custom (String.ofList (trimStartMatches customTag other.toList)))
      else if other = "custom" then .ok (custom "unknown")
      else .error ()

/-- The errors of the JSON reader that a visitor of texts can give. -/
inductive ReadError where
  | unknownVariant (variant : String) (expected : List String)
  | invalidType (unexpected : Json) (expected : String)

def variants : List String :=
  ["docker", "kubernetes", "fargate", "cloudrun", "containerapps", "lambda", "cloudfunctions",
    "azurefunctions", "ec2", "computeengine", "azurevms", "test", "baremetal", "custom"]

def serialize (value : ProviderType) : Json := .string value.display

/-- `Deserialize::deserialize`: the visitor takes nothing but a text. -/
def deserialize (tables : CaseTables) : Json → Except ReadError ProviderType
  | .string text => (fromStr tables text).mapError fun _ => .unknownVariant text variants
  | other => .error (.invalidType other "a provider type string (e.g., 'docker', 'kubernetes')")

/-! ## What is written -/

theorem custom_tag_ne_nil : customTag ≠ [] := by decide

theorem display_custom_to_list (name : String) :
    (custom name).display.toList = customTag ++ name.toList := String.toList_append

/-- Only a custom provider is written with the tag in front. -/
theorem custom_of_tagged (value : ProviderType) (tagged : customTag <+: value.display.toList) :
    ∃ name, value = custom name := by
  cases value with
  | custom name => exact ⟨name, rfl⟩
  | _ => exact absurd tagged (by decide)

theorem display_custom_inj (value : ProviderType) (name : String)
    (same : value.display = (custom name).display) : value = custom name := by
  have tagged : customTag <+: value.display.toList := by
    rw [same, display_custom_to_list]
    exact List.prefix_append _ _
  obtain ⟨other, custom⟩ := custom_of_tagged value tagged
  subst custom
  have names : customTag ++ other.toList = customTag ++ name.toList := by
    rw [← display_custom_to_list, ← display_custom_to_list, same]
  rw [String.toList_inj.mp (List.append_cancel_left names)]

/-- Two providers are never written alike. -/
theorem display_injective (left right : ProviderType) (same : left.display = right.display) :
    left = right := by
  cases right with
  | custom name => exact display_custom_inj left name same
  | _ =>
    cases left with
    | custom name => exact (display_custom_inj _ name same.symm).symm
    | _ => first | rfl | exact absurd same (by decide)

/-! ## What is read -/

/-- A text that has the tag in front once it is in lower case is a custom provider. -/
theorem from_str_tagged (tables : CaseTables) (text : String)
    (tagged : customTag <+: (tables.toLowercase text).toList) :
    fromStr tables text =
      .ok (custom (String.ofList
        (trimStartMatches customTag (tables.toLowercase text).toList))) := by
  unfold fromStr
  generalize tables.toLowercase text = lower at tagged
  split
  case h_16 => exact if_pos tagged
  all_goals exact absurd tagged (by decide)

theorem to_lowercase_display_custom (tables : CaseTables) (name : String) :
    (tables.toLowercase (custom name).display).toList =
      customTag ++ tables.lowerFrom customTag.reverse name.toList := by
  have settled : ∀ symbol ∈ customTag, tables.Settled symbol :=
    tables.settled_of_all_ascii (by decide)
  unfold CaseTables.toLowercase
  rw [String.toList_ofList, display_custom_to_list,
    tables.lower_from_settled_append customTag name.toList [] settled, List.append_nil]

theorem from_str_display_custom (tables : CaseTables) (name : String) :
    fromStr tables (custom name).display =
      .ok (custom (String.ofList
        (trimStartMatches customTag (tables.lowerFrom customTag.reverse name.toList)))) := by
  have lower := to_lowercase_display_custom tables name
  rw [from_str_tagged tables _ (by rw [lower]; exact List.prefix_append _ _), lower,
    trim_append custom_tag_ne_nil]

/-- The text of a provider with a name of its own stays as it is in lower case. -/
theorem from_str_display_named (tables : CaseTables) (value : ProviderType)
    (named : ∀ name, value ≠ custom name) : fromStr tables value.display = .ok value := by
  have settled : ∀ symbol ∈ value.display.toList, tables.Settled symbol := by
    apply tables.settled_of_all_ascii
    cases value with
    | custom name => exact absurd rfl (named name)
    | _ => decide
  unfold fromStr
  rw [tables.to_lowercase_settled value.display settled]
  cases value with
  | custom name => exact absurd rfl (named name)
  | _ => rfl

/-- The name is in lower case and does not begin with the tag itself. -/
def NameKept (tables : CaseTables) : ProviderType → Prop
  | custom name => (∀ symbol ∈ name.toList, tables.Settled symbol) ∧ ¬customTag <+: name.toList
  | _ => True

theorem from_str_display_custom_iff (tables : CaseTables) (name : String) :
    fromStr tables (custom name).display = .ok (custom name) ↔
      NameKept tables (custom name) := by
  rw [from_str_display_custom]
  constructor
  · intro same
    have kept : trimStartMatches customTag (tables.lowerFrom customTag.reverse name.toList) =
        name.toList := by
      have names : String.ofList
          (trimStartMatches customTag (tables.lowerFrom customTag.reverse name.toList)) = name := by
        simpa using same
      have texts := congrArg String.toList names
      rwa [String.toList_ofList] at texts
    constructor
    · intro symbol member
      rw [← kept] at member
      have read := (trim_suffix customTag _).subset member
      exact tables.settled_of_mem_lower_from _ _ symbol read
    · have trimmed := not_prefix_trim custom_tag_ne_nil
        (tables.lowerFrom customTag.reverse name.toList)
      rwa [kept] at trimmed
  · intro kept
    rw [tables.lower_from_settled name.toList _ kept.1, trim_of_not_prefix kept.2,
      String.ofList_toList]

theorem from_str_display_iff (tables : CaseTables) (value : ProviderType) :
    fromStr tables value.display = .ok value ↔ NameKept tables value := by
  by_cases owned : ∃ name, value = custom name
  · obtain ⟨name, same⟩ := owned
    subst same
    exact from_str_display_custom_iff tables name
  · have named : ∀ name, value ≠ custom name := fun name same => owned ⟨name, same⟩
    have kept : NameKept tables value := by
      cases value with
      | custom name => exact absurd rfl (named name)
      | _ => trivial
    exact iff_of_true (from_str_display_named tables value named) kept

theorem deserialize_serialize_iff (tables : CaseTables) (value : ProviderType) :
    deserialize tables (serialize value) = .ok value ↔
      fromStr tables value.display = .ok value := by
  simp only [serialize, deserialize]
  cases fromStr tables value.display with
  | ok read => simp [Except.mapError]
  | error _ => simp [Except.mapError]

/-- What is written is read back as the same value, by `FromStr` and by the JSON
reader, and texts that are read as values written alike are read alike. -/
def ReadsBack (tables : CaseTables) (value : ProviderType) : Prop :=
  fromStr tables value.display = .ok value ∧
    deserialize tables (serialize value) = .ok value ∧
    ∀ text other, (fromStr tables text).map display = .ok value.display →
      (fromStr tables other).map display = .ok value.display →
        fromStr tables text = fromStr tables other

theorem from_str_of_display (tables : CaseTables) (value : ProviderType) (text : String)
    (shown : (fromStr tables text).map display = .ok value.display) :
    fromStr tables text = .ok value := by
  cases read : fromStr tables text with
  | error _ => simp [read, Except.map] at shown
  | ok found =>
    have same : found.display = value.display := by simpa [read, Except.map] using shown
    rw [display_injective found value same]

/-- A provider is read back exactly when it has a name of its own, or a custom name
in lower case that does not begin with the tag. -/
theorem reads_back_iff_name_kept (tables : CaseTables) (value : ProviderType) :
    ReadsBack tables value ↔ NameKept tables value := by
  constructor
  · intro back
    exact (from_str_display_iff tables value).mp back.1
  · intro kept
    have read := (from_str_display_iff tables value).mpr kept
    refine ⟨read, (deserialize_serialize_iff tables value).mpr read, ?_⟩
    intro text other shown also
    rw [from_str_of_display tables value text shown, from_str_of_display tables value other also]

theorem to_lower_ascii (symbol : Char) (ascii : symbol.toNat < 128) :
    symbol.toLower.toNat < 128 ∧ symbol.toLower.toLower = symbol.toLower := by
  have every : ∀ code < 128, (Char.ofNat code).toLower.toNat < 128 ∧
      (Char.ofNat code).toLower.toLower = (Char.ofNat code).toLower := by decide
  have known := every symbol.toNat ascii
  rwa [Char.ofNat_toNat] at known

/-- Case tables of the ASCII letters and of the sigma alone. -/
def asciiTables : CaseTables where
  lower symbol :=
    if symbol = 'Σ' then ['σ'] else if symbol.toNat < 128 then [symbol.toLower] else [symbol]
  cased symbol := symbol.isAlpha
  caseIgnorable symbol := symbol == ':' || symbol == '.' || symbol == '\''
  ascii := by
    intro symbol ascii
    have other : symbol ≠ 'Σ' := by
      intro same
      subst same
      exact absurd ascii (by decide)
    rw [if_neg other, if_pos ascii]
  settled := by
    intro symbol small member
    have lowered : small ≠ 'Σ' ∧ (small.toNat < 128 → small.toLower = small) := by
      split_ifs at member with capital ascii
      · rw [List.mem_singleton.mp member]
        exact ⟨by decide, by decide⟩
      · have known := to_lower_ascii symbol ascii
        rw [List.mem_singleton.mp member]
        refine ⟨?_, fun _ => known.2⟩
        intro same
        rw [same] at known
        exact absurd known.1 (by decide)
      · rw [List.mem_singleton.mp member]
        exact ⟨capital, fun small => absurd small ascii⟩
    rw [if_neg lowered.1]
    split_ifs with ascii
    · rw [lowered.2 ascii]
    · rfl
  sigma := rfl
  finalSigma := rfl

theorem capital_name_is_not_read_back :
    ¬ReadsBack asciiTables (.custom "MyCloud") := by
  intro back
  exact absurd back.1 (by decide)

end ProviderType

end HodeiJobs.Workers
