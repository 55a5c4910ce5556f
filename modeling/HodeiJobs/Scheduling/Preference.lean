import HodeiJobs.Dispatch.Dispatchers
import HodeiJobs.Workers.ProviderType

/-!
# Provider preferences

What a job says about its provider is a UUID, or a name that is brought into a normal
form and then looked for inside the names of the provider types.
-/

namespace HodeiJobs.Scheduling

open HodeiJobs.Library
open HodeiJobs.Workers (ProviderType)
open HodeiJobs.Dispatch (ProviderId)
open HodeiJobs.Execution (UuidText)

structure ProviderPreference where
  normalized : String
  original : String
  isProviderId : Bool
  matchedProviderId : Option ProviderId
  deriving DecidableEq

inductive ProviderPreferenceError where
  | empty
  | invalidCharacters (chars : String)
  deriving DecidableEq

/-- What the standard library knows of characters, and the text of a UUID. -/
structure TextTables where
  characters : CharTables
  uuids : UuidText

/-- The tables of ASCII; no UUID is written or read with them. -/
def asciiTables : TextTables where
  characters :=
    { ProviderType.asciiTables with
      alphanumeric := Char.isAlphanum
      asciiAlphanumeric := fun _ _ => rfl }
  uuids :=
    { display := fun id => String.ofList (List.replicate id '0')
      parse := fun text => some text.length
      parse_display := fun id => by rw [String.length_ofList, List.length_replicate] }

namespace ProviderPreference

/-- `8-4-4-4-12` hexadecimal digits; the length is one of bytes. -/
def isUuidFormat (text : String) : Bool :=
  text.utf8ByteSize == 36 && text.toList.length == 36 &&
    text.toList.zipIdx.all fun (symbol, index) =>
      if index = 8 || index = 13 || index = 18 || index = 23 then symbol == '-'
      else isAsciiHexDigit symbol

/-- The normal form, and whether the name is a known alias. -/
def normalizeOptimized (tables : CaseTables) (input : String) : String × Bool :=
  let lower := tables.toLowercase input
  if isUuidFormat lower then (lower, false)
  else
    match lower with
    | "k8s" | "kube" | "kuber" => ("kubernetes", true)
    | "docker" | "containerd" => ("docker", true)
    | "lambda" | "aws-lambda" => ("lambda", true)
    | "ecs" | "aws-ecs" => ("ecs", true)
    | "fargate" | "aws-fargate" => ("fargate", true)
    | "ec2" | "aws-ec2" => ("ec2", true)
    | "gke" | "gcp-k8s" => ("kubernetes", true)
    | "cloudrun" | "gcp-cloudrun" => ("cloudrun", true)
    | "container-apps" | "azure-container-apps" => ("container_apps", true)
    | "azure-functions" | "az-functions" => ("azure_functions", true)
    | "azure-vm" | "azure-vms" => ("azure_vm", true)
    | other =>
        let plain := fun symbol => if symbol = ' ' || symbol = '-' then '_' else symbol
        (String.ofList (other.toList.map plain), false)

def new (tables : TextTables) (input : String) :
    Except ProviderPreferenceError ProviderPreference :=
  let trimmed := trim input
  if trimmed = "" then .error .empty
  else
    let lower := tables.characters.toLowercase trimmed
    let named : ProviderPreference :=
      ⟨(normalizeOptimized tables.characters.toCaseTables trimmed).1, trimmed, false, none⟩
    if isUuidFormat lower then
      match tables.uuids.parse lower with
      | some uuid => .ok ⟨lower, trimmed, true, some ⟨uuid⟩⟩
      | none => .ok named
    else .ok named

/-- The second of the two substring tests repeats the first. -/
def matchesProviderType (preference : ProviderPreference) (providerType : ProviderType) : Bool :=
  let providerName := providerType.name
  if preference.normalized = providerName then true
  else if preference.normalized.toList <:+: providerName.toList then true
  else if 3 ≤ preference.normalized.utf8ByteSize ∧
      preference.normalized.toList <:+: providerName.toList then true
  else false

def matchesProviderId (uuids : UuidText) (preference : ProviderPreference)
    (providerId : ProviderId) : Bool :=
  match preference.isProviderId, preference.matchedProviderId with
  | true, some matched => matched == providerId
  | _, _ => uuids.display providerId.uuid == preference.normalized

/-- A name matches the types whose name contains it. -/
theorem matches_provider_type_iff (preference : ProviderPreference)
    (providerType : ProviderType) :
    preference.matchesProviderType providerType = true ↔
      preference.normalized.toList <:+: providerType.name.toList := by
  unfold matchesProviderType
  constructor
  · intro matched
    dsimp only at matched
    split_ifs at matched with same inside again
    · rw [same]
    · exact inside
    · exact again.2
  · intro inside
    simp [inside]

end ProviderPreference

end HodeiJobs.Scheduling
