import HodeiJobs.Execution.Repositories
import HodeiJobs.WorkerAgent.Secrets

/-!
# Writing and reading values

The accessors of `serde_json::Value`, and what `to_value` and `from_value` make of the
types of event fields.
-/

namespace HodeiJobs.Sagas.Json

/-- `Value::get`. -/
def get : Json → String → Option Json
  | .object entries, key => JsonMap.get entries key
  | _, _ => none

/-- `value[key]`. -/
def index (value : Json) (key : String) : Json := (value.get key).getD .null

def asStr : Json → Option String
  | .string text => some text
  | _ => none

def asBool : Json → Option Bool
  | .bool value => some value
  | _ => none

def asArray : Json → Option (List Json)
  | .array items => some items
  | _ => none

def asObject : Json → Option JsonMap
  | .object entries => some entries
  | _ => none

end HodeiJobs.Sagas.Json

namespace HodeiJobs.Outbox

open HodeiJobs.Library
open HodeiJobs.Execution (UuidText)
open HodeiJobs.Sagas (Json JsonMap Uuid DateTime)
open HodeiJobs.Shared (JobState WorkerState)
open HodeiJobs.WorkerAgent.Secrets (StringMap)

/-- A type that is written as a value other than null and read back. -/
structure Serde (Value : Type) where
  toValue : Value → Json
  fromValue : Json → Option Value
  from_to_value : ∀ value, fromValue (toValue value) = some value
  from_null : fromValue .null = none

/-- RFC 3339 as `chrono` writes it, and its two readers. -/
structure TimeText where
  display : DateTime → String
  parse : String → Option DateTime
  parseFromRfc3339 : String → Option DateTime
  parse_display : ∀ time, parse (display time) = some time
  parse_from_rfc3339_display : ∀ time, parseFromRfc3339 (display time) = some time

namespace Serde

variable {Value : Type}

def text : Serde String where
  toValue := .string
  fromValue := Json.asStr
  from_to_value _ := rfl
  from_null := rfl

def bool : Serde Bool where
  toValue := .bool
  fromValue := Json.asBool
  from_to_value _ := rfl
  from_null := rfl

/-- An integer between two bounds. A number with a fraction is refused, even if it is zero. -/
def bounded (least greatest : Int) (toInt : Value → Int) (ofInt : Int → Value)
    (bounds : ∀ value, least ≤ toInt value ∧ toInt value ≤ greatest)
    (ofToInt : ∀ value, ofInt (toInt value) = value) : Serde Value where
  toValue value := .integer (toInt value)
  fromValue
    | .integer value =>
        if least ≤ value ∧ value ≤ greatest then some (ofInt value) else none
    | _ => none
  from_to_value value := by
    simp only [if_pos (bounds value), ofToInt]
  from_null := rfl

theorem u64_bounds (value : UInt64) :
    0 ≤ (value.toNat : Int) ∧ (value.toNat : Int) ≤ 18446744073709551615 := by
  have bound := value.toNat_lt
  omega

theorem u32_bounds (value : UInt32) :
    0 ≤ (value.toNat : Int) ∧ (value.toNat : Int) ≤ 4294967295 := by
  have bound := value.toNat_lt
  omega

theorem i32_bounds (value : Int32) :
    -2147483648 ≤ value.toInt ∧ value.toInt ≤ 2147483647 := by
  have least := value.le_toInt
  have greatest := value.toInt_lt
  omega

/-- `u64`, and `usize` on a 64-bit target. Its reader is `as_u64` too. -/
def u64 : Serde UInt64 :=
  bounded 0 18446744073709551615 (fun value => value.toNat) (fun value => .ofNat value.toNat)
    u64_bounds fun _ => UInt64.ofNat_toNat

def u32 : Serde UInt32 :=
  bounded 0 4294967295 (fun value => value.toNat) (fun value => .ofNat value.toNat)
    u32_bounds fun _ => UInt32.ofNat_toNat

def i32 : Serde Int32 :=
  bounded (-2147483648) 2147483647 Int32.toInt Int32.ofInt i32_bounds fun _ => Int32.ofInt_toInt _

def uuid (uuids : UuidText) : Serde Uuid where
  toValue id := .string (uuids.display id)
  fromValue value := value.asStr.bind uuids.parse
  from_to_value := uuids.parse_display
  from_null := rfl

def time (times : TimeText) : Serde DateTime where
  toValue time := .string (times.display time)
  fromValue value := value.asStr.bind times.parse
  from_to_value := times.parse_display
  from_null := rfl

/-- A derived enumeration without fields: the name of the variant. -/
def variant (variants : List Value) (name : Value → String)
    (named : ∀ value, variants.find? (fun other => name other == name value) = some value) :
    Serde Value where
  toValue value := .string (name value)
  fromValue
    | .string text => variants.find? fun other => name other == text
    | .object [(text, .null)] => variants.find? fun other => name other == text
    | _ => none
  from_to_value := named
  from_null := rfl

theorem to_value_ne_null (serde : Serde Value) (value : Value) : serde.toValue value ≠ .null := by
  intro null
  have read := serde.from_to_value value
  rw [null, serde.from_null] at read
  cases read

/-- `to_value` of an option. -/
def optional (serde : Serde Value) : Option Value → Json
  | none => .null
  | some value => serde.toValue value

/-- `from_value` of an option. -/
def fromOptional (serde : Serde Value) : Json → Option (Option Value)
  | .null => some none
  | value => (serde.fromValue value).map some

theorem from_optional_of_ne_null (serde : Serde Value) {value : Json} (notNull : value ≠ .null) :
    serde.fromOptional value = (serde.fromValue value).map some := by
  cases value with
  | null => exact absurd rfl notNull
  | bool _ | integer _ | decimal _ | string _ | array _ | object _ => rfl

theorem from_optional_optional (serde : Serde Value) (value : Option Value) :
    serde.fromOptional (serde.optional value) = some value := by
  cases value with
  | none => rfl
  | some value =>
      have read := serde.from_optional_of_ne_null (serde.to_value_ne_null value)
      rw [serde.from_to_value] at read
      exact read

/-- A reader that takes null for an absent value, as the accessors of `Value` do. -/
theorem from_value_optional (serde : Serde Value) (value : Option Value) :
    serde.fromValue (serde.optional value) = value := by
  cases value with
  | none => exact serde.from_null
  | some value => exact serde.from_to_value value

def list (serde : Serde Value) (values : List Value) : Json := .array (values.map serde.toValue)

def stringMap (map : StringMap) : Json :=
  .object (map.rows.map fun entry => (entry.1, .string entry.2))

end Serde

/-- The texts of an array; everything else in it is skipped. -/
def textItems (value : Json) : Option (List String) :=
  value.asArray.map fun items => items.filterMap Json.asStr

/-- The entries of an object that are texts. -/
def textEntries (value : Json) : Option StringMap :=
  value.asObject.map fun entries =>
    Table.ofRows (entries.filterMap fun entry => entry.2.asStr.map fun text => (entry.1, text))

theorem text_items_list (values : List String) :
    textItems (Serde.text.list values) = some values := by
  change some ((values.map Json.string).filterMap Json.asStr) = some values
  rw [List.filterMap_map]
  exact congrArg some List.filterMap_some

theorem text_entries_string_map (map : StringMap) :
    textEntries (Serde.stringMap map) = some map := by
  change some (Table.ofRows ((map.rows.map fun entry => (entry.1, Json.string entry.2)).filterMap
    fun entry => entry.2.asStr.map fun text => (entry.1, text))) = some map
  rw [List.filterMap_map]
  have kept : map.rows.filterMap ((fun entry => entry.2.asStr.map fun text => (entry.1, text)) ∘
      fun entry : String × String => (entry.1, Json.string entry.2)) = map.rows :=
    List.filterMap_some
  rw [kept, Table.of_rows_rows]

/-! ## Enumerations -/

def jobState : Serde JobState :=
  .variant [.pending, .assigned, .scheduled, .running, .succeeded, .failed, .cancelled, .timeout,
    .manualInterventionRequired] JobState.debug fun state => by cases state <;> rfl

def workerState : Serde WorkerState :=
  .variant [.creating, .ready, .busy, .terminated] WorkerState.debug
    fun state => by cases state <;> rfl

inductive ProviderStatus where
  | active
  | maintenance
  | disabled
  | overloaded
  | unhealthy
  | degraded
  deriving DecidableEq

/-- The `{:?}` text. -/
def ProviderStatus.debug : ProviderStatus → String
  | .active => "Active"
  | .maintenance => "Maintenance"
  | .disabled => "Disabled"
  | .overloaded => "Overloaded"
  | .unhealthy => "Unhealthy"
  | .degraded => "Degraded"

def providerStatus : Serde ProviderStatus :=
  .variant [.active, .maintenance, .disabled, .overloaded, .unhealthy, .degraded]
    ProviderStatus.debug fun status => by cases status <;> rfl

end HodeiJobs.Outbox
