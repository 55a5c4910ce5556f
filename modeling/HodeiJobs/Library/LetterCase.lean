import HodeiJobs.Library.Text

/-!
# Letter case

Lower case and upper case of ASCII texts, texts that differ in the case of their letters only, and
names with underscores between their words.
-/

namespace HodeiJobs.Library

theorem ascii_of_all {symbols : List Char}
    (all : (symbols.all fun symbol => symbol.toNat < 128) = true) :
    ∀ symbol ∈ symbols, symbol.toNat < 128 := by
  intro symbol member
  exact of_decide_eq_true (List.all_eq_true.mp all symbol member)

/-- What upper case makes of each character; it does not depend on where the character stands. -/
structure UppercaseTable where
  upper : Char → List Char
  ascii : ∀ symbol, symbol.toNat < 128 → upper symbol = [symbol.toUpper]

namespace UppercaseTable

def ofAscii : UppercaseTable := ⟨fun symbol => [symbol.toUpper], fun _ _ => rfl⟩

variable (table : UppercaseTable)

def toUppercase (text : String) : String := String.ofList (text.toList.flatMap table.upper)

theorem to_uppercase_ascii {text : String} (ascii : ∀ symbol ∈ text.toList, symbol.toNat < 128) :
    table.toUppercase text = String.ofList (text.toList.map Char.toUpper) := by
  have each : text.toList.flatMap table.upper =
      text.toList.flatMap fun symbol => [symbol.toUpper] :=
    List.flatMap_congr fun symbol member => table.ascii symbol (ascii symbol member)
  rw [toUppercase, each, List.map_eq_flatMap]

end UppercaseTable

theorem CaseTables.to_lowercase_of_ascii (tables : CaseTables) {text : String}
    (ascii : ∀ symbol ∈ text.toList, symbol.toNat < 128) :
    tables.toLowercase text = String.ofList (text.toList.map Char.toLower) := by
  have lowered : ∀ before (symbols : List Char), (∀ symbol ∈ symbols, symbol.toNat < 128) →
      tables.lowerFrom before symbols = symbols.map Char.toLower := by
    intro before symbols
    induction symbols generalizing before with
    | nil =>
        intro _
        rfl
    | cons symbol rest ih =>
        intro each
        have first := each symbol List.mem_cons_self
        have notSigma : symbol ≠ 'Σ' := by
          intro same
          subst same
          exact absurd first (by decide)
        rw [tables.lower_from_cons, if_neg notSigma, tables.ascii symbol first,
          ih _ fun other member => each other (List.mem_cons_of_mem _ member)]
        rfl
  rw [toLowercase, lowered [] text.toList ascii]

/-- The texts differ in the case of ASCII letters only. -/
def SameLetters (text other : String) : Prop :=
  text.toList.map Char.toLower = other.toList.map Char.toLower

instance (text other : String) : Decidable (SameLetters text other) :=
  inferInstanceAs (Decidable (_ = _))

theorem ascii_of_to_lower {symbol : Char} (ascii : symbol.toLower.toNat < 128) :
    symbol.toNat < 128 := by
  by_cases capital : symbol.val ≥ 'A'.val ∧ symbol.val ≤ 'Z'.val
  · exact Nat.lt_of_le_of_lt (UInt32.le_iff_toNat_le.mp capital.2) (by decide)
  · have same : symbol.toLower = symbol := dif_neg capital
    rwa [same] at ascii

theorem SameLetters.ascii {text other : String} (same : SameLetters text other)
    (plain : ∀ symbol ∈ other.toList.map Char.toLower, symbol.toNat < 128) :
    ∀ symbol ∈ text.toList, symbol.toNat < 128 := by
  intro symbol member
  have lowered : symbol.toLower ∈ other.toList.map Char.toLower :=
    same ▸ List.mem_map_of_mem member
  exact ascii_of_to_lower (plain _ lowered)

theorem CaseTables.to_lowercase_same_letters (tables : CaseTables) {text other : String}
    (same : SameLetters text other)
    (plain : ∀ symbol ∈ other.toList.map Char.toLower, symbol.toNat < 128) :
    tables.toLowercase text = String.ofList (other.toList.map Char.toLower) := by
  rw [tables.to_lowercase_of_ascii (same.ascii plain), same]

/-- An underscore before every capital letter but the first, and all letters small. -/
def snakeCase (name : String) : String :=
  match name.toList with
  | [] => ""
  | first :: rest =>
      String.ofList (first.toLower :: rest.flatMap fun symbol =>
        if symbol.isUpper then ['_', symbol.toLower] else [symbol.toLower])

end HodeiJobs.Library
