import Mathlib.Data.List.Basic
import Mathlib.Data.List.DropRight
import Mathlib.Data.List.Infix

/-!
# Lower case, trimming and separators

The lower case of a text goes character by character, except that a capital sigma at
the end of a word has a form of its own. The tables of the single characters are a
parameter, with the laws that every version of them has.
-/

namespace HodeiJobs.Library

structure CaseTables where
  lower : Char → List Char
  cased : Char → Bool
  caseIgnorable : Char → Bool
  ascii : ∀ symbol, symbol.toNat < 128 → lower symbol = [symbol.toLower]
  /-- What lower case consists of is its own lower case. -/
  settled : ∀ symbol, ∀ small ∈ lower symbol, lower small = [small]
  sigma : lower 'Σ' = ['σ']
  finalSigma : lower 'ς' = ['ς']

namespace CaseTables

variable (tables : CaseTables)

/-- After the characters that do not count stands a letter with case. -/
def nextCased (text : List Char) : Bool :=
  match text.dropWhile tables.caseIgnorable with
  | [] => false
  | symbol :: _ => tables.cased symbol

/-- `before` is what was read already, backwards. -/
def lowerFrom (before : List Char) : List Char → List Char
  | [] => []
  | symbol :: rest =>
      (if symbol = 'Σ' then
        if tables.nextCased before && !tables.nextCased rest then ['ς'] else ['σ']
      else tables.lower symbol) ++ lowerFrom (symbol :: before) rest

def toLowercase (text : String) : String := String.ofList (tables.lowerFrom [] text.toList)

/-- The character is its own lower case. -/
def Settled (symbol : Char) : Prop := tables.lower symbol = [symbol]

instance (symbol : Char) : Decidable (tables.Settled symbol) :=
  inferInstanceAs (Decidable (_ = _))

theorem not_sigma_of_settled {symbol : Char} (settled : tables.Settled symbol) : symbol ≠ 'Σ' := by
  intro same
  subst same
  unfold Settled at settled
  rw [tables.sigma] at settled
  exact absurd settled (by decide)

/-- An ASCII character that is no capital letter. -/
theorem settled_of_ascii {symbol : Char} (ascii : symbol.toNat < 128)
    (small : symbol.toLower = symbol) : tables.Settled symbol := by
  unfold Settled
  rw [tables.ascii symbol ascii, small]

theorem settled_of_all_ascii {text : List Char}
    (plain : (text.all fun symbol => symbol.toNat < 128 && symbol.toLower == symbol) = true) :
    ∀ symbol ∈ text, tables.Settled symbol := by
  intro symbol member
  have both := List.all_eq_true.mp plain symbol member
  rw [Bool.and_eq_true, decide_eq_true_iff, beq_iff_eq] at both
  exact tables.settled_of_ascii both.1 both.2

theorem lower_from_cons (before : List Char) (symbol : Char) (rest : List Char) :
    tables.lowerFrom before (symbol :: rest) =
      (if symbol = 'Σ' then
        if tables.nextCased before && !tables.nextCased rest then ['ς'] else ['σ']
      else tables.lower symbol) ++ tables.lowerFrom (symbol :: before) rest := rfl

theorem settled_of_mem_lower_from (text before : List Char) :
    ∀ symbol ∈ tables.lowerFrom before text, tables.Settled symbol := by
  induction text generalizing before with
  | nil =>
      intro symbol member
      cases member
  | cons head rest ih =>
      intro symbol member
      rw [lower_from_cons] at member
      rcases List.mem_append.mp member with first | later
      · split_ifs at first
        · rw [List.mem_singleton.mp first]
          exact tables.finalSigma
        · rw [List.mem_singleton.mp first]
          exact tables.settled 'Σ' 'σ' (by rw [tables.sigma]; exact List.mem_singleton_self _)
        · exact tables.settled head symbol first
      · exact ih (head :: before) symbol later

/-- A text in lower case stays as it is, whatever stands after it. -/
theorem lower_from_settled_append (text rest before : List Char)
    (settled : ∀ symbol ∈ text, tables.Settled symbol) :
    tables.lowerFrom before (text ++ rest) =
      text ++ tables.lowerFrom (text.reverse ++ before) rest := by
  induction text generalizing before with
  | nil => rfl
  | cons head text ih =>
      have first := settled head List.mem_cons_self
      have later := ih (head :: before) fun symbol member =>
        settled symbol (List.mem_cons_of_mem _ member)
      rw [List.cons_append, lower_from_cons, if_neg (tables.not_sigma_of_settled first), first,
        later]
      simp

theorem lower_from_settled (text before : List Char)
    (settled : ∀ symbol ∈ text, tables.Settled symbol) : tables.lowerFrom before text = text := by
  have whole := tables.lower_from_settled_append text [] before settled
  simpa [lowerFrom] using whole

/-- A settled character at the end of a text stands at the end of its lower case. -/
theorem lower_from_concat (text before : List Char) {symbol : Char}
    (settled : tables.Settled symbol) :
    ∃ front, tables.lowerFrom before (text ++ [symbol]) = front ++ [symbol] := by
  induction text generalizing before with
  | nil =>
      have alone := tables.lower_from_settled [symbol] before (by simpa using settled)
      exact ⟨[], alone⟩
  | cons head text ih =>
      rcases ih (head :: before) with ⟨front, rest⟩
      rw [List.cons_append, lower_from_cons, rest, ← List.append_assoc]
      exact ⟨_, rfl⟩

theorem to_lowercase_settled (text : String)
    (settled : ∀ symbol ∈ text.toList, tables.Settled symbol) :
    tables.toLowercase text = text := by
  unfold toLowercase
  rw [tables.lower_from_settled text.toList [] settled, String.ofList_toList]

end CaseTables

/-! ## Characters -/

/-- The case tables and the letters and digits of every script. -/
structure CharTables extends CaseTables where
  alphanumeric : Char → Bool
  asciiAlphanumeric : ∀ symbol, symbol.toNat < 128 → alphanumeric symbol = symbol.isAlphanum

/-- The characters with the property `White_Space`. -/
def isWhitespace (symbol : Char) : Bool :=
  let code := symbol.toNat
  9 ≤ code && code ≤ 13 || code == 0x20 || code == 0x85 || code == 0xA0 || code == 0x1680 ||
    0x2000 ≤ code && code ≤ 0x200A || code == 0x2028 || code == 0x2029 || code == 0x202F ||
    code == 0x205F || code == 0x3000

def trim (text : String) : String :=
  String.ofList ((text.toList.dropWhile isWhitespace).rdropWhile isWhitespace)

theorem trim_eq_self {text : String}
    (first : ∀ symbol, text.toList.head? = some symbol → isWhitespace symbol = false)
    (last : ∀ symbol, text.toList.getLast? = some symbol → isWhitespace symbol = false) :
    trim text = text := by
  have front : text.toList.dropWhile isWhitespace = text.toList := by
    apply List.dropWhile_eq_self_iff.mpr
    intro nonempty
    rw [first _ (List.head?_eq_getElem? ▸ List.getElem?_eq_getElem nonempty)]
    exact Bool.false_ne_true
  have back : text.toList.rdropWhile isWhitespace = text.toList := by
    apply List.rdropWhile_eq_self_iff.mpr
    intro nonempty
    rw [last _ (List.getLast?_eq_some_getLast nonempty)]
    exact Bool.false_ne_true
  rw [trim, front, back, String.ofList_toList]

def isAsciiHexDigit (symbol : Char) : Bool :=
  symbol.isDigit || 'a' ≤ symbol && symbol ≤ 'f' || 'A' ≤ symbol && symbol ≤ 'F'

/-! ## Trimming -/

section Trim

variable {Symbol : Type} {pattern : List Symbol}

theorem not_prefix_nil (nonempty : pattern ≠ []) : ¬pattern <+: [] := by
  intro front
  exact nonempty (List.prefix_nil.mp front)

theorem length_drop_lt (nonempty : pattern ≠ []) {text : List Symbol} (front : pattern <+: text) :
    (text.drop pattern.length).length < text.length := by
  have positive := List.length_pos_of_ne_nil nonempty
  have shorter := front.length_le
  rw [List.length_drop]
  omega

variable [DecidableEq Symbol]

/-- Take `pattern` away at the front, at most `fuel` times. -/
def trimTimes (pattern : List Symbol) : Nat → List Symbol → List Symbol
  | 0, text => text
  | fuel + 1, text =>
      if pattern <+: text then trimTimes pattern fuel (text.drop pattern.length) else text

def trimStartMatches (pattern text : List Symbol) : List Symbol :=
  trimTimes pattern text.length text

theorem trim_times_suffix (pattern : List Symbol) (fuel : Nat) (text : List Symbol) :
    trimTimes pattern fuel text <:+ text := by
  induction fuel generalizing text with
  | zero => exact List.suffix_refl text
  | succ fuel ih =>
      unfold trimTimes
      split_ifs
      · exact (ih _).trans (List.drop_suffix _ _)
      · exact List.suffix_refl text

theorem trim_suffix (pattern text : List Symbol) : trimStartMatches pattern text <:+ text :=
  trim_times_suffix pattern text.length text

theorem trim_times_nil (nonempty : pattern ≠ []) (fuel : Nat) : trimTimes pattern fuel [] = [] := by
  cases fuel with
  | zero => rfl
  | succ fuel => exact if_neg (not_prefix_nil nonempty)

/-- Once there is fuel for the whole text, more of it changes nothing. -/
theorem trim_times_enough (nonempty : pattern ≠ []) (fuel other : Nat) (text : List Symbol)
    (enough : text.length ≤ fuel) (also : text.length ≤ other) :
    trimTimes pattern fuel text = trimTimes pattern other text := by
  induction fuel generalizing text other with
  | zero =>
      have empty : text = [] := List.length_eq_zero_iff.mp (Nat.le_zero.mp enough)
      rw [empty, trim_times_nil nonempty, trim_times_nil nonempty]
  | succ fuel ih =>
      cases other with
      | zero =>
          have empty : text = [] := List.length_eq_zero_iff.mp (Nat.le_zero.mp also)
          rw [empty, trim_times_nil nonempty, trim_times_nil nonempty]
      | succ other =>
          unfold trimTimes
          split_ifs with front
          · have shorter := length_drop_lt nonempty front
            exact ih other _ (by omega) (by omega)
          · rfl

theorem not_prefix_trim (nonempty : pattern ≠ []) (text : List Symbol) :
    ¬pattern <+: trimStartMatches pattern text := by
  have trimmed : ∀ fuel (text : List Symbol), text.length ≤ fuel →
      ¬pattern <+: trimTimes pattern fuel text := by
    intro fuel
    induction fuel with
    | zero =>
        intro text enough
        rw [List.length_eq_zero_iff.mp (Nat.le_zero.mp enough)]
        exact not_prefix_nil nonempty
    | succ fuel ih =>
        intro text enough
        unfold trimTimes
        split_ifs with front
        · have shorter := length_drop_lt nonempty front
          exact ih _ (by omega)
        · exact front
  exact trimmed text.length text (Nat.le_refl _)

theorem trim_of_not_prefix {text : List Symbol} (other : ¬pattern <+: text) :
    trimStartMatches pattern text = text := by
  unfold trimStartMatches
  cases text.length with
  | zero => rfl
  | succ fuel => exact if_neg other

theorem trim_append (nonempty : pattern ≠ []) (text : List Symbol) :
    trimStartMatches pattern (pattern ++ text) = trimStartMatches pattern text := by
  have positive := List.length_pos_of_ne_nil nonempty
  have once : trimTimes pattern ((pattern ++ text).length + 1) (pattern ++ text) =
      trimTimes pattern (pattern ++ text).length text := by
    rw [trimTimes, if_pos (List.prefix_append pattern text), List.drop_left]
  have enough : text.length ≤ (pattern ++ text).length := by simp
  calc trimStartMatches pattern (pattern ++ text)
      = trimTimes pattern ((pattern ++ text).length + 1) (pattern ++ text) :=
        trim_times_enough nonempty _ _ _ (Nat.le_refl _) (Nat.le_succ _)
    _ = trimTimes pattern (pattern ++ text).length text := once
    _ = trimStartMatches pattern text :=
        trim_times_enough nonempty _ _ _ enough (Nat.le_refl _)

end Trim

/-! ## Separators -/

/-- What stands before the first separator and what stands after it. -/
theorem split_at_first {Symbol : Type} {separator : Symbol} {front front' rest rest' : List Symbol}
    (plain : separator ∉ front) (plain' : separator ∉ front')
    (same : front ++ separator :: rest = front' ++ separator :: rest') :
    front = front' ∧ rest = rest' := by
  induction front generalizing front' with
  | nil =>
      cases front' with
      | nil => exact ⟨rfl, (List.cons.inj same).2⟩
      | cons head front' =>
          have first : separator = head := (List.cons.inj same).1
          exact absurd (first ▸ List.mem_cons_self) plain'
  | cons head front ih =>
      cases front' with
      | nil =>
          have first : head = separator := (List.cons.inj same).1
          exact absurd (first ▸ List.mem_cons_self) plain
      | cons head' front' =>
          obtain ⟨first, others⟩ := List.cons.inj same
          obtain ⟨fronts, rests⟩ := ih (fun member => plain (List.mem_cons_of_mem _ member))
            (fun member => plain' (List.mem_cons_of_mem _ member)) others
          exact ⟨congrArg₂ List.cons first fronts, rests⟩

/-- Two texts in front of their first colon. -/
theorem split_at_colon {front front' rest rest' : String} (plain : ':' ∉ front.toList)
    (plain' : ':' ∉ front'.toList) (same : front ++ ":" ++ rest = front' ++ ":" ++ rest') :
    front = front' ∧ rest = rest' := by
  have symbols := congrArg String.toList same
  simp only [String.toList_append, List.append_assoc] at symbols
  obtain ⟨fronts, rests⟩ := split_at_first plain plain' symbols
  exact ⟨String.toList_inj.mp fronts, String.toList_inj.mp rests⟩

end HodeiJobs.Library
