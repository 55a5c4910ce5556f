import HodeiJobs.Library.Rewrite
import Mathlib.Data.List.Perm.Basic

/-!
# Parameters of a job specification

`substitute_parameters` replaces `${NAME}` once for each entry of the map, in the
order in which the map is iterated, and then scans the outcome for `$NAME`. It is
compared with the substitution of all placeholders at once.
-/

namespace HodeiJobs.Jobs

open HodeiJobs.Library

abbrev Text := List Char

/-- `HashMap<String, String>`. -/
structure Parameters where
  entries : List (Text × Text)
  distinct : (entries.map Prod.fst).Nodup

namespace Parameters

def get (parameters : Parameters) (name : Text) : Option Text := parameters.entries.lookup name

end Parameters

/-! ## The code -/

/-- `${NAME}` -/
def bracketed (name : Text) : Text := '$' :: '{' :: (name ++ ['}'])

def patternToken (pattern value : Text) (text : Text) : Option (Nat × Text) :=
  if pattern.isPrefixOf text then some (pattern.length, value) else none

/-- `str::replace` with a pattern that is not empty. -/
def replace (text pattern value : Text) : Text := rewrite (patternToken pattern value) text

def startsIdentifier (c : Char) : Bool := c.isAlpha || c == '_'

def continuesIdentifier (c : Char) : Bool := c.isAlphanum || c == '_'

/-- The longest identifier at the front. -/
def identifier : Text → Option Text
  | [] => none
  | c :: rest =>
      if startsIdentifier c then some (c :: rest.takeWhile continuesIdentifier) else none

/-- The scanner at `$NAME`. -/
def simpleToken (parameters : Parameters) : Text → Option (Nat × Text)
  | '$' :: rest => do
      let name ← identifier rest
      let value ← parameters.get name
      some (name.length + 1, value)
  | _ => none

/-- `order` is the order in which the map is iterated. -/
def substituteParameters (parameters : Parameters) (order : List (Text × Text)) (input : Text) :
    Text :=
  let result := order.foldl (fun result entry => replace result (bracketed entry.1) entry.2) input
  rewrite (simpleToken parameters) result

/-! ## All placeholders at once -/

inductive Placeholder where
  | bracket (name value : Text)
  | simple (name value : Text)
  deriving DecidableEq

def Placeholder.value : Placeholder → Text
  | bracket _ value | simple _ value => value

/-- The longest name of a parameter that is closed by a brace. -/
def longestName (parameters : Parameters) (rest : Text) : Option (Text × Text) :=
  (List.range rest.length).reverse.findSome? fun length =>
    if rest[length]? = some '}' then
      (parameters.get (rest.take length)).map fun value => (rest.take length, value)
    else none

/-- The maximal placeholder at the front. -/
def placeholderAt (parameters : Parameters) : Text → Option (Nat × Placeholder)
  | '$' :: '{' :: rest =>
      (longestName parameters rest).map fun found =>
        (found.1.length + 3, .bracket found.1 found.2)
  | '$' :: rest => do
      let name ← identifier rest
      let value ← parameters.get name
      some (name.length + 1, .simple name value)
  | _ => none

def substituteAtOnce (parameters : Parameters) (input : Text) : Text :=
  rewrite (fun text => (placeholderAt parameters text).map fun found => (found.1, found.2.value))
    input

/-! ## Undisturbed runs of the code -/

abbrev TextPiece := Piece Char Placeholder

def inputPieces (parameters : Parameters) (input : Text) : List TextPiece :=
  pieces (placeholderAt parameters) input

/-- What stands for a piece of the input once the bracketed placeholders of some names
have been replaced. -/
def standing (replaced : List Text) : TextPiece → Text
  | .kept c => [c]
  | .found text (.bracket name value) => if name ∈ replaced then value else text
  | .found text (.simple _ _) => text

/-- The pass over the entry of `name` is to replace its bracketed placeholders. -/
def bracketBlock (replaced : List Text) (name : Text) (piece : TextPiece) : Block Char :=
  match piece with
  | .found _ (.bracket other value) =>
      ⟨standing replaced piece, if other = name ∧ name ∉ replaced then some value else none⟩
  | _ => ⟨standing replaced piece, none⟩

/-- The scanner is to replace the simple placeholders. -/
def simpleBlock : TextPiece → Block Char
  | .kept c => ⟨[c], none⟩
  | .found _ (.bracket _ value) => ⟨value, none⟩
  | .found text (.simple _ value) => ⟨text, some value⟩

def PassesUndisturbed (input : List TextPiece) : List Text → List (Text × Text) → Prop
  | _, [] => True
  | replaced, (name, value) :: order =>
      Exactly (patternToken (bracketed name) value) (input.map (bracketBlock replaced name)) ∧
        PassesUndisturbed input (name :: replaced) order

/-- Every pass finds its placeholders exactly where the input has them: none is formed by a
value, alone or with its neighbours, and none is cut or lengthened. -/
def Undisturbed (parameters : Parameters) (order : List (Text × Text)) (input : Text) : Prop :=
  PassesUndisturbed (inputPieces parameters input) [] order ∧
    Exactly (simpleToken parameters) ((inputPieces parameters input).map simpleBlock)

instance decidablePassesUndisturbed (input : List TextPiece) :
    (replaced : List Text) → (order : List (Text × Text)) →
      Decidable (PassesUndisturbed input replaced order)
  | _, [] => .isTrue trivial
  | _, (name, _) :: order =>
      @instDecidableAnd _ _ _ (decidablePassesUndisturbed input (name :: _) order)

instance (parameters : Parameters) (order : List (Text × Text)) (input : Text) :
    Decidable (Undisturbed parameters order input) :=
  inferInstanceAs (Decidable (_ ∧ _))

section Passes

variable {parameters : Parameters}

theorem text_of_bracket_block (replaced : List Text) (name : Text) (piece : TextPiece) :
    (bracketBlock replaced name piece).text = standing replaced piece := by
  cases piece with
  | kept c => rfl
  | found text label => cases label <;> rfl

theorem result_of_bracket_block (replaced : List Text) (name : Text) (piece : TextPiece) :
    (bracketBlock replaced name piece).result = standing (name :: replaced) piece := by
  cases piece with
  | kept c => rfl
  | found text label =>
      cases label with
      | simple other value => rfl
      | bracket other value =>
          by_cases same : other = name
          · subst same
            by_cases before : other ∈ replaced <;>
              simp [bracketBlock, Block.result, standing, before]
          · simp [bracketBlock, Block.result, standing, same]

/-- An undisturbed pass replaces the placeholders of its name. -/
theorem replace_standing (input : List TextPiece) (replaced : List Text) (name value : Text)
    (exactly : Exactly (patternToken (bracketed name) value)
      (input.map (bracketBlock replaced name))) :
    replace (input.flatMap (standing replaced)) (bracketed name) value =
      input.flatMap (standing (name :: replaced)) := by
  have rewritten := rewrite_exactly _ _ exactly
  simp only [List.flatMap_map, text_of_bracket_block, result_of_bracket_block] at rewritten
  exact rewritten

theorem passes_standing (input : List TextPiece) (order : List (Text × Text))
    (replaced : List Text) (undisturbed : PassesUndisturbed input replaced order) :
    order.foldl (fun result entry => replace result (bracketed entry.1) entry.2)
        (input.flatMap (standing replaced)) =
      input.flatMap (standing ((order.map Prod.fst).reverse ++ replaced)) := by
  induction order generalizing replaced with
  | nil => simp
  | cons entry order ih =>
      have later := ih (entry.1 :: replaced) undisturbed.2
      rw [List.foldl_cons, replace_standing input replaced entry.1 entry.2 undisturbed.1, later]
      simp

theorem standing_nothing (input : List TextPiece) :
    input.flatMap (standing []) = input.flatMap Piece.source := by
  congr 1
  funext piece
  cases piece with
  | kept c => rfl
  | found text label => cases label <;> simp [standing, Piece.source]

theorem known_of_longest_name (rest name value : Text)
    (longest : longestName parameters rest = some (name, value)) :
    name ∈ parameters.entries.map Prod.fst := by
  obtain ⟨length, _, found⟩ := List.exists_of_findSome?_eq_some longest
  split_ifs at found with closed
  obtain ⟨value, known, same⟩ := Option.map_eq_some_iff.mp found
  cases same
  obtain ⟨before, after, split, _⟩ := List.lookup_eq_some_iff.mp known
  rw [split]
  simp

theorem known_of_placeholder (rest name value : Text) (length : Nat)
    (found : placeholderAt parameters rest = some (length, .bracket name value)) :
    name ∈ parameters.entries.map Prod.fst := by
  unfold placeholderAt at found
  split at found
  · obtain ⟨longest, isLongest, same⟩ := Option.map_eq_some_iff.mp found
    cases same
    exact known_of_longest_name _ _ _ isLongest
  · simp [Option.bind_eq_some_iff] at found
  · cases found

/-- When every name has been passed, only the simple placeholders are left. -/
theorem standing_all (names : List Text) (input : Text)
    (all : ∀ name ∈ parameters.entries.map Prod.fst, name ∈ names) :
    (inputPieces parameters input).flatMap (standing names) =
      ((inputPieces parameters input).map simpleBlock).flatMap Block.text := by
  rw [List.flatMap_map]
  apply List.flatMap_congr
  intro piece isPiece
  cases piece with
  | kept c => rfl
  | found text label =>
      cases label with
      | simple name value => rfl
      | bracket name value =>
          obtain ⟨rest, length, found⟩ := label_of_pieces_from _ 0 input text _ isPiece
          have known := all name (known_of_placeholder rest name value length found)
          simp [standing, simpleBlock, known]

theorem result_of_simple_block (piece : TextPiece) :
    (simpleBlock piece).result = piece.result Placeholder.value := by
  cases piece with
  | kept c => rfl
  | found text label => cases label <;> rfl

end Passes

/-- In whatever order the map is iterated, an undisturbed run gives the substitution of all
placeholders at once. -/
theorem substitutes_at_once (parameters : Parameters) (order : List (Text × Text)) (input : Text)
    (iterates : order.Perm parameters.entries)
    (undisturbed : Undisturbed parameters order input) :
    substituteParameters parameters order input = substituteAtOnce parameters input := by
  obtain ⟨passes, scan⟩ := undisturbed
  have replaced := passes_standing (inputPieces parameters input) order [] passes
  rw [standing_nothing, inputPieces, source_pieces] at replaced
  have all : ∀ name ∈ parameters.entries.map Prod.fst,
      name ∈ (order.map Prod.fst).reverse ++ [] := by
    intro name isName
    simpa using (iterates.map Prod.fst).mem_iff.mpr isName
  have left := standing_all ((order.map Prod.fst).reverse ++ []) input all
  have scanned := rewrite_exactly _ _ scan
  unfold substituteParameters substituteAtOnce
  rw [replaced, rewrite_pieces, ← inputPieces, left, scanned, List.flatMap_map]
  simp only [result_of_simple_block]

def greeting : Parameters := ⟨[("A".toList, "x y".toList), ("B".toList, "z".toList)], by decide⟩

theorem substitutes_at_once_greeting :
    substituteParameters greeting greeting.entries.reverse "echo ${A} $B ${C}".toList =
      substituteAtOnce greeting "echo ${A} $B ${C}".toList :=
  substitutes_at_once greeting _ _ (List.reverse_perm _) (by decide)

def chained : Parameters := ⟨[("A".toList, "$B".toList), ("B".toList, "x".toList)], by decide⟩

/-- The value of `A` is scanned again. -/
theorem value_expanded_again :
    substituteParameters chained chained.entries "${A}".toList = "x".toList ∧
      substituteAtOnce chained "${A}".toList = "$B".toList ∧
      ¬∀ order input, order.Perm chained.entries →
        substituteParameters chained order input = substituteAtOnce chained input := by
  have again : substituteParameters chained chained.entries "${A}".toList = "x".toList := by
    decide
  have once : substituteAtOnce chained "${A}".toList = "$B".toList := by decide
  refine ⟨again, once, ?_⟩
  intro same
  have equal := same chained.entries "${A}".toList (List.Perm.refl _)
  rw [again, once] at equal
  revert equal
  decide

end HodeiJobs.Jobs
