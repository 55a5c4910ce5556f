import Mathlib.Data.List.Basic

/-!
# Rewriting a text from left to right

A token is looked for at the front of what is left of a text. If there is one, its
value is written and its symbols are passed over; otherwise one symbol is copied.
-/

namespace HodeiJobs.Library

variable {Symbol Label : Type}

/-- `skip` symbols belong to the last token found. -/
def rewriteFrom (token : List Symbol → Option (Nat × List Symbol)) :
    Nat → List Symbol → List Symbol
  | _, [] => []
  | skip + 1, _ :: rest => rewriteFrom token skip rest
  | 0, symbol :: rest =>
      match token (symbol :: rest) with
      | some (length, value) => value ++ rewriteFrom token (length - 1) rest
      | none => symbol :: rewriteFrom token 0 rest

def rewrite (token : List Symbol → Option (Nat × List Symbol)) : List Symbol → List Symbol :=
  rewriteFrom token 0

/-! ## The pieces of a text -/

inductive Piece (Symbol Label : Type) where
  | kept (symbol : Symbol)
  | found (text : List Symbol) (label : Label)
  deriving DecidableEq

namespace Piece

def source : Piece Symbol Label → List Symbol
  | kept symbol => [symbol]
  | found text _ => text

def result (value : Label → List Symbol) : Piece Symbol Label → List Symbol
  | kept symbol => [symbol]
  | found _ label => value label

end Piece

def piecesFrom (token : List Symbol → Option (Nat × Label)) :
    Nat → List Symbol → List (Piece Symbol Label)
  | _, [] => []
  | skip + 1, _ :: rest => piecesFrom token skip rest
  | 0, symbol :: rest =>
      match token (symbol :: rest) with
      | some (length, label) =>
          .found (symbol :: rest.take (length - 1)) label :: piecesFrom token (length - 1) rest
      | none => .kept symbol :: piecesFrom token 0 rest

def pieces (token : List Symbol → Option (Nat × Label)) :
    List Symbol → List (Piece Symbol Label) :=
  piecesFrom token 0

theorem source_pieces_from (token : List Symbol → Option (Nat × Label)) (skip : Nat)
    (text : List Symbol) : (piecesFrom token skip text).flatMap Piece.source = text.drop skip := by
  induction text generalizing skip with
  | nil => cases skip <;> rfl
  | cons symbol rest ih =>
      cases skip with
      | succ skip => simpa [piecesFrom] using ih skip
      | zero =>
          unfold piecesFrom
          cases token (symbol :: rest) with
          | none => simp [ih, Piece.source]
          | some found => simp [ih, Piece.source]

@[simp] theorem source_pieces (token : List Symbol → Option (Nat × Label)) (text : List Symbol) :
    (pieces token text).flatMap Piece.source = text :=
  source_pieces_from token 0 text

theorem rewrite_from_pieces (token : List Symbol → Option (Nat × Label))
    (value : Label → List Symbol) (skip : Nat) (text : List Symbol) :
    rewriteFrom (fun text => (token text).map fun found => (found.1, value found.2)) skip text =
      (piecesFrom token skip text).flatMap (Piece.result value) := by
  induction text generalizing skip with
  | nil => cases skip <;> rfl
  | cons symbol rest ih =>
      cases skip with
      | succ skip => simpa [piecesFrom, rewriteFrom] using ih skip
      | zero =>
          unfold piecesFrom rewriteFrom
          cases token (symbol :: rest) with
          | none => simp [ih, Piece.result]
          | some found => simp [ih, Piece.result]

/-- A rewritten text is its pieces, each token replaced by its value. -/
theorem rewrite_pieces (token : List Symbol → Option (Nat × Label)) (value : Label → List Symbol)
    (text : List Symbol) :
    rewrite (fun text => (token text).map fun found => (found.1, value found.2)) text =
      (pieces token text).flatMap (Piece.result value) :=
  rewrite_from_pieces token value 0 text

/-- Every label of a piece comes from a token. -/
theorem label_of_pieces_from (token : List Symbol → Option (Nat × Label)) (skip : Nat)
    (text part : List Symbol) (label : Label)
    (isFound : Piece.found part label ∈ piecesFrom token skip text) :
    ∃ rest length, token rest = some (length, label) := by
  induction text generalizing skip with
  | nil => cases skip <;> cases isFound
  | cons symbol rest ih =>
      cases skip with
      | succ skip => exact ih skip isFound
      | zero =>
          unfold piecesFrom at isFound
          cases found : token (symbol :: rest) with
          | none =>
              simp only [found, List.mem_cons, reduceCtorEq, false_or] at isFound
              exact ih 0 isFound
          | some token =>
              simp only [found, List.mem_cons, Piece.found.injEq] at isFound
              rcases isFound with ⟨_, same⟩ | later
              · exact ⟨symbol :: rest, token.1, by rw [same, found]⟩
              · exact ih (token.1 - 1) later

/-! ## Rewriting exactly the chosen blocks -/

/-- A part of a text, with its replacement if it is chosen. -/
structure Block (Symbol : Type) where
  text : List Symbol
  replacement : Option (List Symbol)

namespace Block

def result (block : Block Symbol) : List Symbol := block.replacement.getD block.text

end Block

/-- Read from left to right, the tokens are the chosen blocks and no others. -/
def Exactly (token : List Symbol → Option (Nat × List Symbol)) : List (Block Symbol) → Prop
  | [] => True
  | ⟨text, none⟩ :: rest =>
      (∀ tail ∈ text.tails, tail ≠ [] → token (tail ++ rest.flatMap Block.text) = none) ∧
        Exactly token rest
  | ⟨text, some value⟩ :: rest =>
      (text ≠ [] ∧ token (text ++ rest.flatMap Block.text) = some (text.length, value)) ∧
        Exactly token rest

instance decidableExactly [DecidableEq Symbol]
    (token : List Symbol → Option (Nat × List Symbol)) :
    (blocks : List (Block Symbol)) → Decidable (Exactly token blocks)
  | [] => .isTrue trivial
  | ⟨_, none⟩ :: rest => @instDecidableAnd _ _ _ (decidableExactly token rest)
  | ⟨_, some _⟩ :: rest => @instDecidableAnd _ _ _ (decidableExactly token rest)

theorem rewrite_from_skip (token : List Symbol → Option (Nat × List Symbol))
    (passed text : List Symbol) :
    rewriteFrom token passed.length (passed ++ text) = rewrite token text := by
  induction passed with
  | nil => rfl
  | cons symbol passed ih => exact ih

/-- Symbols at which no token starts are copied. -/
theorem rewrite_copies (token : List Symbol → Option (Nat × List Symbol))
    (copied text : List Symbol)
    (nothing : ∀ tail ∈ copied.tails, tail ≠ [] → token (tail ++ text) = none) :
    rewrite token (copied ++ text) = copied ++ rewrite token text := by
  induction copied with
  | nil => rfl
  | cons symbol copied ih =>
      have here := nothing (symbol :: copied) (by simp) (by simp)
      have later := ih (by
        intro tail isTail
        exact nothing tail (by simp [isTail]))
      rw [List.cons_append] at here
      rw [List.cons_append, rewrite, rewriteFrom, here, ← rewrite, later]
      rfl

theorem rewrite_found (token : List Symbol → Option (Nat × List Symbol))
    (part value text : List Symbol) (nonempty : part ≠ [])
    (found : token (part ++ text) = some (part.length, value)) :
    rewrite token (part ++ text) = value ++ rewrite token text := by
  cases part with
  | nil => exact absurd rfl nonempty
  | cons symbol part =>
      rw [List.cons_append] at found
      rw [List.cons_append, rewrite, rewriteFrom, found]
      simp only [List.length_cons, Nat.add_sub_cancel]
      rw [rewrite_from_skip]
      rfl

theorem rewrite_exactly (token : List Symbol → Option (Nat × List Symbol))
    (blocks : List (Block Symbol)) (exactly : Exactly token blocks) :
    rewrite token (blocks.flatMap Block.text) = blocks.flatMap Block.result := by
  induction blocks with
  | nil => rfl
  | cons block rest ih =>
      obtain ⟨text, replacement⟩ := block
      rw [List.flatMap_cons, List.flatMap_cons]
      cases replacement with
      | none =>
          rw [rewrite_copies token text _ exactly.1, ih exactly.2]
          rfl
      | some value =>
          rw [rewrite_found token text value _ exactly.1.1 exactly.1.2, ih exactly.2]
          rfl

end HodeiJobs.Library
