import HodeiJobs.Library.Runs

/-!
# Stored values that change by transitions

A row may be missing, keep its value, or change it. The two laws about a run,
that every change is a transition and that a final value stays, follow from one
condition on each move.
-/

namespace HodeiJobs.Library

variable {Value : Type}

/-- The value is kept, or left by a transition. -/
def KeptOrMoved (moves : Value → Value → Bool) (before after : Option Value) : Prop :=
  after = before ∨ ∃ old new, before = some old ∧ after = some new ∧ moves old new = true

/-- Every change is a transition. -/
def ByTransition (moves : Value → Value → Bool) (before after : Option Value) : Prop :=
  ∀ old new, before = some old → after = some new → old ≠ new → moves old new = true

/-- A value that is left by no transition is stored. -/
def IsFinal (terminal : Value → Bool) (stored : Option Value) : Prop :=
  ∃ final, stored = some final ∧ terminal final = true

variable {moves : Value → Value → Bool} {before after : Option Value}

/-- An unconditional update of a row that allows it. -/
theorem kept_or_moved_write {new : Value}
    (safe : ∀ old ∈ before, old = new ∨ moves old new = true) :
    KeptOrMoved moves before (before.map fun _ => new) := by
  cases before with
  | none => exact .inl rfl
  | some old =>
      rcases safe old rfl with rfl | moved
      · exact .inl rfl
      · exact .inr ⟨old, new, rfl, rfl, moved⟩

theorem by_transition_of_kept_or_moved (kept : KeptOrMoved moves before after) :
    ByTransition moves before after := by
  intro old new stored written changed
  rcases kept with same | ⟨first, second, wasFirst, isSecond, moved⟩
  · rw [stored, written] at same
    exact absurd (Option.some.inj same).symm changed
  · rw [stored] at wasFirst
    rw [written] at isSecond
    cases wasFirst
    cases isSecond
    exact moved

theorem same_of_final {terminal : Value → Bool}
    (stuck : ∀ old new, terminal old = true → moves old new = false)
    (kept : KeptOrMoved moves before after) (final : IsFinal terminal before) : after = before := by
  rcases kept with same | ⟨old, new, rfl, rfl, moved⟩
  · exact same
  · obtain ⟨_, same, ended⟩ := final
    cases same
    rw [stuck old new ended] at moved
    cases moved

/-! ## Recorded changes -/

/-- The value that a list of changes, oldest first, leads to. -/
def valueAfter (first : Value) : List (Value × Value) → Value
  | [] => first
  | (_, new) :: rest => valueAfter new rest

@[simp] theorem value_after_append (first : Value) (changes : List (Value × Value))
    (old new : Value) : valueAfter first (changes ++ [(old, new)]) = new := by
  induction changes generalizing first with
  | nil => rfl
  | cons change rest ih => exact ih change.2

/-- Every change starts from the value that the one before it has led to, and is one. -/
def Linked (first : Value) : List (Value × Value) → Prop
  | [] => True
  | (old, new) :: rest => old = first ∧ old ≠ new ∧ Linked new rest

theorem linked_append_iff (first : Value) (changes : List (Value × Value)) (old new : Value) :
    Linked first (changes ++ [(old, new)]) ↔
      Linked first changes ∧ old = valueAfter first changes ∧ old ≠ new := by
  induction changes generalizing first with
  | nil => simp [Linked, valueAfter]
  | cons change rest ih =>
      obtain ⟨source, target⟩ := change
      simp only [List.cons_append, Linked, ih target, valueAfter, and_assoc]

end HodeiJobs.Library
