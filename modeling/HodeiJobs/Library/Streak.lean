import Mathlib.Data.List.TakeWhile

/-!
# Streaks

How many of the newest entries of a history satisfy a predicate without a break. Histories
are lists with the newest entry first.
-/

namespace HodeiJobs.Library

variable {Entry : Type} (counts : Entry → Bool)

/-- The entries since the last one that does not count. -/
def streak (history : List Entry) : Nat := (history.takeWhile counts).length

@[simp] theorem streak_nil : streak counts [] = 0 := rfl

variable {counts}

theorem streak_cons_of_counts {entry : Entry} (history : List Entry) (does : counts entry) :
    streak counts (entry :: history) = streak counts history + 1 := by
  simp [streak, does]

theorem streak_cons_of_breaks {entry : Entry} (history : List Entry)
    (breaks : ¬counts entry) : streak counts (entry :: history) = 0 := by
  simp [streak, breaks]

variable (counts)

/-- No entry that counts is older than one that does not. -/
def Unbroken (history : List Entry) : Prop :=
  ∀ entry ∈ history.dropWhile counts, ¬counts entry

instance (history : List Entry) : Decidable (Unbroken counts history) :=
  inferInstanceAs (Decidable (∀ _ ∈ _, _))

theorem countP_eq_streak_add (history : List Entry) :
    history.countP counts =
      streak counts history + (history.dropWhile counts).countP counts := by
  have all : (history.takeWhile counts).countP counts = streak counts history := by
    refine List.countP_eq_length.mpr ?_
    intro entry taken
    exact List.mem_takeWhile_imp taken
  calc history.countP counts
      = (history.takeWhile counts ++ history.dropWhile counts).countP counts := by
        rw [List.takeWhile_append_dropWhile]
    _ = _ := by rw [List.countP_append, all]

theorem streak_le_countP (history : List Entry) :
    streak counts history ≤ history.countP counts := by
  rw [countP_eq_streak_add]
  exact Nat.le_add_right _ _

theorem streak_eq_countP_iff (history : List Entry) :
    streak counts history = history.countP counts ↔ Unbroken counts history := by
  have split := countP_eq_streak_add counts history
  have none : (history.dropWhile counts).countP counts = 0 ↔ Unbroken counts history :=
    List.countP_eq_zero
  rw [← none]
  omega

/-- No fewer entries satisfy both predicates than the first: the second follows from it. -/
theorem countP_le_countP_and_iff (also : Entry → Bool) (history : List Entry) :
    history.countP counts ≤ history.countP (fun entry => also entry && counts entry) ↔
      ∀ entry ∈ history, counts entry → also entry := by
  have most : (history.filter counts).countP also ≤ (history.filter counts).length :=
    List.countP_le_length
  rw [← List.countP_filter, List.countP_eq_length_filter, most.ge_iff_eq,
    List.countP_eq_length]
  simp

end HodeiJobs.Library
