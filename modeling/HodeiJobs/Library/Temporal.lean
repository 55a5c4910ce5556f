import Mathlib.Data.List.Induction
import Mathlib.Order.Basic

/-!
# Infinite runs

The states that an infinite sequence of moves leads through, and the rule for what such a
run must reach: a rank that no move raises and that some moves lower.
-/

namespace HodeiJobs.Library

variable {State Move : Type}

def stateAt (step : State → Move → State) (start : State) (moves : Nat → Move) : Nat → State
  | 0 => start
  | time + 1 => step (stateAt step start moves time) (moves time)

/-- What happens at infinitely many times. -/
def Recurs (happens : Nat → Prop) : Prop := ∀ time, ∃ later, time ≤ later ∧ happens later

/-- What lowers the rank as long as the goal is not reached cannot recur for ever. -/
theorem reaches_of_rank {goal happens : Nat → Prop} (rank : Nat → Nat) (first : Nat)
    (kept : ∀ time, first ≤ time → ¬goal time → rank (time + 1) ≤ rank time)
    (lowered : ∀ time, first ≤ time → happens time → ¬goal time → rank (time + 1) < rank time)
    (recurs : Recurs happens) : ∃ time, first ≤ time ∧ goal time := by
  by_contra! never
  have descends : ∀ gap time, first ≤ time → rank (time + gap) ≤ rank time := by
    intro gap time inside
    induction gap with
    | zero => exact Nat.le_refl _
    | succ gap ih =>
        have next := kept (time + gap) (by omega) (never (time + gap) (by omega))
        exact Nat.le_trans next ih
  have bounded : ∀ bound time, first ≤ time → rank time < bound → False := by
    intro bound
    induction bound with
    | zero => omega
    | succ bound ih =>
        intro time inside below
        obtain ⟨later, order, happens⟩ := recurs time
        have lower := lowered later (by omega) happens (never later (by omega))
        have before := descends (later - time) time inside
        rw [Nat.add_sub_cancel' order] at before
        exact ih (later + 1) (by omega) (by omega)
  exact bounded (rank first + 1) first (Nat.le_refl _) (Nat.lt_succ_self _)

end HodeiJobs.Library
