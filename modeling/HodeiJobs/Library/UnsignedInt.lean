import Mathlib.Algebra.Order.Floor.Div

/-!
# Unsigned machine arithmetic

Operations on `u32` that end the computation where their result does not fit, and the quotient
that is rounded up.
-/

namespace HodeiJobs.Library

inductive Arithmetic where
  | addWithOverflow
  | subtractWithOverflow
  | divideByZero
  deriving DecidableEq, Repr

def addU32 (left right : UInt32) : Except Arithmetic UInt32 :=
  if left.toNat + right.toNat < 2 ^ 32 then .ok (left + right) else .error .addWithOverflow

def subU32 (left right : UInt32) : Except Arithmetic UInt32 :=
  if right ≤ left then .ok (left - right) else .error .subtractWithOverflow

def divU32 (left right : UInt32) : Except Arithmetic UInt32 :=
  if right = 0 then .error .divideByZero else .ok (left / right)

def minU32 (left right : UInt32) : UInt32 := if left ≤ right then left else right

variable (left right : UInt32)

/-- An operation succeeds where its exact value fits, with that value. -/
theorem add_u32_eq_ok (fits : left.toNat + right.toNat < 2 ^ 32) :
    ∃ sum, addU32 left right = .ok sum ∧ sum.toNat = left.toNat + right.toNat := by
  refine ⟨left + right, if_pos fits, ?_⟩
  rw [UInt32.toNat_add, Nat.mod_eq_of_lt fits]

theorem add_u32_eq_error (large : 2 ^ 32 ≤ left.toNat + right.toNat) :
    addU32 left right = .error .addWithOverflow := if_neg (Nat.not_lt_of_le large)

theorem sub_u32_eq_ok (below : right.toNat ≤ left.toNat) :
    ∃ rest, subU32 left right = .ok rest ∧ rest.toNat = left.toNat - right.toNat := by
  have order : right ≤ left := UInt32.le_iff_toNat_le.mpr below
  exact ⟨left - right, if_pos order, UInt32.toNat_sub_of_le left right order⟩

theorem div_u32_eq_ok (positive : 0 < right.toNat) :
    ∃ quotient, divU32 left right = .ok quotient ∧
      quotient.toNat = left.toNat / right.toNat := by
  have nonzero : right ≠ 0 := by
    intro zero
    subst zero
    exact absurd positive (by decide)
  exact ⟨left / right, if_neg nonzero, UInt32.toNat_div left right⟩

theorem div_u32_zero : divU32 left 0 = .error .divideByZero := if_pos rfl

theorem min_u32_to_nat : (minU32 left right).toNat = min left.toNat right.toNat := by
  unfold minU32
  split_ifs with order
  · exact (Nat.min_eq_left (UInt32.le_iff_toNat_le.mp order)).symm
  · have other := Nat.le_of_not_le fun below => order (UInt32.le_iff_toNat_le.mpr below)
    exact (Nat.min_eq_right other).symm

/-- The smallest number of parts of the size `part` that make up `whole`. -/
theorem is_least_rounded_up (whole : Nat) {part : Nat} (positive : 0 < part) :
    IsLeast { count | whole ≤ count * part } ((whole + part - 1) / part) := by
  have up : ∀ count, (whole + part - 1) / part ≤ count ↔ whole ≤ count * part := by
    intro count
    rw [← Nat.ceilDiv_eq_add_pred_div, ceilDiv_le_iff_le_mul positive, Nat.mul_comm]
  exact ⟨(up _).mp (Nat.le_refl _), fun count enough => (up count).mpr enough⟩

end HodeiJobs.Library
