import Mathlib.Data.Rat.Floor

/-!
# Signed machine arithmetic

Operations on `i64`. Where overflow is checked, an operation whose result does not fit ends the
computation; where it is not, the result keeps its low bits.
-/

namespace HodeiJobs.Library

inductive Overflow where
  | pow
  | mul
  | add
  deriving DecidableEq, Repr

def FitsI64 (value : Int) : Prop := -2 ^ 63 ≤ value ∧ value < 2 ^ 63

instance (value : Int) : Decidable (FitsI64 value) := inferInstanceAs (Decidable (_ ∧ _))

/-- The result of an operation, from its exact value. -/
def resultI64 (overflowChecks : Bool) (operation : Overflow) (value : Int) : Except Overflow Int :=
  if FitsI64 value then .ok value
  else if overflowChecks then .error operation
  else .ok (value.bmod (2 ^ 64))

def powI64 (overflowChecks : Bool) (base : Int) (exponent : Nat) : Except Overflow Int :=
  resultI64 overflowChecks .pow (base ^ exponent)

def mulI64 (overflowChecks : Bool) (left right : Int) : Except Overflow Int :=
  resultI64 overflowChecks .mul (left * right)

def addI64 (overflowChecks : Bool) (left right : Int) : Except Overflow Int :=
  resultI64 overflowChecks .add (left + right)

/-- `value as i64`, for a float that is read as a rational number. -/
def truncI64 (value : ℚ) : Int :=
  max (-2 ^ 63) (min (2 ^ 63 - 1) (if 0 ≤ value then ⌊value⌋ else ⌈value⌉))

theorem result_i64_of_fits (overflowChecks : Bool) (operation : Overflow) {value : Int}
    (fits : FitsI64 value) : resultI64 overflowChecks operation value = .ok value := if_pos fits

/-- A checked operation succeeds where its exact value fits, with that value. -/
theorem result_i64_checked_iff (operation : Overflow) (value result : Int) :
    resultI64 true operation value = .ok result ↔ FitsI64 value ∧ value = result := by
  unfold resultI64
  split_ifs with fits checked
  · rw [Except.ok.injEq]
    exact (and_iff_right fits).symm
  · apply iff_of_false
    · exact fun same => by cases same
    · exact fun both => fits both.1
  · exact absurd rfl checked

theorem trunc_i64_of_nonneg {value : ℚ} (nonneg : 0 ≤ value) (fits : ⌊value⌋ < 2 ^ 63) :
    truncI64 value = ⌊value⌋ := by
  have floor := Int.floor_nonneg.mpr nonneg
  unfold truncI64
  rw [if_pos nonneg]
  omega

end HodeiJobs.Library
