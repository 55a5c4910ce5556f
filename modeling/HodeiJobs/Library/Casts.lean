import Mathlib.Algebra.Group.Int.Defs
import Mathlib.Algebra.Group.Nat.Defs
import Mathlib.Data.List.Basic

/-!
# Casts between machine integers

`as` keeps the low bits of an unsigned number and reads them as a signed one, or the
other way round.
-/

namespace HodeiJobs.Library

/-- `value as i32`, for a `u32`. -/
def asI32 (value : Nat) : Int := (BitVec.ofNat 32 value).toInt

/-- `value as u32`, for an `i32`. -/
def asU32 (value : Int) : Nat := (BitVec.ofInt 32 value).toNat

/-- `value as i64`, for a `usize`. -/
def asI64 (value : Nat) : Int := (BitVec.ofNat 64 value).toInt

theorem as_i32_small {value : Nat} (small : value < 2 ^ 31) : asI32 value = value := by
  rw [asI32, BitVec.toInt_ofNat']
  exact Int.bmod_eq_of_le (by omega) (by omega)

theorem as_i32_large {value : Nat} (large : 2 ^ 31 ≤ value) (bound : value < 2 ^ 32) :
    asI32 value < 0 := by
  rw [asI32, BitVec.toInt_ofNat']
  have wrapped : ((value : Int)).bmod (2 ^ 32) = (value : Int) - 2 ^ 32 := by
    rw [Int.bmod_def]
    omega
  rw [wrapped]
  omega

/-- `as i32` and back. -/
theorem as_u32_as_i32 {value : Nat} (bound : value < 2 ^ 32) : asU32 (asI32 value) = value := by
  rw [asU32, asI32, BitVec.ofInt_toInt, BitVec.toNat_ofNat, Nat.mod_eq_of_lt bound]

theorem as_i64_le (value : Nat) : asI64 value ≤ value := by
  rw [asI64, BitVec.toInt_ofNat', Int.bmod_def]
  split <;> omega

theorem le_as_i64 (value : Nat) : -2 ^ 63 ≤ asI64 value := by
  rw [asI64, BitVec.toInt_ofNat', Int.bmod_def]
  omega

/-- `as u64` and back. -/
theorem as_i64_of_int {value : Int} (above : -2 ^ 63 ≤ value) (below : value < 2 ^ 63) :
    asI64 (UInt64.ofInt value).toNat = value := by
  have kept : (UInt64.ofInt value).toNat = (value % 2 ^ 64).toNat := by
    rw [UInt64.ofInt, UInt64.toNat_ofNat']
    omega
  rw [asI64, kept, BitVec.toInt_ofNat', Int.bmod_def]
  omega

/-- A `i64` that is not negative keeps its value as a `u64`. -/
theorem of_int_to_nat {value : Int} (nonneg : 0 ≤ value) (below : value < 2 ^ 64) :
    ((UInt64.ofInt value).toNat : Int) = value := by
  rw [UInt64.ofInt, UInt64.toNat_ofNat']
  omega

/-- A negative one comes out at the top of the range. -/
theorem of_int_to_nat_negative {value : Int} (negative : value < 0) (above : -2 ^ 64 ≤ value) :
    ((UInt64.ofInt value).toNat : Int) = 2 ^ 64 + value := by
  rw [UInt64.ofInt, UInt64.toNat_ofNat']
  omega

theorem as_i32_zero : asI32 0 = 0 := as_i32_small (by omega)

theorem as_i32_one : asI32 1 = 1 := as_i32_small (by omega)

end HodeiJobs.Library
