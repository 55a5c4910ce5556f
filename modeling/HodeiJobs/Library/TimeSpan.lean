import Mathlib.Algebra.Order.Ring.Rat
import Mathlib.Data.Rat.Floor
import Mathlib.Algebra.Ring.Parity
import Mathlib.Tactic.Linarith
import Mathlib.Tactic.Positivity
import Mathlib.Tactic.Ring

/-!
# Bounded time spans

A length of time in nanoseconds whose seconds fit 64 bits. A factor is a rational number, and the
product with it is rounded to the nearest nanosecond.
-/

namespace HodeiJobs.Library

/-- The nearest integer and, half way between two of them, the even one. -/
def roundEven (value : ℚ) : ℤ :=
  let nearest := ⌊value + 1 / 2⌋
  if (nearest : ℚ) = value + 1 / 2 ∧ ¬ Even nearest then nearest - 1 else nearest

section

variable {value : ℚ} {bound : ℤ}

theorem round_even_int (value : ℤ) : roundEven value = value := by
  have floor : ⌊(value : ℚ) + 1 / 2⌋ = value := by
    rw [Int.floor_eq_iff]
    constructor <;> linarith
  unfold roundEven
  rw [floor]
  apply if_neg
  intro tie
  linarith [tie.1]

theorem round_even_le_iff :
    roundEven value ≤ bound ↔ value < bound + 1 / 2 ∨ value = bound + 1 / 2 ∧ Even bound := by
  have below : ⌊value + 1 / 2⌋ ≤ bound ↔ value < bound + 1 / 2 := by
    rw [Int.floor_le_iff]
    constructor <;> intro less <;> linarith
  have halfway : value = bound + 1 / 2 → ⌊value + 1 / 2⌋ = bound + 1 := by
    intro half
    rw [Int.floor_eq_iff, half]
    push_cast
    constructor <;> linarith
  unfold roundEven
  dsimp only
  split_ifs with tie
  · -- Half way, the floor is the odd neighbour and the result the even one, which is before it.
    obtain ⟨half, odd⟩ := tie
    constructor
    · intro least
      have floor : ⌊value + 1 / 2⌋ ≤ bound ∨ ⌊value + 1 / 2⌋ = bound + 1 := by omega
      rcases floor with early | next
      · exact Or.inl (below.mp early)
      · rw [next, Int.even_add_one, not_not] at odd
        rw [next] at half
        push_cast at half
        exact Or.inr ⟨by linarith, odd⟩
    · rintro (less | ⟨next, -⟩)
      · have early := below.mpr less
        omega
      · have floor := halfway next
        omega
  · rw [below, or_iff_left]
    intro ⟨half, even⟩
    have floor := halfway half
    apply tie
    rw [floor, half, Int.even_add_one, not_not]
    push_cast
    exact ⟨by ring, even⟩

theorem le_round_even (least : (bound : ℚ) ≤ value) : bound ≤ roundEven value := by
  by_contra less
  have before : roundEven value ≤ bound - 1 := by omega
  rcases round_even_le_iff.mp before with close | ⟨close, -⟩
  · push_cast at close
    linarith
  · push_cast at close
    linarith

/-- A number less than a half away is rounded to. -/
theorem round_even_eq (low : (bound : ℚ) - 1 / 2 < value) (high : value < bound + 1 / 2) :
    roundEven value = bound := by
  apply le_antisymm (round_even_le_iff.mpr (Or.inl high))
  by_contra below
  have before : roundEven value ≤ bound - 1 := by omega
  rcases round_even_le_iff.mp before with close | ⟨close, -⟩
  all_goals
    push_cast at close
    linarith

/-- Rounding adds half a unit at most. -/
theorem round_even_le_add_half : (roundEven value : ℚ) ≤ value + 1 / 2 := by
  have floor := Int.floor_le (value + 1 / 2)
  unfold roundEven
  dsimp only
  split_ifs
  · push_cast
    linarith
  · exact floor

end

inductive SpanPanic where
  | negative
  | overflow
  deriving DecidableEq, Repr

@[ext]
structure TimeSpan where
  nanos : Nat
  inRange : nanos < 2 ^ 64 * 10 ^ 9
  deriving DecidableEq

namespace TimeSpan

def ofNanos (nanos : Nat) : Except SpanPanic TimeSpan :=
  if inRange : nanos < 2 ^ 64 * 10 ^ 9 then .ok ⟨nanos, inRange⟩ else .error .overflow

def fromNanos (nanos : UInt64) : TimeSpan where
  nanos := nanos.toNat
  inRange := by
    have below := nanos.toNat_lt
    omega

def fromMillis (millis : UInt64) : TimeSpan where
  nanos := millis.toNat * 10 ^ 6
  inRange := by
    have below := millis.toNat_lt
    omega

def fromSecs (secs : UInt64) : TimeSpan where
  nanos := secs.toNat * 10 ^ 9
  inRange := by
    have below := secs.toNat_lt
    omega

def asSecsF64 (span : TimeSpan) : ℚ := span.nanos / 10 ^ 9

def fromSecsF64 (secs : ℚ) : Except SpanPanic TimeSpan :=
  if secs < 0 then .error .negative else ofNanos (roundEven (secs * 10 ^ 9)).toNat

def mulF64 (span : TimeSpan) (factor : ℚ) : Except SpanPanic TimeSpan :=
  fromSecsF64 (factor * span.asSecsF64)

def add (left right : TimeSpan) : Except SpanPanic TimeSpan := ofNanos (left.nanos + right.nanos)

def min (left right : TimeSpan) : TimeSpan := if left.nanos ≤ right.nanos then left else right

theorem min_nanos (left right : TimeSpan) :
    (left.min right).nanos = Min.min left.nanos right.nanos := by
  unfold min
  split_ifs with order
  · exact (Nat.min_eq_left order).symm
  · exact (Nat.min_eq_right (Nat.le_of_not_le order)).symm

variable {span result : TimeSpan} {secs factor : ℚ}

theorem of_nanos_eq_ok {nanos : Nat} : ofNanos nanos = .ok result ↔ nanos = result.nanos := by
  unfold ofNanos
  split_ifs with inRange
  · rw [Except.ok.injEq, TimeSpan.mk.injEq]
  · simp only [false_iff]
    intro same
    exact inRange (same ▸ result.inRange)

theorem add_eq_ok {other : TimeSpan} :
    span.add other = .ok result ↔ span.nanos + other.nanos = result.nanos := of_nanos_eq_ok

/-- A number of seconds that is not negative becomes the nearest span, where there is one. -/
theorem from_secs_f64_eq_ok (nonneg : 0 ≤ secs) :
    fromSecsF64 secs = .ok result ↔ roundEven (secs * 10 ^ 9) = result.nanos := by
  have rounded : (0 : ℤ) ≤ roundEven (secs * 10 ^ 9) := by
    apply le_round_even
    push_cast
    positivity
  unfold fromSecsF64
  rw [if_neg (not_lt.mpr nonneg), of_nanos_eq_ok]
  omega

theorem mul_f64_eq_ok (nonneg : 0 ≤ factor) :
    span.mulF64 factor = .ok result ↔ roundEven (factor * span.nanos) = result.nanos := by
  have secs : 0 ≤ factor * span.asSecsF64 := by
    unfold asSecsF64
    positivity
  have nanos : factor * span.asSecsF64 * 10 ^ 9 = factor * span.nanos := by
    unfold asSecsF64
    ring
  unfold mulF64
  rw [from_secs_f64_eq_ok secs, nanos]

theorem mul_f64_zero (zero : span.nanos = 0) (nonneg : 0 ≤ factor) :
    span.mulF64 factor = .ok span := by
  rw [mul_f64_eq_ok nonneg, zero, Nat.cast_zero, mul_zero]
  exact round_even_int 0

end TimeSpan

end HodeiJobs.Library
