import Mathlib.Algebra.Group.Nat.Defs
import HodeiJobs.Library.Fallible
import HodeiJobs.Library.Runs

/-!
# Operations that may panic

Remainders, increments and accesses by index, as they end in a language that checks them,
and runs of calls made of them.
-/

namespace HodeiJobs.Library

inductive Panic where
  | remainderByZero
  | addWithOverflow
  | indexOutOfBounds (index length : Nat)
  deriving DecidableEq, Repr

/-- `value % modulus`. -/
def remainder (value modulus : Nat) : Except Panic Nat :=
  if modulus = 0 then .error .remainderByZero else .ok (value % modulus)

/-- `value + 1` for a `u64`. Where overflow is not checked the sum wraps. -/
def increment (overflowChecks : Bool) (value : Nat) : Except Panic Nat :=
  if overflowChecks ∧ 2 ^ 64 ≤ value + 1 then .error .addWithOverflow
  else .ok ((value + 1) % 2 ^ 64)

theorem increment_exact_iff (overflowChecks : Bool) (value : Nat) :
    increment overflowChecks value = .ok (value + 1) ↔ value + 1 < 2 ^ 64 := by
  unfold increment
  split_ifs with overflows
  · have large := overflows.2
    simp only [false_iff]
    omega
  · rw [Except.ok.injEq, Nat.mod_eq_iff_lt (by decide)]

theorem increment_overflows {value : Nat} (large : 2 ^ 64 ≤ value + 1) :
    increment true value = .error .addWithOverflow :=
  if_pos ⟨rfl, large⟩

theorem increment_succeeds {overflowChecks : Bool} {value : Nat}
    (small : overflowChecks = true → value + 1 < 2 ^ 64) :
    ∃ sum, increment overflowChecks value = .ok sum := by
  refine ⟨_, if_neg ?_⟩
  intro overflows
  exact absurd (small overflows.1) (Nat.not_lt_of_le overflows.2)

section Slots

variable {Value Result : Type}

/-- `slots[index]`. -/
def readSlot (slots : List Value) (index : Nat) : Except Panic Value :=
  match slots[index]? with
  | some value => .ok value
  | none => .error (.indexOutOfBounds index slots.length)

/-- `slots[index] = value`. -/
def writeSlot (slots : List Value) (index : Nat) (value : Value) : Except Panic (List Value) :=
  if index < slots.length then .ok (slots.set index value)
  else .error (.indexOutOfBounds index slots.length)

theorem remainder_eq_ok_iff {value modulus rest : Nat} :
    remainder value modulus = .ok rest ↔ 0 < modulus ∧ rest = value % modulus := by
  unfold remainder
  split_ifs with zero
  · simp [zero]
  · simp only [Except.ok.injEq, Nat.pos_of_ne_zero zero, true_and, eq_comm]

theorem write_slot_eq_ok_iff {slots next : List Value} {index : Nat} {value : Value} :
    writeSlot slots index value = .ok next ↔
      index < slots.length ∧ next = slots.set index value := by
  unfold writeSlot
  split_ifs with inside
  · simp only [Except.ok.injEq, inside, true_and, eq_comm]
  · simp [inside]

theorem read_slot_inside {slots : List Value} {index : Nat} (inside : index < slots.length) :
    readSlot slots index = .ok slots[index] := by
  unfold readSlot
  rw [List.getElem?_eq_getElem inside]

theorem read_slot_outside {slots : List Value} {index : Nat} (outside : slots.length ≤ index) :
    readSlot slots index = .error (.indexOutOfBounds index slots.length) := by
  unfold readSlot
  rw [List.getElem?_eq_none outside]

/-- A loop over the first slots. -/
def foldSlots (slots : List Value) (combine : Result → Value → Result) (start : Result)
    (count : Nat) : Except Panic Result :=
  (List.range count).foldlM (fun result index => do
    let value ← readSlot slots index
    return combine result value) start

/-- The loop ends if there are as many slots as it counts to; else it panics at the first
index that is missing. -/
theorem fold_slots_eq (slots : List Value) (combine : Result → Value → Result) (start : Result)
    (count : Nat) :
    foldSlots slots combine start count =
      if count ≤ slots.length then .ok ((slots.take count).foldl combine start)
      else .error (.indexOutOfBounds slots.length slots.length) := by
  unfold foldSlots
  induction count with
  | zero => rfl
  | succ count ih =>
      rw [List.range_succ, List.foldlM_append, ih]
      rcases Nat.lt_trichotomy count slots.length with inside | last | outside
      · have taken : slots.take (count + 1) = slots.take count ++ [slots[count]] :=
          List.take_succ_eq_append_getElem inside
        rw [if_pos (Nat.le_of_lt inside), if_pos (Nat.succ_le_of_lt inside), taken, List.foldl_append]
        simp only [List.foldlM_cons, List.foldlM_nil, bind, Except.bind, read_slot_inside inside]
        rfl
      · rw [if_pos (Nat.le_of_eq last), if_neg (by omega)]
        simp only [List.foldlM_cons, bind, Except.bind, read_slot_outside (Nat.le_of_eq last.symm)]
        rw [last]
      · rw [if_neg (by omega), if_neg (by omega)]
        rfl

end Slots

/-! ## Runs -/

section Runs

variable {State Move Failure : Type} {step : State → Move → State}
  {allowed : State → Move → Prop} {attempt : State → Move → Except Failure State}

/-- A run of calls ends well exactly if every call is allowed where it is made. -/
theorem fold_m_ok_iff
    (attemptOk : ∀ state move next, attempt state move = .ok next ↔
      allowed state move ∧ next = step state move) (moves : List Move) (state final : State) :
    moves.foldlM attempt state = .ok final ↔
      EachMove step allowed state moves ∧ final = moves.foldl step state := by
  induction moves generalizing state with
  | nil =>
      simp only [List.foldlM_nil, pure, Except.pure, Except.ok.injEq, EachMove, true_and,
        List.foldl_nil, eq_comm]
  | cons move rest ih =>
      rw [List.foldlM_cons, bind_eq_ok]
      constructor
      · intro ⟨next, attempted, later⟩
        obtain ⟨isAllowed, rfl⟩ := (attemptOk state move next).mp attempted
        obtain ⟨each, same⟩ := (ih _).mp later
        exact ⟨⟨isAllowed, each⟩, same⟩
      · intro ⟨⟨isAllowed, each⟩, same⟩
        exact ⟨step state move, (attemptOk state move _).mpr ⟨isAllowed, rfl⟩,
          (ih _).mpr ⟨each, same⟩⟩

end Runs

end HodeiJobs.Library
