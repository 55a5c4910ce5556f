import Mathlib.Data.List.Rotate

/-!
# The last values of a sequence

A window of fixed size over a sequence that grows at one end, and a ring of slots
that is overwritten in turn and holds it.
-/

namespace HodeiJobs.Library

variable {Value : Type}

/-- The newest values, newest first. Values that were never given count as `fill`. -/
def lastValues (size : Nat) (fill : Value) (newest : List Value) : List Value :=
  (newest ++ List.replicate size fill).take size

@[simp] theorem last_values_length (size : Nat) (fill : Value) (newest : List Value) :
    (lastValues size fill newest).length = size := by
  simp [lastValues]

theorem last_values_cons (size : Nat) (fill value : Value) (newest : List Value)
    (room : 0 < size) :
    lastValues size fill (value :: newest) =
      value :: (lastValues size fill newest).dropLast := by
  obtain ⟨size, rfl⟩ := Nat.exists_eq_succ_of_ne_zero (Nat.ne_of_gt room)
  rw [List.dropLast_eq_take, last_values_length]
  simp [lastValues, List.take_take]

/-- The slot that follows the newest value is the first of the rotated ring. -/
theorem rotate_succ_set (ring : List Value) (count : Nat) (value : Value)
    (room : 0 < ring.length) :
    (ring.set (count % ring.length) value).rotate (count + 1) =
      (ring.rotate count).tail ++ [value] := by
  have inside : count % ring.length < ring.length := Nat.mod_lt _ room
  have tail : (ring.rotate count).tail =
      ring.drop (count % ring.length + 1) ++ ring.take (count % ring.length) := by
    rw [← List.rotate_mod, List.rotate_eq_drop_append_take inside.le,
      List.drop_eq_getElem_cons inside]
    rfl
  have rotated : (ring.set (count % ring.length) value).rotate count =
      value :: (ring.rotate count).tail := by
    rw [tail, ← List.rotate_mod, List.length_set,
      List.rotate_eq_drop_append_take (by simp [inside.le]),
      List.drop_eq_getElem_cons (by simpa)]
    simp only [List.drop_set, List.take_set, List.getElem_set_self]
    rw [List.set_eq_of_length_le (List.length_take_le _ _)]
    simp
  rw [← List.rotate_rotate, rotated]
  simp

/-- The ring, read backwards from the slot after the one written last, begins with the
last values, as many of them as `depth`. -/
def HoldsLast (ring : List Value) (fill : Value) (newest : List Value) (slot depth : Nat) : Prop :=
  (ring.rotate slot).reverse.take depth = (lastValues ring.length fill newest).take depth

theorem holds_last_start (size : Nat) (fill : Value) (slot depth : Nat) :
    HoldsLast (List.replicate size fill) fill [] slot depth := by
  simp [HoldsLast, lastValues]

/-- Nothing is said about a ring of which no value is known. -/
theorem holds_last_none (ring : List Value) (fill : Value) (newest : List Value) (slot : Nat) :
    HoldsLast ring fill newest slot 0 := by
  simp [HoldsLast]

theorem holds_last_set (ring : List Value) (fill value : Value) (newest : List Value)
    (slot depth : Nat) (room : 0 < ring.length) (holds : HoldsLast ring fill newest slot depth) :
    HoldsLast (ring.set (slot % ring.length) value) fill (value :: newest)
      (slot + 1) (depth + 1) := by
  unfold HoldsLast at *
  rw [rotate_succ_set ring slot value room, List.length_set, last_values_cons _ _ _ _ room,
    List.reverse_append, List.reverse_singleton, List.singleton_append, ← List.dropLast_reverse,
    List.take_succ_cons, List.take_succ_cons, List.dropLast_eq_take, List.dropLast_eq_take,
    List.take_take, List.take_take, Nat.min_comm, ← List.take_take, holds, List.take_take]
  simp [Nat.min_comm]

theorem holds_last_mono {ring : List Value} {fill : Value} {newest : List Value}
    {slot depth fewer : Nat} (few : fewer ≤ depth) (holds : HoldsLast ring fill newest slot depth) :
    HoldsLast ring fill newest slot fewer := by
  unfold HoldsLast at *
  rw [← Nat.min_eq_left few, ← List.take_take, holds, List.take_take]

theorem holds_last_perm (ring : List Value) (fill : Value) (newest : List Value)
    (slot : Nat) (holds : HoldsLast ring fill newest slot ring.length) :
    ring.Perm (lastValues ring.length fill newest) := by
  have whole : (ring.rotate slot).reverse = lastValues ring.length fill newest := by
    simpa [HoldsLast, List.take_of_length_le] using holds
  rw [← whole]
  exact ((List.reverse_perm _).trans (List.rotate_perm _ _)).symm

end HodeiJobs.Library
