import Mathlib.Logic.Function.Iterate
import Mathlib.Tactic.SplitIfs

/-!
# Scans of a circle of slots

A search that goes from slot to slot, starting where the last one ended, and takes the first
that is free.
-/

namespace HodeiJobs.Library

variable {Slot : Type}

/-- Looks at `tries` slots, one after the other. What it finds stands with the slot from which the
next search starts. -/
def circularScan (taken : Slot → Bool) (after : Slot → Slot) : Nat → Slot → Option Slot × Slot
  | 0, cursor => (none, cursor)
  | tries + 1, cursor =>
      if taken cursor then circularScan taken after tries (after cursor)
      else (some cursor, after cursor)

variable {taken : Slot → Bool} {after : Slot → Slot} {tries : Nat} {start slot : Slot}

/-- What is found is free, one of the slots looked at, and the next search starts behind it. -/
theorem scan_found (found : (circularScan taken after tries start).1 = some slot) :
    taken slot = false ∧ (∃ count < tries, after^[count] start = slot) ∧
      (circularScan taken after tries start).2 = after slot := by
  induction tries generalizing start with
  | zero => cases found
  | succ tries ih =>
      unfold circularScan at found ⊢
      split_ifs at found ⊢ with isTaken
      · obtain ⟨free, ⟨count, below, reaches⟩, cursor⟩ := ih found
        refine ⟨free, ⟨count + 1, Nat.succ_lt_succ below, ?_⟩, cursor⟩
        rw [Function.iterate_succ_apply]
        exact reaches
      · cases found
        exact ⟨Bool.eq_false_iff.mpr isTaken, ⟨0, Nat.zero_lt_succ tries, rfl⟩, rfl⟩

theorem scan_none_iff : (circularScan taken after tries start).1 = none ↔
    ∀ count < tries, taken (after^[count] start) = true := by
  induction tries generalizing start with
  | zero => simp [circularScan]
  | succ tries ih =>
      unfold circularScan
      split_ifs with isTaken
      · rw [ih]
        constructor
        · intro later count below
          cases count with
          | zero => exact isTaken
          | succ count => exact later count (Nat.lt_of_succ_lt_succ below)
        · intro all count below
          exact all (count + 1) (Nat.succ_lt_succ below)
      · simp only [false_iff]
        intro all
        exact isTaken (all 0 (Nat.zero_lt_succ tries))

/-- A search that finds nothing has gone as many slots on as it has looked at. -/
theorem cursor_of_scan_none (nothing : (circularScan taken after tries start).1 = none) :
    (circularScan taken after tries start).2 = after^[tries] start := by
  induction tries generalizing start with
  | zero => rfl
  | succ tries ih =>
      unfold circularScan at nothing ⊢
      split_ifs at nothing ⊢
      rw [Function.iterate_succ_apply]
      exact ih nothing

/-- Over a circle that as many steps go around, a search finds nothing only where no slot is free,
and it ends where it began. -/
theorem scan_around (around : ∀ slot, (∃ count, after^[count] start = slot) →
      ∃ count < tries, after^[count] start = slot) (closes : after^[tries] start = start)
    (nothing : (circularScan taken after tries start).1 = none) :
    (∀ count, taken (after^[count] start) = true) ∧
      (circularScan taken after tries start).2 = start := by
  refine ⟨?_, (cursor_of_scan_none nothing).trans closes⟩
  intro count
  obtain ⟨within, below, same⟩ := around _ ⟨count, rfl⟩
  rw [← same]
  exact scan_none_iff.mp nothing within below

end HodeiJobs.Library
