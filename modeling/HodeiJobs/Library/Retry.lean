import Mathlib.Data.List.Basic

/-!
# Retry loops

A loop makes attempts until one succeeds, or the last one that its budget allows has failed. What
it does is the list of the actions of its attempts, and of those by which it gives up.
-/

namespace HodeiJobs.Library

structure RetryLoop (Outcome Error Action Result : Type) where
  attempt : Outcome → Except Error Unit × List Action
  done : Result
  /-- Between two attempts, after that many failed ones: the loop may end here. -/
  wait : Nat → Except Result Unit
  /-- After the last error and that many failed attempts. -/
  giveUp : Error → Nat → Result × List Action

namespace RetryLoop

variable {Outcome Error Action Result : Type}

/-- The loop after `failed` attempts, when `left` more of them may fail without being the last. -/
def runFrom (loop : RetryLoop Outcome Error Action Result) :
    Nat → Nat → (Nat → Outcome) → Result × List Action
  | left, failed, outcomes =>
      match loop.attempt (outcomes 0) with
      | (.ok (), actions) => (loop.done, actions)
      | (.error error, actions) =>
          match left with
          | 0 =>
              let last := loop.giveUp error (failed + 1)
              (last.1, actions ++ last.2)
          | left + 1 =>
              match loop.wait (failed + 1) with
              | .error result => (result, actions)
              | .ok () =>
                  let later := runFrom loop left (failed + 1) fun index => outcomes (index + 1)
                  (later.1, actions ++ later.2)

/-- The first attempt is made even if the budget has none. -/
def run (loop : RetryLoop Outcome Error Action Result) (budget : Nat)
    (outcomes : Nat → Outcome) : Result × List Action :=
  loop.runFrom (budget - 1) 0 outcomes

/-- After `failed` attempts, the loop does not end while it waits for the `index`-th of the
others. -/
def Reaches (loop : RetryLoop Outcome Error Action Result) (failed index : Nat) : Prop :=
  ∀ earlier < index, loop.wait (failed + earlier + 1) = .ok ()

section

variable {loop : RetryLoop Outcome Error Action Result} {outcomes : Nat → Outcome}

theorem reaches_succ {failed index : Nat} :
    loop.Reaches failed (index + 1) ↔
      loop.wait (failed + 1) = .ok () ∧ loop.Reaches (failed + 1) index := by
  constructor
  · intro reaches
    refine ⟨reaches 0 (Nat.succ_pos index), fun earlier before => ?_⟩
    rw [Nat.add_right_comm failed 1]
    exact reaches (earlier + 1) (Nat.succ_lt_succ before)
  · intro ⟨now, later⟩ earlier before
    cases earlier with
    | zero => exact now
    | succ earlier =>
        rw [← Nat.add_assoc failed, Nat.add_right_comm failed]
        exact later earlier (Nat.lt_of_succ_lt_succ before)

theorem run_from_of_ok {actions : List Action}
    (succeeds : loop.attempt (outcomes 0) = (.ok (), actions)) (left failed : Nat) :
    loop.runFrom left failed outcomes = (loop.done, actions) := by
  unfold runFrom
  rw [succeeds]

/-- The actions of a failed attempt come before those of the rest of the loop. -/
theorem run_from_of_error {error : Error} {actions : List Action}
    (fails : loop.attempt (outcomes 0) = (.error error, actions)) (left failed : Nat) :
    (loop.runFrom left failed outcomes).2 = actions ++
      match left with
      | 0 => (loop.giveUp error (failed + 1)).2
      | left + 1 =>
          match loop.wait (failed + 1) with
          | .error _ => []
          | .ok () => (loop.runFrom left (failed + 1) fun index => outcomes (index + 1)).2 := by
  cases left with
  | zero =>
      unfold runFrom
      rw [fails]
  | succ left =>
      rw [runFrom, fails]
      cases loop.wait (failed + 1) with
      | error result => exact (List.append_nil actions).symm
      | ok => rfl

/-- The induction over the attempts of a loop, from its end. -/
theorem run_from_induction (holds : List Action → Prop)
    (succeeded : ∀ outcome actions, loop.attempt outcome = (.ok (), actions) → holds actions)
    (again : ∀ outcome error actions rest, loop.attempt outcome = (.error error, actions) →
      holds rest → holds (actions ++ rest))
    (stopped : holds []) (last : ∀ error failed, holds (loop.giveUp error failed).2)
    (left failed : Nat) (outcomes : Nat → Outcome) :
    holds (loop.runFrom left failed outcomes).2 := by
  induction left generalizing failed outcomes with
  | zero =>
      rcases attempted : loop.attempt (outcomes 0) with ⟨result | _, actions⟩
      · rw [run_from_of_error attempted]
        exact again _ _ _ _ attempted (last _ _)
      · rw [run_from_of_ok attempted]
        exact succeeded _ _ attempted
  | succ left ih =>
      rcases attempted : loop.attempt (outcomes 0) with ⟨result | _, actions⟩
      · rw [run_from_of_error attempted]
        apply again _ _ _ _ attempted
        dsimp only
        split
        · exact stopped
        · exact ih _ _
      · rw [run_from_of_ok attempted]
        exact succeeded _ _ attempted

/-- Where the other attempts fail and do not matter, the first one that does decides over the
actions of the loop. -/
theorem run_from_iff {good : List Action → Prop} {decides passes : Outcome → Prop}
    (skipped : ∀ outcome, ¬decides outcome → ∃ error actions,
      loop.attempt outcome = (.error error, actions) ∧ ∀ rest, good (actions ++ rest) ↔ good rest)
    (stopped : good []) (last : ∀ error failed, good (loop.giveUp error failed).2)
    (decided : ∀ left failed outcomes, decides (outcomes 0) →
      (good (loop.runFrom left failed outcomes).2 ↔ passes (outcomes 0)))
    (left failed : Nat) (outcomes : Nat → Outcome) :
    good (loop.runFrom left failed outcomes).2 ↔
      ∀ index ≤ left, loop.Reaches failed index →
        (∀ earlier < index, ¬decides (outcomes earlier)) →
          decides (outcomes index) → passes (outcomes index) := by
  induction left generalizing failed outcomes with
  | zero =>
      by_cases now : decides (outcomes 0)
      · rw [decided 0 failed outcomes now]
        constructor
        · intro pass index isFirst _ _ _
          rw [Nat.le_zero.mp isFirst]
          exact pass
        · intro all
          exact all 0 (Nat.le_refl 0) (fun _ none => absurd none (Nat.not_lt_zero _))
            (fun _ none => absurd none (Nat.not_lt_zero _)) now
      · rcases skipped _ now with ⟨error, actions, attempted, same⟩
        rw [run_from_of_error attempted, same]
        apply iff_of_true (last _ _)
        intro index isFirst _ _ decides
        rw [Nat.le_zero.mp isFirst] at decides
        exact absurd decides now
  | succ left ih =>
      by_cases now : decides (outcomes 0)
      · rw [decided (left + 1) failed outcomes now]
        constructor
        · intro pass index _ _ none _
          cases index with
          | zero => exact pass
          | succ index => exact absurd now (none 0 (Nat.succ_pos index))
        · intro all
          exact all 0 (Nat.zero_le _) (fun _ none => absurd none (Nat.not_lt_zero _))
            (fun _ none => absurd none (Nat.not_lt_zero _)) now
      · rcases skipped _ now with ⟨error, actions, attempted, same⟩
        rw [run_from_of_error attempted, same]
        dsimp only
        cases waited : loop.wait (failed + 1) with
        | error result =>
            apply iff_of_true stopped
            intro index inside reached _ decides
            cases index with
            | zero => exact absurd decides now
            | succ index =>
                rw [reaches_succ, waited] at reached
                cases reached.1
        | ok =>
            dsimp only
            rw [ih]
            constructor
            · intro later index inside reached none decides
              cases index with
              | zero => exact absurd decides now
              | succ index =>
                  apply later index (Nat.le_of_succ_le_succ inside) (reaches_succ.mp reached).2 _
                    decides
                  intro earlier before
                  exact none (earlier + 1) (Nat.succ_lt_succ before)
            · intro all index inside reached none decides
              apply all (index + 1) (Nat.succ_le_succ inside) (reaches_succ.mpr ⟨waited, reached⟩)
                _ decides
              intro earlier before
              cases earlier with
              | zero => exact now
              | succ earlier => exact none earlier (Nat.lt_of_succ_lt_succ before)

end

end RetryLoop

end HodeiJobs.Library
