import Mathlib.Data.List.Basic

/-!
# Scans that stop at the first failure

A scan over the numbers below a bound, or over a list, either passes every
item or has a first one that it does not pass.
-/

namespace HodeiJobs.Library

theorem all_below_or_first (passes : Nat → Prop) (count : Nat) :
    (∀ i < count, passes i) ∨
      ∃ first < count, (∀ i < first, passes i) ∧ ¬passes first := by
  induction count with
  | zero => exact .inl fun i below => absurd below (Nat.not_lt_zero i)
  | succ count ih =>
      rcases ih with all | ⟨first, below, earlier, stops⟩
      · by_cases last : passes count
        · left
          intro i below
          rcases Nat.lt_succ_iff_lt_or_eq.mp below with earlier | rfl
          · exact all i earlier
          · exact last
        · exact .inr ⟨count, Nat.lt_succ_self count, all, last⟩
      · exact .inr ⟨first, Nat.lt_succ_of_lt below, earlier, stops⟩

theorem all_below_or_last (passes : Nat → Prop) (count : Nat) :
    (∀ i < count, passes i) ∨
      ∃ last < count, ¬passes last ∧ ∀ i, last < i → i < count → passes i := by
  induction count with
  | zero => exact .inl fun i below => absurd below (Nat.not_lt_zero i)
  | succ count ih =>
      by_cases top : passes count
      · have known : ∀ i, i < count + 1 → i < count ∨ i = count :=
          fun i below => Nat.lt_succ_iff_lt_or_eq.mp below
        rcases ih with all | ⟨last, below, stops, later⟩
        · left
          intro i within
          rcases known i within with earlier | rfl
          · exact all i earlier
          · exact top
        · refine .inr ⟨last, Nat.lt_succ_of_lt below, stops, ?_⟩
          intro i above within
          rcases known i within with earlier | rfl
          · exact later i above earlier
          · exact top
      · refine .inr ⟨count, Nat.lt_succ_self count, top, ?_⟩
        intro i above within
        omega

theorem all_members_or_first {Item : Type} (passes : Item → Prop) (items : List Item) :
    (∀ item ∈ items, passes item) ∨
      ∃ block item rest, items = block ++ item :: rest ∧
        (∀ earlier ∈ block, passes earlier) ∧ ¬passes item := by
  induction items with
  | nil => exact .inl fun item member => absurd member List.not_mem_nil
  | cons head rest ih =>
      by_cases first : passes head
      · rcases ih with all | ⟨block, item, later, split, earlier, stops⟩
        · left
          intro other member
          rcases List.mem_cons.mp member with rfl | below
          · exact first
          · exact all other below
        · refine .inr ⟨head :: block, item, later, by rw [split, List.cons_append], ?_, stops⟩
          intro other member
          rcases List.mem_cons.mp member with rfl | below
          · exact first
          · exact earlier other below
      · exact .inr ⟨[], head, rest, rfl, fun other member => absurd member List.not_mem_nil,
          first⟩

end HodeiJobs.Library
