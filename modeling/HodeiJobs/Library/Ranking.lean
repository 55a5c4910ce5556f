import Mathlib.Data.List.Basic

/-!
# Ranking

Items sorted by a comparison, of which the first is taken.
-/

namespace HodeiJobs.Library

variable {Item : Type} {compare : Item → Item → Ordering} {items : List Item}

/-- A stable sort: items that the comparison does not tell apart keep their order. -/
def sortBy (compare : Item → Item → Ordering) (items : List Item) : List Item :=
  items.mergeSort fun first second => (compare first second).isLE

theorem mem_sort_by {item : Item} : item ∈ sortBy compare items ↔ item ∈ items :=
  List.mem_mergeSort

theorem sort_by_eq_nil_iff : sortBy compare items = [] ↔ items = [] := by
  rw [← List.length_eq_zero_iff, sortBy, List.length_mergeSort, List.length_eq_zero_iff]

/-- The first item is one that comes before every other. -/
theorem head_sort_by [Std.TransCmp compare] {best : Item}
    (first : (sortBy compare items).head? = some best) :
    best ∈ items ∧ ∀ item ∈ items, (compare best item).isLE = true := by
  have sorted : (sortBy compare items).Pairwise fun first second =>
      (compare first second).isLE = true := by
    apply List.pairwise_mergeSort
    · intro _ _ _
      exact Std.TransCmp.isLE_trans
    · intro left right
      have swapped : compare right left = (compare left right).swap := Std.OrientedCmp.eq_swap
      rw [swapped]
      cases compare left right <;> rfl
  refine ⟨mem_sort_by.mp (List.mem_of_mem_head? first), ?_⟩
  intro item member
  have listed : item ∈ sortBy compare items := mem_sort_by.mpr member
  obtain ⟨rest, isSorted⟩ := List.head?_eq_some_iff.mp first
  rw [isSorted] at sorted listed
  rw [List.pairwise_cons] at sorted
  rcases List.mem_cons.mp listed with same | later
  · rw [same]
    exact Std.ReflCmp.isLE_rfl
  · exact sorted.1 item later

end HodeiJobs.Library
