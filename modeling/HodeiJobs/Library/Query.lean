import Mathlib.Data.List.Sort
import HodeiJobs.Library.Table

/-!
# Queries that return the first rows

`SELECT … WHERE … ORDER BY … LIMIT`: the rows that satisfy a condition, the first of them in
an order. Rows that the order does not tell apart come in the order of the table.
-/

namespace HodeiJobs.Library

namespace Table

variable {Row Key : Type} {key : Row → Key}

def query (table : Table key) (condition : Row → Bool) (before : Row → Row → Prop)
    [DecidableRel before] (limit : Nat) : List Row :=
  ((table.rows.filter condition).insertionSort before).take limit

variable (table : Table key) (condition : Row → Bool) (before : Row → Row → Prop)
  [DecidableRel before] (limit : Nat)

theorem nodup_query : ((table.query condition before limit).map key).Nodup := by
  have sorted := List.perm_insertionSort before (table.rows.filter condition)
  have distinct : ((table.rows.filter condition).map key).Nodup :=
    List.Nodup.sublist (List.filter_sublist.map _) table.unique
  have distinctSorted := (sorted.map key).nodup_iff.mpr distinct
  exact List.Nodup.sublist ((List.take_sublist limit _).map _) distinctSorted

theorem length_query :
    (table.query condition before limit).length = min limit (table.rows.countP condition) := by
  rw [query, List.length_take, List.length_insertionSort, List.countP_eq_length_filter]

variable {table condition before limit}

theorem of_mem_query {row : Row} (member : row ∈ table.query condition before limit) :
    row ∈ table.rows ∧ condition row = true :=
  List.mem_filter.mp ((List.mem_insertionSort _).mp (List.mem_of_mem_take member))

theorem find_of_mem_query [DecidableEq Key] {row : Row}
    (member : row ∈ table.query condition before limit) : table.find (key row) = some row :=
  find_of_mem (of_mem_query member).1

/-- With room for all rows every row that satisfies the condition is returned. -/
theorem mem_query_of_room {row : Row} (stored : row ∈ table.rows) (satisfies : condition row = true)
    (room : table.rows.countP condition ≤ limit) : row ∈ table.query condition before limit := by
  have fits : ((table.rows.filter condition).insertionSort before).length ≤ limit := by
    rw [List.length_insertionSort, ← List.countP_eq_length_filter]
    exact room
  rw [query, List.take_of_length_le fits, List.mem_insertionSort]
  exact List.mem_filter.mpr ⟨stored, satisfies⟩

end Table

/-! ## The first row -/

section First

variable {Row : Type} {notAfter : Row → Row → Bool} {rows : List Row}

/-- The rows that may come first under `ORDER BY`, where the order breaks no ties. -/
def firsts (notAfter : Row → Row → Bool) (rows : List Row) : List Row :=
  rows.filter fun row => rows.all (notAfter row)

/-- `ORDER BY … LIMIT 1`; `choice` breaks the tie. -/
def pick (choice : Nat) (candidates : List Row) : Option Row :=
  candidates[choice % candidates.length]?

/-- Some row comes before all others. -/
theorem exists_first (total : ∀ first second, notAfter first second ∨ notAfter second first)
    (trans : ∀ first second third, notAfter first second → notAfter second third →
      notAfter first third) (nonempty : rows ≠ []) :
    ∃ row ∈ rows, ∀ other ∈ rows, notAfter row other := by
  induction rows with
  | nil => exact absurd rfl nonempty
  | cons row rest ih =>
      have self : notAfter row row := (total row row).elim id id
      by_cases last : rest = []
      · subst last
        refine ⟨row, List.mem_cons_self, ?_⟩
        intro other member
        rw [List.mem_singleton.mp member]
        exact self
      · obtain ⟨earliest, member, first⟩ := ih last
        rcases total row earliest with before | after
        · refine ⟨row, List.mem_cons_self, ?_⟩
          rw [List.forall_mem_cons]
          exact ⟨self, fun other isOther => trans _ _ _ before (first other isOther)⟩
        · refine ⟨earliest, List.mem_cons_of_mem _ member, ?_⟩
          rw [List.forall_mem_cons]
          exact ⟨after, first⟩

theorem firsts_eq_nil_iff
    (total : ∀ first second, notAfter first second ∨ notAfter second first)
    (trans : ∀ first second third, notAfter first second → notAfter second third →
      notAfter first third) : firsts notAfter rows = [] ↔ rows = [] := by
  constructor
  · intro none
    by_contra nonempty
    obtain ⟨row, member, first⟩ := exists_first total trans nonempty
    have isFirst : row ∈ firsts notAfter rows :=
      List.mem_filter.mpr ⟨member, List.all_eq_true.mpr first⟩
    rw [none] at isFirst
    cases isFirst
  · rintro rfl
    rfl

theorem pick_eq_none_iff {choice : Nat} : pick choice rows = none ↔ rows = [] := by
  unfold pick
  rw [List.getElem?_eq_none_iff]
  constructor
  · intro outside
    by_contra nonempty
    exact absurd (Nat.mod_lt choice (List.length_pos_iff.mpr nonempty)) (Nat.not_lt_of_le outside)
  · rintro rfl
    exact Nat.zero_le _

theorem mem_of_pick {choice : Nat} {row : Row} (picked : pick choice rows = some row) :
    row ∈ rows :=
  List.mem_of_getElem? picked

end First

end HodeiJobs.Library
