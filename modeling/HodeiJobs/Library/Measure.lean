import Mathlib.Algebra.BigOperators.Group.List.Basic
import Mathlib.Algebra.GroupWithZero.Nat
import HodeiJobs.Library.Table

/-!
# Sums over tables

What the statements on a table do to the sum of a number that is read off its rows, and to
the number of its rows.
-/

namespace HodeiJobs.Library

namespace Table

variable {Row Key : Type} {key : Row → Key}

def total (table : Table key) (measure : Row → Nat) : Nat := (table.rows.map measure).sum

/-- Two measures that agree away from one row have sums that differ by that row. -/
theorem sum_map_differ {rows : List Row} (unique : (rows.map key).Nodup) {row : Row}
    (member : row ∈ rows) (before after : Row → Nat)
    (others : ∀ other, key other ≠ key row → after other = before other) :
    (rows.map after).sum + before row = (rows.map before).sum + after row := by
  induction rows with
  | nil => cases member
  | cons first rest ih =>
      obtain ⟨apart, distinct⟩ := List.nodup_cons.mp unique
      rcases List.mem_cons.mp member with isFirst | later
      · subst isFirst
        have same : rest.map after = rest.map before := by
          apply List.map_congr_left
          intro other isOther
          exact others other fun same => apart (List.mem_map.mpr ⟨other, isOther, same⟩)
        simp only [List.map_cons, List.sum_cons, same]
        omega
      · have different : key first ≠ key row := by
          intro same
          exact apart (List.mem_map.mpr ⟨row, later, same.symm⟩)
        have counted := ih distinct later
        simp only [List.map_cons, List.sum_cons, others first different]
        omega

variable [DecidableEq Key]

theorem total_delete {table : Table key} {wanted : Key} {row : Row} (measure : Row → Nat)
    (found : table.find wanted = some row) :
    (table.delete wanted).total measure + measure row = table.total measure := by
  have isKey := find_some_key found
  have kept : ∀ rows : List Row,
      ((rows.filter fun other => decide (key other ≠ wanted)).map measure).sum =
        (rows.map fun other => if key other = wanted then 0 else measure other).sum := by
    intro rows
    induction rows with
    | nil => rfl
    | cons first rest ih => by_cases same : key first = wanted <;> simp_all
  have differ := sum_map_differ table.unique (List.mem_of_find?_eq_some found) measure
    (fun other => if key other = wanted then 0 else measure other)
    (fun other different => by rw [if_neg (isKey ▸ different)])
  rw [if_pos isKey, ← kept] at differ
  exact differ

theorem length_delete {table : Table key} {wanted : Key} {row : Row}
    (found : table.find wanted = some row) :
    (table.delete wanted).rows.length + 1 = table.rows.length := by
  simpa [total] using total_delete (fun _ => 1) found

theorem total_upsert (table : Table key) (measure : Row → Nat) (row : Row) :
    (table.upsert row).total measure + ((table.find (key row)).map measure).getD 0 =
      table.total measure + measure row := by
  cases found : table.find (key row) with
  | none =>
      have absent := (find_none_iff table (key row)).mp found
      simp [total, rows_upsert_of_absent table row absent]
  | some old =>
      have isKey := find_some_key found
      have present : ¬key row ∉ table.rows.map key := by
        rw [← find_none_iff, found]
        exact Option.some_ne_none old
      have differ := sum_map_differ table.unique (List.mem_of_find?_eq_some found) measure
        (fun other => measure (if key other = key row then row else other))
        (fun other different => by rw [if_neg (isKey ▸ different)])
      rw [if_pos isKey] at differ
      rw [upsert, dif_neg present]
      simpa [total, Function.comp_def] using differ

theorem length_upsert_new {table : Table key} (row : Row) (absent : table.find (key row) = none) :
    (table.upsert row).rows.length = table.rows.length + 1 := by
  have counted := total_upsert table (fun _ => 1) row
  rw [absent] at counted
  simpa [total] using counted

theorem length_upsert_known {table : Table key} (row : Row)
    (present : table.find (key row) ≠ none) :
    (table.upsert row).rows.length = table.rows.length := by
  rcases Option.ne_none_iff_exists'.mp present with ⟨old, found⟩
  have counted := total_upsert table (fun _ => 1) row
  rw [found] at counted
  simpa [total] using counted

theorem length_upsert_le (table : Table key) (row : Row) :
    (table.upsert row).rows.length ≤ table.rows.length + 1 := by
  by_cases absent : table.find (key row) = none
  · exact Nat.le_of_eq (length_upsert_new row absent)
  · rw [length_upsert_known row absent]
    exact Nat.le_succ _

/-- Each of the keys takes a row of its own with it. -/
theorem length_foldl_delete (keys : List Key) (table : Table key) (distinct : keys.Nodup)
    (known : ∀ wanted ∈ keys, table.find wanted ≠ none) :
    (keys.foldl delete table).rows.length + keys.length = table.rows.length := by
  induction keys generalizing table with
  | nil => rfl
  | cons first rest ih =>
      rcases List.nodup_cons.mp distinct with ⟨apart, distinctRest⟩
      rcases Option.ne_none_iff_exists'.mp (known first List.mem_cons_self) with ⟨row, found⟩
      have one := length_delete found
      have others := ih (table.delete first) distinctRest (by
        intro wanted member
        have different : wanted ≠ first := fun same => apart (same ▸ member)
        rw [find_delete, if_neg different]
        exact known wanted (List.mem_cons_of_mem _ member))
      rw [List.foldl_cons, List.length_cons]
      omega

theorem find_foldl_delete_of_none (keys : List Key) (table : Table key) {wanted : Key}
    (absent : table.find wanted = none) : (keys.foldl delete table).find wanted = none := by
  induction keys generalizing table with
  | nil => exact absent
  | cons first rest ih =>
      apply ih
      rw [find_delete, absent]
      exact ite_self none

/-- An update that leaves a condition alone leaves the count of its rows alone. -/
theorem count_update_of_keeps (table : Table key) (wanted : Key) (change : Row → Row)
    (keepsKey : ∀ row, key (change row) = key row) (condition : Row → Bool)
    (keeps : ∀ row, condition (change row) = condition row) :
    (table.update wanted change keepsKey).rows.countP condition = table.rows.countP condition := by
  have same : (condition ∘ fun row => if key row = wanted then change row else row) =
      condition := by
    funext row
    simp only [Function.comp_apply]
    split_ifs
    · exact keeps row
    · rfl
  rw [update, List.countP_map, same]

/-- Updates that take their rows out of a condition take as many from the count of its rows. -/
theorem count_update_each_of_leaves (keys : List Key) (table : Table key)
    (change : Key → Row → Row) (keepsKey : ∀ wanted row, key (change wanted row) = key row)
    (condition : Row → Bool) (distinct : keys.Nodup)
    (leaves : ∀ wanted ∈ keys, ∃ row, table.find wanted = some row ∧ condition row = true ∧
      condition (change wanted row) = false) :
    (table.updateEach keys change keepsKey).rows.countP condition + keys.length =
      table.rows.countP condition := by
  induction keys generalizing table with
  | nil => rfl
  | cons first rest ih =>
      obtain ⟨apart, distinct⟩ := List.nodup_cons.mp distinct
      obtain ⟨row, found, satisfies, left⟩ := leaves first List.mem_cons_self
      have one := count_update_of_leaves table (change first) (keepsKey first) condition found
        satisfies left
      have others := ih (table.update first (change first) (keepsKey first)) distinct (by
        intro wanted member
        have different : wanted ≠ first := fun same => apart (same ▸ member)
        rw [find_update, if_neg different]
        exact leaves wanted (List.mem_cons_of_mem _ member))
      have folded : table.updateEach (first :: rest) change keepsKey =
          (table.update first (change first) (keepsKey first)).updateEach rest change keepsKey :=
        rfl
      rw [folded, List.length_cons]
      omega

end Table

end HodeiJobs.Library
