import Mathlib.Data.List.Nodup

/-!
# Keyed tables

A table is a list of rows in which no two rows share a key, read and written
as `SELECT`, `UPDATE` and `INSERT … ON CONFLICT DO UPDATE` do.
-/

namespace HodeiJobs.Library

/-- One more row, with a key of its own. -/
theorem nodup_map_append {Row Key : Type} {key : Row → Key} {rows : List Row} {row : Row}
    (unique : (rows.map key).Nodup) (fresh : ∀ other ∈ rows, key other ≠ key row) :
    ((rows ++ [row]).map key).Nodup := by
  have absent : key row ∉ rows.map key := by
    intro used
    obtain ⟨other, member, same⟩ := List.mem_map.mp used
    exact fresh other member same
  rw [List.map_append, List.map_singleton, ← List.concat_eq_append]
  exact List.Nodup.concat absent unique

structure Table {Row Key : Type} (key : Row → Key) where
  rows : List Row
  unique : (rows.map key).Nodup

namespace Table

variable {Row Key : Type} [DecidableEq Key] {key : Row → Key}

def find (table : Table key) (wanted : Key) : Option Row :=
  table.rows.find? fun row => decide (key row = wanted)

/-- The first row, in the order of the table, that satisfies the condition. -/
def findWhere (table : Table key) (condition : Row → Bool) : Option Row :=
  table.rows.find? condition

/-- `UPDATE … WHERE key = wanted`. No statement assigns the key. -/
def update (table : Table key) (wanted : Key) (change : Row → Row)
    (keepsKey : ∀ row, key (change row) = key row) : Table key where
  rows := table.rows.map fun row => if key row = wanted then change row else row
  unique := by
    have sameKeys : (key ∘ fun row => if key row = wanted then change row else row) = key := by
      funext row
      simp only [Function.comp_apply]
      split_ifs
      · exact keepsKey row
      · rfl
    rw [List.map_map, sameKeys]
    exact table.unique

/-- One `UPDATE` after the other, each of the row with its own key. -/
def updateEach (table : Table key) (keys : List Key) (change : Key → Row → Row)
    (keepsKey : ∀ wanted row, key (change wanted row) = key row) : Table key :=
  keys.foldl (fun table wanted => table.update wanted (change wanted) (keepsKey wanted)) table

/-- `DELETE … WHERE key = wanted`. -/
def delete (table : Table key) (wanted : Key) : Table key where
  rows := table.rows.filter fun row => decide (key row ≠ wanted)
  unique := List.Nodup.sublist (List.filter_sublist.map key) table.unique

/-- `DELETE … WHERE` a condition on the key. -/
def deleteWhere (table : Table key) (condition : Key → Bool) : Table key where
  rows := table.rows.filter fun row => !condition (key row)
  unique := List.Nodup.sublist (List.filter_sublist.map key) table.unique

/-- `HashMap::retain`. -/
def retain (table : Table key) (condition : Row → Bool) : Table key where
  rows := table.rows.filter condition
  unique := List.Nodup.sublist (List.filter_sublist.map key) table.unique

/-- `INSERT … ON CONFLICT (key) DO UPDATE` of every column. -/
def upsert (table : Table key) (row : Row) : Table key :=
  if absent : key row ∉ table.rows.map key then
    { rows := table.rows ++ [row]
      unique := by
        rw [List.map_append]
        refine List.nodup_append.mpr ⟨table.unique, List.nodup_singleton _, ?_⟩
        intro other member wanted single
        rw [List.mem_singleton.mp single]
        intro same
        exact absent (same ▸ member) }
  else
    { rows := table.rows.map fun other => if key other = key row then row else other
      unique := by
        have sameKeys : (key ∘ fun other => if key other = key row then row else other) = key := by
          funext other
          simp only [Function.comp_apply]
          split_ifs with same
          · exact same.symm
          · rfl
        rw [List.map_map, sameKeys]
        exact table.unique }

/-- `INSERT … ON CONFLICT DO UPDATE`, which makes one row of the row that is there and the
row that was to be inserted. -/
def insertOrMerge (table : Table key) (row : Row) (merge : Row → Row → Row) : Table key :=
  match table.find (key row) with
  | none => table.upsert row
  | some existing => table.upsert (merge existing row)

/-- Each row as something else with its key. -/
def view {Other : Type} {otherKey : Other → Key} (table : Table key) (change : Row → Other)
    (sameKey : ∀ row, otherKey (change row) = key row) : Table otherKey where
  rows := table.rows.map change
  unique := by
    have sameKeys : otherKey ∘ change = key := funext sameKey
    rw [List.map_map, sameKeys]
    exact table.unique

/-- `collect` into a map: of two entries with one key, the later one stays. -/
def ofRows (rows : List Row) : Table key := rows.foldl upsert ⟨[], List.nodup_nil⟩

theorem find_some_key {table : Table key} {wanted : Key} {row : Row}
    (found : table.find wanted = some row) : key row = wanted := by
  simpa using List.find?_some found

/-- The key of a row finds that row. -/
theorem find_of_mem {table : Table key} {row : Row} (member : row ∈ table.rows) :
    table.find (key row) = some row := by
  have present : table.find (key row) ≠ none := by
    intro missing
    have absent := List.find?_eq_none.mp missing row member
    exact absent (decide_eq_true rfl)
  obtain ⟨other, found⟩ := Option.ne_none_iff_exists'.mp present
  have same := List.inj_on_of_nodup_map table.unique (List.mem_of_find?_eq_some found) member
    (find_some_key found)
  rw [found, same]

theorem find_where_find {table : Table key} {condition : Row → Bool} {row : Row}
    (found : table.findWhere condition = some row) : table.find (key row) = some row :=
  find_of_mem (List.mem_of_find?_eq_some found)

theorem keys_delete (table : Table key) (wanted : Key) :
    (table.delete wanted).rows.map key = (table.rows.map key).erase wanted := by
  rw [List.Nodup.erase_eq_filter table.unique, List.filter_map, delete]
  congr 1
  apply List.filter_congr
  intro row _
  by_cases same : key row = wanted <;> simp [same]

theorem rows_upsert_of_absent (table : Table key) (row : Row)
    (absent : key row ∉ table.rows.map key) : (table.upsert row).rows = table.rows ++ [row] := by
  rw [upsert, dif_pos absent]

theorem keys_upsert_of_absent (table : Table key) (row : Row)
    (absent : key row ∉ table.rows.map key) :
    (table.upsert row).rows.map key = table.rows.map key ++ [key row] := by
  rw [rows_upsert_of_absent table row absent, List.map_append]
  rfl

theorem rows_foldl_upsert (rows : List Row) (table : Table key)
    (unique : ((table.rows ++ rows).map key).Nodup) :
    (rows.foldl upsert table).rows = table.rows ++ rows := by
  induction rows generalizing table with
  | nil => rw [List.foldl_nil, List.append_nil]
  | cons row rest ih =>
      have absent : key row ∉ table.rows.map key := by
        rw [List.map_append, List.map_cons, List.nodup_append] at unique
        intro present
        exact unique.2.2 (key row) present (key row) List.mem_cons_self rfl
      have appended : (table.upsert row).rows ++ rest = table.rows ++ row :: rest := by
        rw [rows_upsert_of_absent table row absent, List.append_assoc, List.singleton_append]
      rw [List.foldl_cons, ih (table.upsert row) (appended ▸ unique), appended]

/-- The entries of a map are collected into the same map. -/
theorem of_rows_rows (table : Table key) : ofRows table.rows = table := by
  obtain ⟨rows, unique⟩ := table
  have same : (ofRows rows : Table key).rows = rows := rows_foldl_upsert rows ⟨[], _⟩ unique
  generalize (ofRows rows : Table key) = collected at same ⊢
  cases collected
  cases same
  rfl

theorem find_none_iff (table : Table key) (wanted : Key) :
    table.find wanted = none ↔ wanted ∉ table.rows.map key := by
  simp [find, List.find?_eq_none]

section Update

variable (table : Table key) (wanted : Key) (change : Row → Row)
  (keepsKey : ∀ row, key (change row) = key row)

/-- A change that leaves every row alone leaves the table alone. -/
theorem update_of_fixed (fixed : ∀ row, change row = row) :
    table.update wanted change keepsKey = table := by
  obtain ⟨rows, unique⟩ := table
  have same : (rows.map fun row => if key row = wanted then change row else row) = rows := by
    simp only [fixed, ite_self, List.map_id']
  unfold update
  simp only [same]

theorem keys_update :
    (table.update wanted change keepsKey).rows.map key = table.rows.map key := by
  rw [update, List.map_map]
  congr 1
  funext row
  rw [Function.comp_apply]
  split_ifs
  · exact keepsKey row
  · rfl

/-- An update of no row leaves the table alone. -/
theorem update_of_absent (absent : table.find wanted = none) :
    table.update wanted change keepsKey = table := by
  have missing := (find_none_iff table wanted).mp absent
  obtain ⟨rows, unique⟩ := table
  have same : (rows.map fun row => if key row = wanted then change row else row) = rows.map id := by
    apply List.map_congr_left
    intro row member
    apply if_neg
    intro own
    exact missing (List.mem_map.mpr ⟨row, member, own⟩)
  unfold update
  simp only [same, List.map_id]

theorem find_update (other : Key) :
    (table.update wanted change keepsKey).find other =
      if other = wanted then (table.find other).map change else table.find other := by
  have sameKey : ∀ row, key (if key row = wanted then change row else row) = key row := by
    intro row
    split_ifs
    · exact keepsKey row
    · rfl
  unfold find update
  rw [List.find?_map]
  simp only [Function.comp_def, sameKey]
  cases found : table.rows.find? fun row => decide (key row = other) with
  | none => split_ifs <;> rfl
  | some row =>
      have key_row : key row = other := find_some_key found
      rw [Option.map_some, key_row]
      split_ifs <;> rfl

theorem find_update_ne_none_iff (other : Key) :
    (table.update wanted change keepsKey).find other ≠ none ↔ table.find other ≠ none := by
  rw [find_update]
  split_ifs
  · rw [ne_eq, Option.map_eq_none_iff]
  · rfl

/-- A condition that the update leaves alone finds the same row, updated. -/
theorem find_where_update (condition : Row → Bool)
    (keeps : ∀ row, condition (change row) = condition row) :
    (table.update wanted change keepsKey).findWhere condition =
      (table.findWhere condition).map fun row => if key row = wanted then change row else row := by
  unfold findWhere update
  rw [List.find?_map]
  congr 2
  funext row
  simp only [Function.comp_apply]
  split_ifs
  · exact keeps row
  · rfl

end Update

theorem find_view {Other : Type} {otherKey : Other → Key} (table : Table key)
    (change : Row → Other) (sameKey : ∀ row, otherKey (change row) = key row) (wanted : Key) :
    (table.view change sameKey).find wanted = (table.find wanted).map change := by
  unfold find view
  rw [List.find?_map]
  simp only [Function.comp_def, sameKey]

theorem find_update_each (keys : List Key) (table : Table key) (change : Key → Row → Row)
    (keepsKey : ∀ wanted row, key (change wanted row) = key row) (distinct : keys.Nodup)
    (wanted : Key) :
    (table.updateEach keys change keepsKey).find wanted =
      if wanted ∈ keys then (table.find wanted).map (change wanted) else table.find wanted := by
  induction keys generalizing table with
  | nil => rfl
  | cons first rest ih =>
      obtain ⟨apart, distinct⟩ := List.nodup_cons.mp distinct
      have folded : table.updateEach (first :: rest) change keepsKey =
          (table.update first (change first) (keepsKey first)).updateEach rest change keepsKey :=
        rfl
      rw [folded, ih _ distinct, find_update]
      by_cases same : wanted = first
      · subst same
        simp [apart]
      · simp [same]

theorem find_delete (table : Table key) (wanted other : Key) :
    (table.delete wanted).find other = if other = wanted then none else table.find other := by
  unfold find delete
  rw [List.find?_filter]
  split_ifs with same
  · subst same
    rw [List.find?_eq_none]
    intro row _
    simp
  · congr 1
    funext row
    by_cases own : key row = other
    · simp [own, same]
    · simp [own]

theorem find_delete_where (table : Table key) (condition : Key → Bool) (wanted : Key) :
    (table.deleteWhere condition).find wanted =
      if condition wanted then none else table.find wanted := by
  unfold find deleteWhere
  rw [List.find?_filter]
  split_ifs with gone
  · rw [List.find?_eq_none]
    intro row _
    by_cases own : key row = wanted
    · simp [own, gone]
    · simp [own]
  · congr 1
    funext row
    by_cases own : key row = wanted
    · simp [own, gone]
    · simp [own]

theorem find_retain (table : Table key) (condition : Row → Bool) (wanted : Key) :
    (table.retain condition).find wanted = (table.find wanted).filter condition := by
  cases found : table.find wanted with
  | none =>
      rw [Option.filter_none, find_none_iff]
      rw [find_none_iff] at found
      exact fun member => found (List.map_subset key (List.filter_subset_self _) member)
  | some row =>
      have key_row : key row = wanted := find_some_key found
      have stored := List.mem_of_find?_eq_some found
      cases kept : condition row with
      | true =>
          rw [Option.filter_some, if_pos kept, ← key_row]
          exact find_of_mem (List.mem_filter.mpr ⟨stored, kept⟩)
      | false =>
          rw [Option.filter_some, if_neg (by simp [kept]), find_none_iff]
          intro member
          obtain ⟨other, retained, same⟩ := List.mem_map.mp member
          obtain ⟨old, passes⟩ := List.mem_filter.mp retained
          have one := List.inj_on_of_nodup_map table.unique old stored (same.trans key_row.symm)
          rw [one, kept] at passes
          cases passes

theorem rows_eq_nil_iff (table : Table key) :
    table.rows = [] ↔ ∀ wanted, table.find wanted = none := by
  constructor
  · intro empty wanted
    unfold find
    rw [empty]
    rfl
  · intro absent
    rw [List.eq_nil_iff_forall_not_mem]
    intro row member
    have found := find_of_mem member
    rw [absent] at found
    cases found

theorem find_upsert_self (table : Table key) (row : Row) :
    (table.upsert row).find (key row) = some row := by
  unfold upsert
  by_cases absent : key row ∉ table.rows.map key
  · rw [dif_pos absent]
    have missing := (find_none_iff table (key row)).mpr absent
    unfold find at missing ⊢
    rw [List.find?_append, missing, Option.none_or, List.find?_singleton, decide_eq_true rfl,
      if_pos rfl]
  · rw [dif_neg absent]
    have present : table.find (key row) ≠ none := by
      intro missing
      exact absent ((find_none_iff table (key row)).mp missing)
    obtain ⟨other, found⟩ := Option.ne_none_iff_exists'.mp present
    have sameKey : ∀ old, key (if key old = key row then row else old) = key old := by
      intro old
      split_ifs with same
      · exact same.symm
      · rfl
    have key_other := find_some_key found
    unfold find at found ⊢
    rw [List.find?_map]
    simp only [Function.comp_def, sameKey]
    rw [found, Option.map_some, if_pos key_other]

theorem find_upsert_other (table : Table key) (row : Row) {wanted : Key}
    (different : key row ≠ wanted) : (table.upsert row).find wanted = table.find wanted := by
  unfold upsert
  by_cases absent : key row ∉ table.rows.map key
  · rw [dif_pos absent]
    unfold find
    rw [List.find?_append, List.find?_singleton, decide_eq_false different,
      if_neg Bool.false_ne_true, Option.or_none]
  · rw [dif_neg absent]
    have sameKey : ∀ old, key (if key old = key row then row else old) = key old := by
      intro old
      split_ifs with same
      · exact same.symm
      · rfl
    unfold find
    rw [List.find?_map]
    simp only [Function.comp_def, sameKey]
    cases found : table.rows.find? fun old => decide (key old = wanted) with
    | none => rfl
    | some old =>
        have key_old : key old = wanted := find_some_key found
        have kept : key old ≠ key row := fun same => different (same.symm.trans key_old)
        rw [Option.map_some, if_neg kept]

theorem find_insert_or_merge_self (table : Table key) (row : Row) (merge : Row → Row → Row)
    (keepsKey : ∀ existing row, key (merge existing row) = key existing) :
    (table.insertOrMerge row merge).find (key row) =
      some ((table.find (key row)).elim row fun existing => merge existing row) := by
  unfold insertOrMerge
  cases found : table.find (key row) with
  | none => exact find_upsert_self table row
  | some existing =>
      have sameKey : key (merge existing row) = key row :=
        (keepsKey existing row).trans (find_some_key found)
      rw [← sameKey]
      exact find_upsert_self table (merge existing row)

theorem mem_upsert {table : Table key} {row other : Row}
    (member : other ∈ (table.upsert row).rows) : other = row ∨ other ∈ table.rows := by
  have found := find_of_mem member
  by_cases same : key row = key other
  · rw [← same, find_upsert_self] at found
    exact .inl (Option.some.inj found).symm
  · rw [find_upsert_other table row same] at found
    exact .inr (List.mem_of_find?_eq_some found)

theorem mem_rows_iff {table : Table key} {row : Row} :
    row ∈ table.rows ↔ table.find (key row) = some row :=
  ⟨find_of_mem, List.mem_of_find?_eq_some⟩

theorem mem_upsert_iff {table : Table key} {row other : Row} :
    other ∈ (table.upsert row).rows ↔ other = row ∨ key other ≠ key row ∧ other ∈ table.rows := by
  by_cases same : key row = key other
  · rw [mem_rows_iff, ← same, find_upsert_self, Option.some_inj]
    exact ⟨fun is => Or.inl is.symm, fun either => (either.resolve_right fun both => both.1 rfl).symm⟩
  · rw [mem_rows_iff, find_upsert_other table row same, ← mem_rows_iff]
    have different : other ≠ row := fun is => same (is ▸ rfl)
    rw [or_iff_right different, and_iff_right (Ne.symm same)]

theorem mem_delete_iff {table : Table key} {wanted : Key} {row : Row} :
    row ∈ (table.delete wanted).rows ↔ key row ≠ wanted ∧ row ∈ table.rows := by
  unfold delete
  rw [List.mem_filter, decide_eq_true_iff, and_comm]

/-- An update that takes a row out of a condition takes one from the count of its rows. -/
theorem count_update_of_leaves (table : Table key) {wanted : Key} {row : Row}
    (change : Row → Row) (keepsKey : ∀ row, key (change row) = key row) (condition : Row → Bool)
    (found : table.find wanted = some row) (satisfies : condition row = true)
    (leaves : condition (change row) = false) :
    (table.update wanted change keepsKey).rows.countP condition + 1 =
      table.rows.countP condition := by
  obtain ⟨rows, unique⟩ := table
  have isKey : key row = wanted := find_some_key found
  have member : row ∈ rows := List.mem_of_find?_eq_some found
  subst isKey
  clear found
  unfold update
  dsimp only
  induction rows with
  | nil => cases member
  | cons first rest ih =>
      obtain ⟨apart, distinct⟩ := List.nodup_cons.mp unique
      by_cases same : key first = key row
      · have isFirst : row = first := by
          rcases List.mem_cons.mp member with isFirst | later
          · exact isFirst
          · exact absurd (List.mem_map.mpr ⟨row, later, same.symm⟩) apart
        subst isFirst
        have others : (rest.map fun other => if key other = key row then change other else other) =
            rest.map id := by
          apply List.map_congr_left
          intro other isOther
          rw [if_neg (fun same => apart (List.mem_map.mpr ⟨other, isOther, same⟩)), id]
        simp [others, satisfies, leaves]
      · have later : row ∈ rest := by
          rcases List.mem_cons.mp member with isFirst | later
          · exact absurd (congrArg key isFirst.symm) same
          · exact later
        have counted := ih distinct later
        rw [List.map_cons, if_neg same, List.countP_cons, List.countP_cons]
        omega

omit [DecidableEq Key] in
theorem rows_nodup (table : Table key) : table.rows.Nodup := List.Nodup.of_map key table.unique

/-- The row with a key, apart from all others. -/
theorem rows_perm_of_find {table : Table key} {wanted : Key} {row : Row}
    (found : table.find wanted = some row) :
    table.rows.Perm (row :: (table.delete wanted).rows) := by
  have isKey := find_some_key found
  apply (List.perm_ext_iff_of_nodup table.rows_nodup _).mpr
  · intro other
    rw [List.mem_cons, mem_delete_iff]
    constructor
    · intro member
      by_cases same : key other = wanted
      · rw [mem_rows_iff, same, found] at member
        exact .inl (Option.some.inj member).symm
      · exact .inr ⟨same, member⟩
    · intro either
      cases either with
      | inl same => exact same ▸ List.mem_of_find?_eq_some found
      | inr later => exact later.2
  · refine List.nodup_cons.mpr ⟨?_, rows_nodup _⟩
    intro member
    exact (mem_delete_iff.mp member).1 isKey

theorem delete_of_absent {table : Table key} {wanted : Key} (absent : table.find wanted = none) :
    (table.delete wanted).rows = table.rows := by
  apply List.filter_eq_self.mpr
  intro row member
  apply decide_eq_true
  intro same
  rw [mem_rows_iff, same, absent] at member
  cases member

/-- Inserting a row puts it in the place of the one with its key. -/
theorem rows_upsert_perm (table : Table key) (row : Row) :
    (table.upsert row).rows.Perm (row :: (table.delete (key row)).rows) := by
  apply (List.perm_ext_iff_of_nodup (rows_nodup _) _).mpr
  · intro other
    rw [List.mem_cons, mem_upsert_iff, mem_delete_iff]
  · refine List.nodup_cons.mpr ⟨?_, rows_nodup _⟩
    intro member
    exact (mem_delete_iff.mp member).1 rfl

/-! A view of a table after a write is the view from before after a write to it. -/

section View

variable {Other : Type} {otherKey : Other → Key} (table : Table key) (shows : Row → Other)
  (sameKey : ∀ row, otherKey (shows row) = key row)

theorem view_update (wanted : Key) (change : Row → Row)
    (keepsKey : ∀ row, key (change row) = key row) (changed : Other → Other)
    (keepsOther : ∀ other, otherKey (changed other) = otherKey other)
    (commutes : ∀ row, shows (change row) = changed (shows row)) :
    (table.update wanted change keepsKey).view shows sameKey =
      (table.view shows sameKey).update wanted changed keepsOther := by
  unfold view update
  simp only [List.map_map]
  congr 1
  apply List.map_congr_left
  intro row _
  simp only [Function.comp_apply, sameKey]
  split_ifs
  · exact commutes row
  · rfl

theorem view_delete (wanted : Key) :
    (table.delete wanted).view shows sameKey = (table.view shows sameKey).delete wanted := by
  unfold view delete
  simp only [List.filter_map, Function.comp_def, sameKey]

theorem view_upsert (row : Row) :
    (table.upsert row).view shows sameKey = (table.view shows sameKey).upsert (shows row) := by
  have keys : otherKey (shows row) ∈ (table.view shows sameKey).rows.map otherKey ↔
      key row ∈ table.rows.map key := by
    unfold view
    rw [List.map_map, show otherKey ∘ shows = key from funext sameKey, sameKey]
  unfold upsert
  by_cases present : key row ∈ table.rows.map key
  · rw [dif_neg (not_not_intro present), dif_neg (not_not_intro (keys.mpr present))]
    unfold view
    simp only [List.map_map]
    congr 1
    apply List.map_congr_left
    intro other _
    simp only [Function.comp_apply, sameKey]
    split_ifs <;> rfl
  · rw [dif_pos present, dif_pos (mt keys.mp present)]
    unfold view
    simp only [List.map_append, List.map_singleton]

theorem view_insert_or_merge (row : Row) (merge : Row → Row → Row)
    (merged : Other → Other → Other)
    (commutes : ∀ existing, shows (merge existing row) = merged (shows existing) (shows row)) :
    (table.insertOrMerge row merge).view shows sameKey =
      (table.view shows sameKey).insertOrMerge (shows row) merged := by
  unfold insertOrMerge
  rw [find_view, sameKey]
  cases table.find (key row) with
  | none => exact view_upsert table shows sameKey row
  | some existing =>
      rw [Option.map_some]
      dsimp only
      rw [view_upsert, commutes]

end View

end Table

end HodeiJobs.Library
