import HodeiJobs.Library.Table

/-!
# Tables that follow another table

A table of copies mirrors a table of rows when it finds, for every key, what the other one finds.
A write to both keeps this. A write to one of them keeps it only if there is nothing to see of it.
-/

namespace HodeiJobs.Library

variable {Row Copy Key Seen : Type} [DecidableEq Key] {key : Row → Key} {copyKey : Copy → Key}
  {shown : Row → Seen} {seen : Copy → Seen}

/-- Of a copy one sees what the row shows. -/
def Mirrors (shown : Row → Seen) (seen : Copy → Seen) (copies : Table copyKey)
    (rows : Table key) : Prop :=
  ∀ wanted, (copies.find wanted).map seen = (rows.find wanted).map shown

namespace Mirrors

variable {copies : Table copyKey} {rows : Table key}

theorem of_view (rows : Table key) (copy : Row → Copy) (sameKey : ∀ row, copyKey (copy row) = key row)
    (same : ∀ row, seen (copy row) = shown row) :
    Mirrors shown seen (rows.view copy sameKey) rows := by
  intro wanted
  rw [Table.find_view, Option.map_map, ← funext same]
  rfl

theorem find_none_iff (mirrors : Mirrors shown seen copies rows) (wanted : Key) :
    copies.find wanted = none ↔ rows.find wanted = none := by
  rw [← Option.map_eq_none_iff (f := seen), mirrors wanted, Option.map_eq_none_iff]

theorem upsert_both (mirrors : Mirrors shown seen copies rows) {copy : Copy} {row : Row}
    (sameKey : copyKey copy = key row) (same : seen copy = shown row) :
    Mirrors shown seen (copies.upsert copy) (rows.upsert row) := by
  intro wanted
  by_cases own : key row = wanted
  · subst own
    rw [Table.find_upsert_self, ← sameKey, Table.find_upsert_self, Option.map_some, Option.map_some,
      same]
  · rw [Table.find_upsert_other rows row own, Table.find_upsert_other copies copy (sameKey ▸ own)]
    exact mirrors wanted

theorem delete_both (mirrors : Mirrors shown seen copies rows) (gone : Key) :
    Mirrors shown seen (copies.delete gone) (rows.delete gone) := by
  intro wanted
  rw [Table.find_delete, Table.find_delete]
  split_ifs
  · rfl
  · exact mirrors wanted

theorem upsert_rows_iff (mirrors : Mirrors shown seen copies rows) (row : Row) :
    Mirrors shown seen copies (rows.upsert row) ↔
      (rows.find (key row)).map shown = some (shown row) := by
  constructor
  · intro kept
    rw [← mirrors, kept, Table.find_upsert_self, Option.map_some]
  · intro same wanted
    by_cases own : key row = wanted
    · subst own
      rw [mirrors, same, Table.find_upsert_self, Option.map_some]
    · rw [mirrors, Table.find_upsert_other rows row own]

theorem delete_row_iff (mirrors : Mirrors shown seen copies rows) (gone : Key) :
    Mirrors shown seen copies (rows.delete gone) ↔ rows.find gone = none := by
  constructor
  · intro kept
    rw [← mirrors.find_none_iff, kept.find_none_iff, Table.find_delete, if_pos rfl]
  · intro absent wanted
    rw [mirrors, Table.find_delete]
    split_ifs with own
    · rw [own, absent]
    · rfl

theorem update_copies_iff (mirrors : Mirrors shown seen copies rows) (changed : Key)
    (change : Copy → Copy) (keepsKey : ∀ copy, copyKey (change copy) = copyKey copy) :
    Mirrors shown seen (copies.update changed change keepsKey) rows ↔
      ∀ copy, copies.find changed = some copy → seen (change copy) = seen copy := by
  constructor
  · intro kept copy found
    have after := kept changed
    rw [← mirrors, Table.find_update, if_pos rfl, found] at after
    exact Option.some.inj after
  · intro same wanted
    rw [← mirrors, Table.find_update]
    split_ifs with own
    · subst own
      cases found : copies.find wanted with
      | none => rfl
      | some copy => exact congrArg some (same copy found)
    · rfl

end Mirrors

end HodeiJobs.Library
