import Mathlib.Data.List.Count
import HodeiJobs.Library.Query
import HodeiJobs.Library.Runs
import HodeiJobs.Sagas.Types

/-!
# The command outbox

The records of `domain/src/command/outbox.rs` and the statements with which
`PostgresCommandOutboxRepository` reads and writes `hodei_commands`. Text columns that hold
an id, a target type or a status are given as what they are written from and read back to.
-/

namespace HodeiJobs.Commands

open HodeiJobs.Library
open HodeiJobs.Sagas (Json Uuid DateTime)

inductive CommandTargetType where
  | job
  | worker
  | provider
  | saga
  deriving DecidableEq

inductive CommandOutboxStatus where
  | pending
  | completed
  | failed
  | cancelled
  deriving DecidableEq

/-- The texts of `sqlx` and `serde_json` errors are theirs and never looked at. -/
inductive CommandOutboxError where
  | database
  | serialization
  | duplicateIdempotencyKey (key : String)
  | notFound (id : Uuid)
  | handlerError (message : String)
  deriving DecidableEq

structure CommandOutboxInsert where
  targetId : Uuid
  targetType : CommandTargetType
  commandType : String
  payload : Json
  metadata : Option Json
  idempotencyKey : Option String

structure CommandOutboxRecord where
  id : Uuid
  targetId : Uuid
  targetType : CommandTargetType
  commandType : String
  payload : Json
  metadata : Option Json
  idempotencyKey : Option String
  status : CommandOutboxStatus
  createdAt : DateTime
  processedAt : Option DateTime
  retryCount : Int
  lastError : Option String

/-- A row of `hodei_commands`: the record and the column that no reader selects. -/
structure CommandRow extends CommandOutboxRecord where
  maxRetries : Int

abbrev CommandTable := Table fun row : CommandRow => row.id

namespace CommandTable

/-- The row that `INSERT` writes. It leaves `metadata` and the counters at their defaults;
that of `max_retries` is 3. -/
def insertedRow (id : Uuid) (now : DateTime) (maxRetries : Int) (command : CommandOutboxInsert) :
    CommandRow where
  id := id
  targetId := command.targetId
  targetType := command.targetType
  commandType := command.commandType
  payload := command.payload
  metadata := none
  idempotencyKey := command.idempotencyKey
  status := .pending
  createdAt := now
  processedAt := none
  retryCount := 0
  lastError := none
  maxRetries := maxRetries

/-- The row with the key of the command, `idempotency_key` being unique. -/
def conflicting (table : CommandTable) (command : CommandOutboxInsert) : Option CommandRow :=
  table.findWhere fun row =>
    decide (row.idempotencyKey = command.idempotencyKey ∧ command.idempotencyKey ≠ none)

/-- `insert_command`, with the id that it draws. -/
def insertCommand (table : CommandTable) (id : Uuid) (now : DateTime) (maxRetries : Int)
    (command : CommandOutboxInsert) : CommandTable × Except CommandOutboxError Uuid :=
  match table.conflicting command with
  | some existing => (table, .ok existing.id)
  | none =>
      match table.find id with
      | some _ => (table, .error .database)
      | none => (table.upsert (insertedRow id now maxRetries command), .ok id)

/-- The `WHERE` clause of `get_pending_commands`. -/
def selected (row : CommandRow) : Bool :=
  decide (row.status = .pending ∧ row.retryCount < row.maxRetries)

/-- `ORDER BY created_at ASC`. -/
def olderRow (row other : CommandRow) : Prop := row.createdAt ≤ other.createdAt

instance : DecidableRel olderRow := fun row other =>
  inferInstanceAs (Decidable (row.createdAt ≤ other.createdAt))

/-- The parameter `_max_retries` is not used, and a lock of `FOR UPDATE SKIP LOCKED` ends with
the statement. -/
def getPendingCommands (table : CommandTable) (limit : Nat) (_maxRetries : Int) :
    List CommandOutboxRecord :=
  (table.query selected olderRow limit).map CommandRow.toCommandOutboxRecord

def completedRow (now : DateTime) (row : CommandRow) : CommandRow :=
  { row with status := .completed, processedAt := some now, lastError := none }

def failedRow (error : String) (row : CommandRow) : CommandRow :=
  { row with status := .failed, retryCount := row.retryCount + 1, lastError := some error }

/-- The row after a mark, by the error of the mark if it has one. -/
def markedRow (now : DateTime) : Option String → CommandRow → CommandRow
  | none => completedRow now
  | some error => failedRow error

theorem marked_row_id (now : DateTime) (error : Option String) (row : CommandRow) :
    (markedRow now error row).id = row.id := by
  cases error <;> rfl

theorem marked_row_not_pending (now : DateTime) (error : Option String) (row : CommandRow) :
    (markedRow now error row).status ≠ .pending := by
  cases error <;> exact fun pending => by cases pending

theorem marked_row_max_retries (now : DateTime) (error : Option String) (row : CommandRow) :
    (markedRow now error row).maxRetries = row.maxRetries := by
  cases error <;> rfl

def markCompleted (table : CommandTable) (now : DateTime) (id : Uuid) : CommandTable :=
  table.update id (completedRow now) fun _ => rfl

def markFailed (table : CommandTable) (id : Uuid) (error : String) : CommandTable :=
  table.update id (failedRow error) fun _ => rfl

/-- The mark by its error, if it has one. -/
def mark (table : CommandTable) (now : DateTime) (id : Uuid) (error : Option String) :
    CommandTable :=
  match error with
  | none => table.markCompleted now id
  | some error => table.markFailed id error

theorem mark_eq_update (table : CommandTable) (now : DateTime) (id : Uuid)
    (error : Option String) :
    table.mark now id error =
      table.update id (markedRow now error) (marked_row_id now error) := by
  cases error <;> rfl

/-! ## What the statements select and leave -/

variable {table : CommandTable} {limit : Nat} {maxRetries : Int} {record : CommandOutboxRecord}

theorem mem_get_pending (member : record ∈ table.getPendingCommands limit maxRetries) :
    ∃ row, table.find record.id = some row ∧ row.toCommandOutboxRecord = record ∧
      row.status = .pending ∧ row.retryCount < row.maxRetries := by
  obtain ⟨row, returned, same⟩ := List.mem_map.mp member
  obtain ⟨pending, retries⟩ := of_decide_eq_true (Table.of_mem_query returned).2
  subst same
  exact ⟨row, Table.find_of_mem_query returned, rfl, pending, retries⟩

/-- With room for all rows every selected row is returned. -/
theorem mem_get_pending_of_room {row : CommandRow} (found : table.find row.id = some row)
    (selects : selected row = true) (room : table.rows.length ≤ limit) :
    row.toCommandOutboxRecord ∈ table.getPendingCommands limit maxRetries := by
  have stored := List.mem_of_find?_eq_some found
  have fits : table.rows.countP selected ≤ limit := Nat.le_trans List.countP_le_length room
  exact List.mem_map.mpr ⟨row, Table.mem_query_of_room stored selects fits, rfl⟩

/-- No command is returned twice. -/
theorem nodup_get_pending (table : CommandTable) (limit : Nat) (maxRetries : Int) :
    ((table.getPendingCommands limit maxRetries).map CommandOutboxRecord.id).Nodup := by
  unfold getPendingCommands
  rw [List.map_map]
  exact Table.nodup_query table selected olderRow limit

/-- An insertion leaves every other row, and adds at most the new one. -/
theorem find_insert (table : CommandTable) (id : Uuid) (now : DateTime) (maxRetries : Int)
    (command : CommandOutboxInsert) (wanted : Uuid) :
    (table.insertCommand id now maxRetries command).1.find wanted = table.find wanted ∨
      wanted = id ∧ table.find id = none ∧
        (table.insertCommand id now maxRetries command).1.find wanted =
          some (insertedRow id now maxRetries command) := by
  unfold insertCommand
  split
  · exact .inl rfl
  · split
    · exact .inl rfl
    · next fresh =>
        by_cases same : id = wanted
        · subst same
          exact .inr ⟨rfl, fresh,
            Table.find_upsert_self table (insertedRow id now maxRetries command)⟩
        · exact .inl (Table.find_upsert_other table (insertedRow id now maxRetries command) same)

theorem find_insert_of_some {id wanted : Uuid} {now : DateTime} {maxRetries : Int}
    {command : CommandOutboxInsert} {row : CommandRow} (found : table.find wanted = some row) :
    (table.insertCommand id now maxRetries command).1.find wanted = some row := by
  rcases find_insert table id now maxRetries command wanted with same | ⟨isNew, fresh, -⟩
  · exact same.trans found
  · rw [isNew, fresh] at found
    cases found

theorem find_mark (table : CommandTable) (now : DateTime) (id : Uuid) (error : Option String)
    (wanted : Uuid) :
    (table.mark now id error).find wanted =
      if wanted = id then (table.find wanted).map (markedRow now error)
      else table.find wanted := by
  rw [mark_eq_update, Table.find_update]

end CommandTable

/-! ## Passes of a relay -/

/-- The table, and the commands marked in either way, once for each mark. -/
structure OutboxRun where
  table : CommandTable
  completed : List Uuid
  failed : List Uuid

/-- In a pass the outcome of a returned command is the error it is marked failed with, or
nothing if it is marked completed. -/
inductive OutboxMove where
  | insert (id : Uuid) (now : DateTime) (maxRetries : Int) (command : CommandOutboxInsert)
  | pass (limit : Nat) (maxRetries : Int) (now : DateTime) (outcome : Uuid → Option String)

namespace OutboxRun

def start : OutboxRun := ⟨⟨[], List.nodup_nil⟩, [], []⟩

def mark (now : DateTime) (outcome : Uuid → Option String) (run : OutboxRun) (id : Uuid) :
    OutboxRun :=
  let table := run.table.mark now id (outcome id)
  match outcome id with
  | none => { run with table := table, completed := run.completed ++ [id] }
  | some _ => { run with table := table, failed := run.failed ++ [id] }

def returned (run : OutboxRun) (limit : Nat) (maxRetries : Int) : List Uuid :=
  (run.table.getPendingCommands limit maxRetries).map CommandOutboxRecord.id

def step (run : OutboxRun) : OutboxMove → OutboxRun
  | .insert id now maxRetries command =>
      { run with table := (run.table.insertCommand id now maxRetries command).1 }
  | .pass limit maxRetries now outcome =>
      (run.returned limit maxRetries).foldl (mark now outcome) run

/-- A command that was neither marked completed nor marked failed `max_retries` times is
returned by every query with room for it. -/
def KeepsReturning (run : OutboxRun) : Prop :=
  ∀ row, run.table.find row.id = some row → row.id ∉ run.completed →
    (run.failed.count row.id : Int) < row.maxRetries →
    ∀ limit maxRetries, run.table.rows.length ≤ limit →
      row.toCommandOutboxRecord ∈ run.table.getPendingCommands limit maxRetries

/-- A pass fails only commands that have a single attempt. -/
def FailsSingleAttempts (run : OutboxRun) : OutboxMove → Prop
  | .insert _ _ _ _ => True
  | .pass limit maxRetries _ outcome =>
      ∀ row, run.table.find row.id = some row → row.id ∈ run.returned limit maxRetries →
        outcome row.id ≠ none → row.maxRetries ≤ 1

/-- A pending command was never marked. -/
structure Counted (run : OutboxRun) : Prop where
  pending : ∀ row, run.table.find row.id = some row → row.status = .pending →
    row.id ∉ run.completed ∧ row.id ∉ run.failed ∧ row.retryCount = 0
  stored : ∀ id, id ∈ run.completed ∨ id ∈ run.failed → run.table.find id ≠ none

section

variable {run : OutboxRun} {now : DateTime} {outcome : Uuid → Option String}

theorem start_counted : start.Counted := by
  constructor
  · intro row found
    cases found
  · intro id marked
    simp [start] at marked

/-- The marks of a pass, over all ids that it marks. -/
theorem fold_mark (ids : List Uuid) (run : OutboxRun) :
    ids.foldl (mark now outcome) run =
      { table := run.table.updateEach ids (fun id => CommandTable.markedRow now (outcome id))
          fun id row => CommandTable.marked_row_id now (outcome id) row
        completed := run.completed ++ ids.filter fun id => (outcome id).isNone
        failed := run.failed ++ ids.filter fun id => (outcome id).isSome } := by
  induction ids generalizing run with
  | nil => simp [Table.updateEach]
  | cons id rest ih =>
      rw [List.foldl_cons, ih]
      cases marks : outcome id <;>
        simp [mark, marks, Table.updateEach, CommandTable.mark_eq_update]

theorem nodup_returned (run : OutboxRun) (limit : Nat) (maxRetries : Int) :
    (run.returned limit maxRetries).Nodup :=
  CommandTable.nodup_get_pending run.table limit maxRetries

theorem returned_pending {limit : Nat} {maxRetries : Int} {id : Uuid}
    (returned : id ∈ run.returned limit maxRetries) :
    ∃ row, run.table.find id = some row ∧ row.status = .pending := by
  obtain ⟨record, member, same⟩ := List.mem_map.mp returned
  obtain ⟨row, found, -, pending, -⟩ := CommandTable.mem_get_pending member
  exact ⟨row, same ▸ found, pending⟩

/-- Being returned whenever there is room is being selected. -/
theorem keeps_returning_iff (run : OutboxRun) :
    run.KeepsReturning ↔ ∀ row, run.table.find row.id = some row → row.id ∉ run.completed →
      (run.failed.count row.id : Int) < row.maxRetries → CommandTable.selected row = true := by
  constructor
  · intro keeps row found incomplete retries
    have member := keeps row found incomplete retries run.table.rows.length 0 (Nat.le_refl _)
    obtain ⟨other, isOther, -, pending, less⟩ := CommandTable.mem_get_pending member
    rw [found] at isOther
    cases isOther
    exact decide_eq_true ⟨pending, less⟩
  · intro keeps row found incomplete retries limit maxRetries room
    exact CommandTable.mem_get_pending_of_room found (keeps row found incomplete retries) room

theorem counted_insert (counted : run.Counted) (id : Uuid) (maxRetries : Int)
    (command : CommandOutboxInsert) :
    (run.step (.insert id now maxRetries command)).Counted := by
  have find := CommandTable.find_insert run.table id now maxRetries command
  constructor
  · intro row found pending
    rcases find row.id with same | ⟨isNew, fresh, added⟩
    · exact counted.pending row (same.symm.trans found) pending
    · have unmarked : ¬(row.id ∈ run.completed ∨ row.id ∈ run.failed) := by
        intro marked
        exact counted.stored row.id marked (isNew ▸ fresh)
      cases Option.some.inj (added.symm.trans found)
      exact ⟨fun completed => unmarked (.inl completed), fun failed => unmarked (.inr failed), rfl⟩
  · intro wanted marked
    have stored := counted.stored wanted marked
    rcases find wanted with same | ⟨isNew, fresh, -⟩
    · exact fun missing => stored (same.symm.trans missing)
    · exact absurd (isNew ▸ fresh) stored

section

variable (run) (limit : Nat) (maxRetries : Int) (now : DateTime) (outcome : Uuid → Option String)

theorem find_pass (wanted : Uuid) :
    (run.step (.pass limit maxRetries now outcome)).table.find wanted =
      if wanted ∈ run.returned limit maxRetries then
        (run.table.find wanted).map (CommandTable.markedRow now (outcome wanted))
      else run.table.find wanted := by
  rw [step, fold_mark]
  exact Table.find_update_each _ run.table _ _ (nodup_returned run limit maxRetries) wanted

theorem mem_completed_pass (id : Uuid) :
    id ∈ (run.step (.pass limit maxRetries now outcome)).completed ↔
      id ∈ run.completed ∨ id ∈ run.returned limit maxRetries ∧ outcome id = none := by
  rw [step, fold_mark, List.mem_append, List.mem_filter, Option.isNone_iff_eq_none]

theorem count_failed_pass (id : Uuid) :
    (run.step (.pass limit maxRetries now outcome)).failed.count id =
      run.failed.count id +
        if id ∈ run.returned limit maxRetries ∧ outcome id ≠ none then 1 else 0 := by
  have distinct : ((run.returned limit maxRetries).filter fun id => (outcome id).isSome).Nodup :=
    (nodup_returned run limit maxRetries).filter _
  rw [step, fold_mark, List.count_append, distinct.count]
  simp only [List.mem_filter, Option.isSome_iff_ne_none]

theorem mem_failed_pass (id : Uuid) :
    id ∈ (run.step (.pass limit maxRetries now outcome)).failed ↔
      id ∈ run.failed ∨ id ∈ run.returned limit maxRetries ∧ outcome id ≠ none := by
  rw [step, fold_mark, List.mem_append, List.mem_filter, Option.isSome_iff_ne_none]

end

section

variable {limit : Nat} {maxRetries : Int}

theorem counted_pass (counted : run.Counted) :
    (run.step (.pass limit maxRetries now outcome)).Counted := by
  constructor
  · intro row found pending
    rw [find_pass] at found
    split_ifs at found with returned
    · obtain ⟨old, -, marked⟩ := Option.map_eq_some_iff.mp found
      rw [← marked] at pending
      exact absurd pending (CommandTable.marked_row_not_pending now (outcome row.id) old)
    · rw [mem_completed_pass, mem_failed_pass]
      simp only [returned, false_and, or_false]
      exact counted.pending row found pending
  · intro id marked missing
    have stored : run.table.find id ≠ none := by
      by_cases returned : id ∈ run.returned limit maxRetries
      · obtain ⟨row, found, -⟩ := returned_pending returned
        rw [found]
        exact Option.some_ne_none row
      · rw [mem_completed_pass, mem_failed_pass] at marked
        simp only [returned, false_and, or_false] at marked
        exact counted.stored id marked
    rw [find_pass] at missing
    split_ifs at missing
    · exact stored (Option.map_eq_none_iff.mp missing)
    · exact stored missing

/-- A pass keeps the promise exactly if it fails only commands that have one attempt. -/
theorem keeps_returning_pass (counted : run.Counted) (keeps : run.KeepsReturning) :
    (run.step (.pass limit maxRetries now outcome)).KeepsReturning ↔
      run.FailsSingleAttempts (.pass limit maxRetries now outcome) := by
  rw [keeps_returning_iff] at keeps ⊢
  constructor
  · intro kept row found returned fails
    obtain ⟨other, isOther, pending⟩ := returned_pending returned
    cases Option.some.inj (found.symm.trans isOther)
    obtain ⟨incomplete, unfailed, -⟩ := counted.pending row found pending
    have after := find_pass run limit maxRetries now outcome row.id
    have completed := mem_completed_pass run limit maxRetries now outcome row.id
    have failed := count_failed_pass run limit maxRetries now outcome row.id
    rw [if_pos returned, found, Option.map_some] at after
    rw [if_pos ⟨returned, fails⟩, List.count_eq_zero_of_not_mem unfailed] at failed
    by_contra more
    have selects := kept (CommandTable.markedRow now (outcome row.id) row)
      (by rw [CommandTable.marked_row_id]; exact after)
      (by rw [CommandTable.marked_row_id, completed]; simp [incomplete, fails])
      (by rw [CommandTable.marked_row_id, failed, CommandTable.marked_row_max_retries]; omega)
    exact CommandTable.marked_row_not_pending now (outcome row.id) row
      (of_decide_eq_true selects).1
  · intro single row found incomplete retries
    rw [find_pass] at found
    rw [mem_completed_pass] at incomplete
    rw [count_failed_pass] at retries
    split_ifs at found with returned
    · obtain ⟨old, isOld, marked⟩ := Option.map_eq_some_iff.mp found
      have sameId : row.id = old.id := by
        rw [← marked, CommandTable.marked_row_id]
      have fails : outcome row.id ≠ none := fun succeeds => incomplete (.inr ⟨returned, succeeds⟩)
      have atMostOne : old.maxRetries ≤ 1 := by
        apply single old
        · rw [← sameId]
          exact isOld
        · rw [← sameId]
          exact returned
        · rw [← sameId]
          exact fails
      have sameMax : row.maxRetries = old.maxRetries := by
        rw [← marked, CommandTable.marked_row_max_retries]
      rw [if_pos ⟨returned, fails⟩] at retries
      omega
    · apply keeps row found (fun before => incomplete (.inl before))
      omega

theorem keeps_returning_insert (counted : run.Counted) (keeps : run.KeepsReturning) (id : Uuid)
    (command : CommandOutboxInsert) :
    (run.step (.insert id now maxRetries command)).KeepsReturning := by
  rw [keeps_returning_iff] at keeps ⊢
  intro row found incomplete retries
  rcases CommandTable.find_insert run.table id now maxRetries command row.id with
    same | ⟨isNew, fresh, added⟩
  · exact keeps row (same.symm.trans found) incomplete retries
  · cases Option.some.inj (added.symm.trans found)
    have unfailed : id ∉ run.failed := fun failed => counted.stored id (.inr failed) fresh
    have none : run.failed.count id = 0 := List.count_eq_zero_of_not_mem unfailed
    apply decide_eq_true
    refine ⟨rfl, ?_⟩
    have positive : (run.failed.count id : Int) < maxRetries := retries
    rw [none] at positive
    exact positive

end

end

/-- Every command is returned until it was marked completed or failed `max_retries` times,
exactly in the runs in which no pass fails a command that has more than one attempt. -/
theorem keeps_returning_iff_fails_single_attempts (moves : List OutboxMove) :
    Always step KeepsReturning start moves ↔ EachMove step FailsSingleAttempts start moves := by
  apply always_iff_each_move_within step Counted KeepsReturning
  · intro run move counted
    cases move with
    | insert id now maxRetries command => exact counted_insert counted id maxRetries command
    | pass limit maxRetries now outcome => exact counted_pass counted
  · intro run move counted keeps
    cases move with
    | insert id now maxRetries command =>
        exact iff_of_true (keeps_returning_insert counted keeps id command) trivial
    | pass limit maxRetries now outcome => exact keeps_returning_pass counted keeps
  · exact start_counted
  · intro row found
    cases found

/-- A command with three attempts, and one relay that fails it once. -/
def failedOnce : List OutboxMove :=
  [.insert 1 0 3 ⟨7, .job, "MarkJobFailed", .null, none, none⟩,
    .pass 10 3 1 fun _ => some "connection lost"]

/-- After its first failure the command is not returned again. -/
theorem failed_once_not_returned : ¬Always step KeepsReturning start failedOnce := by
  intro always
  have keeps := always_final step failedOnce start always
  rw [keeps_returning_iff] at keeps
  have selects := keeps
    (CommandTable.failedRow "connection lost"
      (CommandTable.insertedRow 1 0 3 ⟨7, .job, "MarkJobFailed", .null, none, none⟩))
    rfl (by decide) (by decide)
  exact absurd selects (by decide)

end OutboxRun

end HodeiJobs.Commands
