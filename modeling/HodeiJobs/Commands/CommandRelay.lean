import Mathlib.Logic.Function.Basic
import HodeiJobs.Commands.Outbox

/-!
# Two relays on one table

Two `CommandRelay`s of `messaging/hybrid` whose steps interleave. A relay fetches the next
batch when all tasks of the last one have ended; the tasks of a batch run in any order. Each
statement is one step and is carried out; a publication may fail.
-/

namespace HodeiJobs.Commands

open HodeiJobs.Library
open HodeiJobs.Sagas (Uuid DateTime)

/-- `CommandRelayConfig`, as far as a batch reads it. -/
structure CommandRelayConfig where
  batchSize : Nat
  maxRetries : Int

inductive RelayName where
  | first
  | second
  deriving DecidableEq

def RelayName.other : RelayName → RelayName
  | .first => .second
  | .second => .first

theorem RelayName.other_ne (relay : RelayName) : relay.other ≠ relay := by
  cases relay <;> exact fun same => by cases same

theorem RelayName.eq_or_other (relay name : RelayName) : name = relay ∨ name = relay.other := by
  cases relay <;> cases name <;> simp [other]

/-- Where `process_command_with_retry` is: before the publication, before `mark_completed`, or
before the `mark_failed` that ends the last attempt. -/
inductive TaskStage where
  | publishing
  | completing
  | failing (error : String)
  deriving DecidableEq

structure RelayTask where
  record : CommandOutboxRecord
  attempts : Int
  stage : TaskStage

abbrev RelayTasks := Table fun task : RelayTask => task.record.id

namespace RelayTasks

def none : RelayTasks := ⟨[], List.nodup_nil⟩

def ofRecords (records : List CommandOutboxRecord)
    (distinct : (records.map CommandOutboxRecord.id).Nodup) : RelayTasks where
  rows := records.map fun record => ⟨record, 0, .publishing⟩
  unique := by
    rw [List.map_map]
    exact distinct

theorem find_of_records {records : List CommandOutboxRecord}
    {distinct : (records.map CommandOutboxRecord.id).Nodup} {id : Uuid} {task : RelayTask}
    (found : (ofRecords records distinct).find id = some task) :
    task.record ∈ records ∧ task.record.id = id ∧ task.stage = .publishing := by
  obtain ⟨record, member, made⟩ := List.mem_map.mp (List.mem_of_find?_eq_some found)
  have same := Table.find_some_key found
  subst made
  exact ⟨member, same, rfl⟩

theorem find_of_records_some {records : List CommandOutboxRecord}
    (distinct : (records.map CommandOutboxRecord.id).Nodup) {record : CommandOutboxRecord}
    (member : record ∈ records) :
    (ofRecords records distinct).find record.id = some ⟨record, 0, .publishing⟩ := by
  have isTask : ⟨record, 0, .publishing⟩ ∈ (ofRecords records distinct).rows :=
    List.mem_map.mpr ⟨record, member, rfl⟩
  exact Table.find_of_mem isTask

end RelayTasks

def RelayTask.published (task : RelayTask) : RelayTask := { task with stage := .completing }

/-- After a failed publication the task tries again, unless that was the last attempt. -/
def RelayTask.failed (maxRetries : Int) (error : String) (task : RelayTask) : RelayTask :=
  { task with
    attempts := task.attempts + 1
    stage := if maxRetries ≤ task.attempts + 1 then .failing error else .publishing }

theorem RelayTask.published_id (task : RelayTask) : task.published.record.id = task.record.id :=
  rfl

theorem RelayTask.failed_id (maxRetries : Int) (error : String) (task : RelayTask) :
    (task.failed maxRetries error).record.id = task.record.id :=
  rfl

/-- The table, the running tasks of each relay, and what each relay has fetched and has
published. -/
structure RelayPair where
  table : CommandTable
  tasks : RelayName → RelayTasks
  fetched : List (RelayName × Uuid)
  published : List (RelayName × Uuid)

/-- The steps of the two relays, and the insertions of others. -/
inductive RelayPairMove where
  | insert (id : Uuid) (now : DateTime) (maxRetries : Int) (command : CommandOutboxInsert)
  | fetch (relay : RelayName)
  | publish (relay : RelayName) (id : Uuid) (error : Option String)
  | complete (relay : RelayName) (id : Uuid) (now : DateTime)
  | fail (relay : RelayName) (id : Uuid)

namespace RelayPair

def start : RelayPair := ⟨⟨[], List.nodup_nil⟩, fun _ => .none, [], []⟩

/-- What a fetch of the relay returns. -/
def batch (config : RelayName → CommandRelayConfig) (run : RelayPair) (relay : RelayName) :
    List CommandOutboxRecord :=
  run.table.getPendingCommands (config relay).batchSize (config relay).maxRetries

theorem nodup_batch (config : RelayName → CommandRelayConfig) (run : RelayPair)
    (relay : RelayName) : ((run.batch config relay).map CommandOutboxRecord.id).Nodup :=
  CommandTable.nodup_get_pending run.table _ _

def setTasks (run : RelayPair) (relay : RelayName) (tasks : RelayTasks) :
    RelayName → RelayTasks :=
  Function.update run.tasks relay tasks

/-- The tasks of the two relays when one of them changes a task of its own. -/
def changeTask (run : RelayPair) (relay : RelayName) (id : Uuid) (change : RelayTask → RelayTask)
    (keepsId : ∀ task, (change task).record.id = task.record.id) : RelayName → RelayTasks :=
  run.setTasks relay ((run.tasks relay).update id change keepsId)

def publishTask (run : RelayPair) (relay : RelayName) (id : Uuid) : RelayPair :=
  { run with
    tasks := run.changeTask relay id RelayTask.published RelayTask.published_id
    published := run.published ++ [(relay, id)] }

def endTask (run : RelayPair) (relay : RelayName) (id : Uuid) (table : CommandTable) : RelayPair :=
  { run with
    table := table
    tasks := run.setTasks relay ((run.tasks relay).delete id) }

variable (config : RelayName → CommandRelayConfig)

def fetchBatch (run : RelayPair) (relay : RelayName) : RelayPair :=
  { run with
    tasks := run.setTasks relay
      (.ofRecords (run.batch config relay) (run.nodup_batch config relay))
    fetched := run.fetched ++ (run.batch config relay).map fun record => (relay, record.id) }

def failTask (run : RelayPair) (relay : RelayName) (id : Uuid) (error : String) : RelayPair :=
  { run with
    tasks := run.changeTask relay id (RelayTask.failed (config relay).maxRetries error)
      (RelayTask.failed_id _ error) }

def step (run : RelayPair) : RelayPairMove → RelayPair
  | .insert id now maxRetries command =>
      { run with table := (run.table.insertCommand id now maxRetries command).1 }
  | .fetch relay =>
      if (run.tasks relay).rows.isEmpty then
        run.fetchBatch config relay
      else run
  | .publish relay id error =>
      match (run.tasks relay).find id with
      | some ⟨_, _, .publishing⟩ =>
          match error with
          | none => run.publishTask relay id
          | some error => run.failTask config relay id error
      | _ => run
  | .complete relay id now =>
      match (run.tasks relay).find id with
      | some ⟨_, _, .completing⟩ => run.endTask relay id (run.table.markCompleted now id)
      | _ => run
  | .fail relay id =>
      match (run.tasks relay).find id with
      | some ⟨_, _, .failing error⟩ => run.endTask relay id (run.table.markFailed id error)
      | _ => run

/-- No command was published by both relays. -/
def PublishedByOne (run : RelayPair) : Prop :=
  ∀ id, ¬((.first, id) ∈ run.published ∧ (.second, id) ∈ run.published)

/-- A fetch returns no command on which the other relay is still working. -/
def FetchesUntaken (run : RelayPair) : RelayPairMove → Prop
  | .fetch relay =>
      (run.tasks relay).rows.isEmpty = true → ∀ record ∈ run.batch config relay,
        (run.tasks relay.other).find record.id = none
  | _ => True

/-- A publication succeeds. -/
def Succeeds : RelayPairMove → Prop
  | .publish _ _ error => error = none
  | _ => True

def Idle (run : RelayPair) : Prop := ∀ relay, (run.tasks relay).rows.isEmpty = true

instance (run : RelayPair) : (move : RelayPairMove) → Decidable (run.FetchesUntaken config move)
  | .fetch _ => inferInstanceAs (Decidable (_ → ∀ record ∈ _, _))
  | .insert .. | .publish .. | .complete .. | .fail .. => .isTrue trivial

instance : DecidablePred Succeeds
  | .publish _ _ error => inferInstanceAs (Decidable (error = none))
  | .insert .. | .fetch .. | .complete .. | .fail .. => .isTrue trivial

/-! ## What a step does -/

/-- A step that changes something, with what it found. -/
inductive Steps (run : RelayPair) : RelayPairMove → RelayPair → Prop where
  | idle (move : RelayPairMove) : Steps run move run
  | inserted (id : Uuid) (now : DateTime) (maxRetries : Int) (command : CommandOutboxInsert) :
      Steps run (.insert id now maxRetries command)
        { run with table := (run.table.insertCommand id now maxRetries command).1 }
  | fetched (relay : RelayName) (empty : (run.tasks relay).rows.isEmpty = true) :
      Steps run (.fetch relay) (run.fetchBatch config relay)
  | published (relay : RelayName) (id : Uuid) (task : RelayTask)
      (found : (run.tasks relay).find id = some task) (stage : task.stage = .publishing) :
      Steps run (.publish relay id none) (run.publishTask relay id)
  | failed (relay : RelayName) (id : Uuid) (error : String) (task : RelayTask)
      (found : (run.tasks relay).find id = some task) (stage : task.stage = .publishing) :
      Steps run (.publish relay id (some error)) (run.failTask config relay id error)
  | ended (move : RelayPairMove) (relay : RelayName) (id : Uuid) (now : DateTime)
      (error : Option String) (task : RelayTask)
      (found : (run.tasks relay).find id = some task)
      (stage : task.stage = error.elim .completing .failing) :
      Steps run move (run.endTask relay id (run.table.mark now id error))

theorem steps (run : RelayPair) (move : RelayPairMove) :
    Steps config run move (step config run move) := by
  cases move with
  | insert id now maxRetries command => exact .inserted id now maxRetries command
  | fetch relay =>
      unfold step
      dsimp only
      split_ifs with empty
      · exact .fetched relay empty
      · exact .idle _
  | publish relay id error =>
      unfold step
      dsimp only
      split
      · next record attempts found =>
          cases error with
          | none => exact .published relay id ⟨record, attempts, .publishing⟩ found rfl
          | some error => exact .failed relay id error ⟨record, attempts, .publishing⟩ found rfl
      · exact .idle _
  | complete relay id now =>
      unfold step
      dsimp only
      split
      · next record attempts found =>
          exact .ended _ relay id now none ⟨record, attempts, .completing⟩ found rfl
      · exact .idle _
  | fail relay id =>
      unfold step
      dsimp only
      split
      · next record attempts error found =>
          exact .ended _ relay id 0 (some error) ⟨record, attempts, .failing error⟩ found rfl
      · exact .idle _

/-! ## Disjoint batches -/

/-- The two relays work on different commands, all of them pending in the table; what was
published is being marked or no longer pending. -/
structure Disjoint (run : RelayPair) : Prop where
  apart : ∀ relay id, (run.tasks relay).find id ≠ none → (run.tasks relay.other).find id = none
  pending : ∀ relay id, (run.tasks relay).find id ≠ none →
    ∃ row, run.table.find id = some row ∧ row.status = .pending
  settled : ∀ relay id, (relay, id) ∈ run.published →
    (∃ task, (run.tasks relay).find id = some task ∧ task.stage = .completing) ∨
      ∃ row, run.table.find id = some row ∧ row.status ≠ .pending
  once : run.PublishedByOne

theorem set_tasks_self (run : RelayPair) (relay : RelayName) (tasks : RelayTasks) :
    run.setTasks relay tasks relay = tasks := by
  rw [setTasks, Function.update_self]

theorem set_tasks_of_ne (run : RelayPair) {relay name : RelayName} (tasks : RelayTasks)
    (different : name ≠ relay) : run.setTasks relay tasks name = run.tasks name := by
  rw [setTasks, Function.update_of_ne different]

theorem published_by_one_iff (run : RelayPair) :
    run.PublishedByOne ↔ ∀ relay id, (relay, id) ∈ run.published →
      (relay.other, id) ∉ run.published := by
  constructor
  · intro once relay id published other
    cases relay with
    | first => exact once id ⟨published, other⟩
    | second => exact once id ⟨other, published⟩
  · intro once id ⟨first, second⟩
    exact once .first id first second

variable {config} {run : RelayPair}

theorem find_of_empty {relay : RelayName} (empty : (run.tasks relay).rows.isEmpty = true)
    (id : Uuid) : (run.tasks relay).find id = none :=
  (Table.rows_eq_nil_iff _).mp (List.isEmpty_iff.mp empty) id

theorem disjoint_start : start.Disjoint := by
  constructor
  · intro relay id present
    exact absurd rfl present
  · intro relay id present
    exact absurd rfl present
  · intro relay id published
    cases published
  · intro id ⟨published, _⟩
    cases published

/-- The other relay has not published what this one works on. -/
theorem Disjoint.other_unpublished (disjoint : run.Disjoint) {relay : RelayName} {id : Uuid}
    (present : (run.tasks relay).find id ≠ none) : (relay.other, id) ∉ run.published := by
  intro published
  rcases disjoint.settled relay.other id published with ⟨task, found, -⟩ | ⟨row, found, marked⟩
  · have absent := disjoint.apart relay id present
    rw [found] at absent
    cases absent
  · obtain ⟨other, isOther, pending⟩ := disjoint.pending relay id present
    rw [found] at isOther
    cases isOther
    exact marked pending

theorem disjoint_insert (disjoint : run.Disjoint) (id : Uuid) (now : DateTime)
    (maxRetries : Int) (command : CommandOutboxInsert) :
    Disjoint { run with
      table := (run.table.insertCommand id now maxRetries command).1 } := by
  constructor
  · exact disjoint.apart
  · intro relay wanted present
    obtain ⟨row, found, pending⟩ := disjoint.pending relay wanted present
    exact ⟨row, CommandTable.find_insert_of_some found, pending⟩
  · intro relay wanted published
    rcases disjoint.settled relay wanted published with task | ⟨row, found, marked⟩
    · exact .inl task
    · exact .inr ⟨row, CommandTable.find_insert_of_some found, marked⟩
  · exact disjoint.once

theorem disjoint_fetch (disjoint : run.Disjoint) {relay : RelayName}
    (empty : (run.tasks relay).rows.isEmpty = true)
    (untaken : ∀ record ∈ run.batch config relay, (run.tasks relay.other).find record.id = none) :
    (run.fetchBatch config relay).Disjoint := by
  have fetched : ∀ id, (RelayTasks.ofRecords (run.batch config relay)
      (run.nodup_batch config relay)).find id ≠ none →
      ∃ record ∈ run.batch config relay, record.id = id := by
    intro id present
    obtain ⟨task, found⟩ := Option.ne_none_iff_exists'.mp present
    obtain ⟨member, same, -⟩ := RelayTasks.find_of_records found
    exact ⟨task.record, member, same⟩
  constructor
  · intro name id present
    dsimp only [fetchBatch] at present ⊢
    rcases relay.eq_or_other name with same | same
    · subst same
      rw [set_tasks_self] at present
      obtain ⟨record, member, sameId⟩ := fetched id present
      rw [set_tasks_of_ne run _ name.other_ne, ← sameId]
      exact untaken record member
    · subst same
      rw [set_tasks_of_ne run _ relay.other_ne] at present
      have back : relay.other.other = relay := by cases relay <;> rfl
      rw [back, set_tasks_self]
      by_contra taken
      obtain ⟨record, member, sameId⟩ := fetched id taken
      exact present (sameId ▸ untaken record member)
  · intro name id present
    dsimp only [fetchBatch] at present ⊢
    rcases relay.eq_or_other name with same | same
    · subst same
      rw [set_tasks_self] at present
      obtain ⟨record, member, sameId⟩ := fetched id present
      obtain ⟨row, found, -, pending, -⟩ := CommandTable.mem_get_pending member
      exact ⟨row, sameId ▸ found, pending⟩
    · rw [set_tasks_of_ne run _ (same ▸ relay.other_ne)] at present
      exact disjoint.pending name id present
  · intro name id published
    dsimp only [fetchBatch] at published ⊢
    rcases disjoint.settled name id published with ⟨task, found, stage⟩ | marked
    · by_cases same : name = relay
      · subst same
        rw [find_of_empty empty] at found
        cases found
      · rw [set_tasks_of_ne run _ same]
        exact .inl ⟨task, found, stage⟩
    · exact .inr marked
  · exact disjoint.once

section Change

variable (relay : RelayName) (id : Uuid) (change : RelayTask → RelayTask)
  (keepsId : ∀ task, (change task).record.id = task.record.id)

theorem present_change (run : RelayPair) (name : RelayName) (wanted : Uuid) :
    (run.changeTask relay id change keepsId name).find wanted ≠ none ↔
      (run.tasks name).find wanted ≠ none := by
  rw [changeTask]
  by_cases same : name = relay
  · subst same
    rw [set_tasks_self]
    exact Table.find_update_ne_none_iff _ _ _ _ _
  · rw [set_tasks_of_ne run _ same]

/-- Changing one task leaves each relay working on the same commands. -/
theorem apart_change (disjoint : run.Disjoint) (name : RelayName) (wanted : Uuid)
    (present : (run.changeTask relay id change keepsId name).find wanted ≠ none) :
    (run.changeTask relay id change keepsId name.other).find wanted = none := by
  rw [present_change] at present
  rw [← not_ne_iff, present_change, not_ne_iff]
  exact disjoint.apart name wanted present

theorem pending_change (disjoint : run.Disjoint) (name : RelayName) (wanted : Uuid)
    (present : (run.changeTask relay id change keepsId name).find wanted ≠ none) :
    ∃ row, run.table.find wanted = some row ∧ row.status = .pending := by
  rw [present_change] at present
  exact disjoint.pending name wanted present

variable {relay id}

/-- The tasks keep their stages, except that of one command which was not being marked. -/
theorem settled_change (disjoint : run.Disjoint) {task : RelayTask}
    (found : (run.tasks relay).find id = some task) (stage : task.stage = .publishing)
    {name : RelayName} {wanted : Uuid} (published : (name, wanted) ∈ run.published) :
    (∃ task, (run.changeTask relay id change keepsId name).find wanted = some task ∧
        task.stage = .completing) ∨
      ∃ row, run.table.find wanted = some row ∧ row.status ≠ .pending := by
  rcases disjoint.settled name wanted published with ⟨other, isOther, completing⟩ | marked
  · left
    rw [changeTask]
    by_cases same : name = relay
    · subst same
      have different : wanted ≠ id := by
        intro same
        rw [same, found] at isOther
        cases isOther
        rw [stage] at completing
        cases completing
      rw [set_tasks_self, Table.find_update, if_neg different]
      exact ⟨other, isOther, completing⟩
    · rw [set_tasks_of_ne run _ same]
      exact ⟨other, isOther, completing⟩
  · exact .inr marked

end Change

theorem disjoint_publish (disjoint : run.Disjoint) {relay : RelayName} {id : Uuid}
    {task : RelayTask} (found : (run.tasks relay).find id = some task)
    (stage : task.stage = .publishing) :
    (run.publishTask relay id).Disjoint := by
  have present : (run.tasks relay).find id ≠ none := by
    rw [found]
    exact Option.some_ne_none task
  constructor
  · exact apart_change relay id _ _ disjoint
  · exact pending_change relay id _ _ disjoint
  · intro name wanted published
    rcases List.mem_append.mp published with before | new
    · exact settled_change _ _ disjoint found stage before
    · obtain ⟨rfl, rfl⟩ := Prod.mk.inj (List.mem_singleton.mp new)
      dsimp only [publishTask, changeTask]
      rw [set_tasks_self, Table.find_update, if_pos rfl, found]
      exact .inl ⟨task.published, rfl, rfl⟩
  · have once := (published_by_one_iff run).mp disjoint.once
    rw [published_by_one_iff]
    intro name wanted published other
    rcases List.mem_append.mp published with before | new
    · rcases List.mem_append.mp other with otherBefore | otherNew
      · exact once name wanted before otherBefore
      · obtain ⟨sameName, rfl⟩ := Prod.mk.inj (List.mem_singleton.mp otherNew)
        have back : name = relay.other := by
          rw [← sameName]
          cases name <;> rfl
        exact disjoint.other_unpublished present (back ▸ before)
    · obtain ⟨rfl, rfl⟩ := Prod.mk.inj (List.mem_singleton.mp new)
      rcases List.mem_append.mp other with otherBefore | otherNew
      · exact disjoint.other_unpublished present otherBefore
      · exact name.other_ne (Prod.mk.inj (List.mem_singleton.mp otherNew)).1

theorem disjoint_failed (disjoint : run.Disjoint) {relay : RelayName} {id : Uuid}
    {task : RelayTask} (found : (run.tasks relay).find id = some task)
    (stage : task.stage = .publishing) (error : String) :
    (run.failTask config relay id error).Disjoint := by
  constructor
  · exact apart_change relay id _ _ disjoint
  · exact pending_change relay id _ _ disjoint
  · intro name wanted published
    exact settled_change _ _ disjoint found stage published
  · exact disjoint.once

theorem disjoint_ended (disjoint : run.Disjoint) {relay : RelayName} {id : Uuid} (now : DateTime)
    (error : Option String) (present : (run.tasks relay).find id ≠ none) :
    (run.endTask relay id (run.table.mark now id error)).Disjoint := by
  have kept : ∀ name wanted,
      (run.setTasks relay ((run.tasks relay).delete id) name).find wanted ≠ none →
        wanted ≠ id ∧ (run.tasks name).find wanted ≠ none := by
    intro name wanted stays
    rcases relay.eq_or_other name with same | same
    · subst same
      rw [set_tasks_self, Table.find_delete] at stays
      split_ifs at stays with gone
      · exact absurd rfl stays
      · exact ⟨gone, stays⟩
    · rw [set_tasks_of_ne run _ (same ▸ relay.other_ne)] at stays
      refine ⟨?_, stays⟩
      intro sameId
      subst same
      subst sameId
      exact stays (disjoint.apart relay wanted present)
  constructor
  · intro name wanted stays
    by_contra other
    exact (kept _ _ other).2 (disjoint.apart name wanted (kept _ _ stays).2)
  · intro name wanted stays
    obtain ⟨different, before⟩ := kept name wanted stays
    dsimp only [endTask]
    rw [CommandTable.find_mark, if_neg different]
    exact disjoint.pending name wanted before
  · intro name wanted published
    dsimp only [endTask]
    rw [CommandTable.find_mark]
    by_cases same : wanted = id
    · subst same
      obtain ⟨row, found, -⟩ := disjoint.pending relay wanted present
      rw [if_pos rfl, found, Option.map_some]
      exact .inr ⟨_, rfl, CommandTable.marked_row_not_pending now error row⟩
    · rw [if_neg same]
      rcases disjoint.settled name wanted published with ⟨task, found, stage⟩ | marked
      · left
        refine ⟨task, ?_, stage⟩
        by_cases sameName : name = relay
        · subst sameName
          rw [set_tasks_self, Table.find_delete, if_neg same]
          exact found
        · rw [set_tasks_of_ne run _ sameName]
          exact found
      · exact .inr marked
  · exact disjoint.once

theorem disjoint_step (disjoint : run.Disjoint) (move : RelayPairMove)
    (untaken : run.FetchesUntaken config move) : (run.step config move).Disjoint := by
  have does := steps config run move
  generalize run.step config move = next at does ⊢
  cases does with
  | idle => exact disjoint
  | inserted id now maxRetries command => exact disjoint_insert disjoint id now maxRetries command
  | fetched relay empty => exact disjoint_fetch disjoint empty (untaken empty)
  | published relay id task found stage => exact disjoint_publish disjoint found stage
  | failed relay id error task found stage => exact disjoint_failed disjoint found stage error
  | ended _ relay id now error task found stage =>
      exact disjoint_ended disjoint now error (by rw [found]; exact Option.some_ne_none task)

/-! ## Runs in which every publication succeeds -/

/-- What was fetched is published or about to be; no task is about to be given up. -/
structure Served (run : RelayPair) : Prop where
  fetched : ∀ relay id, (relay, id) ∈ run.fetched → (relay, id) ∈ run.published ∨
    ∃ task, (run.tasks relay).find id = some task ∧ task.stage = .publishing
  stages : ∀ relay id task, (run.tasks relay).find id = some task →
    task.stage = .publishing ∨ task.stage = .completing ∧ (relay, id) ∈ run.published
  working : ∀ relay id, (run.tasks relay).find id ≠ none → (relay, id) ∈ run.fetched

theorem served_start : start.Served := by
  constructor
  · intro relay id fetched
    cases fetched
  · intro relay id task found
    cases found
  · intro relay id present
    exact absurd rfl present

theorem served_fetch (served : run.Served) {relay : RelayName}
    (empty : (run.tasks relay).rows.isEmpty = true) :
    (run.fetchBatch config relay).Served := by
  constructor
  · intro name id fetched
    dsimp only [fetchBatch] at fetched ⊢
    rcases List.mem_append.mp fetched with before | new
    · rcases served.fetched name id before with published | ⟨task, found, stage⟩
      · exact .inl published
      · have different : name ≠ relay := by
          intro same
          rw [same, find_of_empty empty] at found
          cases found
        rw [set_tasks_of_ne run _ different]
        exact .inr ⟨task, found, stage⟩
    · obtain ⟨record, member, same⟩ := List.mem_map.mp new
      obtain ⟨rfl, rfl⟩ := Prod.mk.inj same
      rw [set_tasks_self, RelayTasks.find_of_records_some _ member]
      exact .inr ⟨_, rfl, rfl⟩
  · intro name id task found
    dsimp only [fetchBatch] at found ⊢
    by_cases same : name = relay
    · subst same
      rw [set_tasks_self] at found
      exact .inl (RelayTasks.find_of_records found).2.2
    · rw [set_tasks_of_ne run _ same] at found
      exact served.stages name id task found
  · intro name id present
    dsimp only [fetchBatch] at present ⊢
    by_cases same : name = relay
    · subst same
      rw [set_tasks_self] at present
      obtain ⟨task, found⟩ := Option.ne_none_iff_exists'.mp present
      obtain ⟨member, sameId, -⟩ := RelayTasks.find_of_records found
      subst sameId
      exact List.mem_append_right _ (List.mem_map.mpr ⟨task.record, member, rfl⟩)
    · rw [set_tasks_of_ne run _ same] at present
      exact List.mem_append_left _ (served.working name id present)

theorem served_publish (served : run.Served) {relay : RelayName} {id : Uuid} {task : RelayTask}
    (found : (run.tasks relay).find id = some task) :
    (run.publishTask relay id).Served := by
  have here : (relay, id) ∈ run.published ++ [(relay, id)] :=
    List.mem_append_right _ List.mem_cons_self
  constructor
  · intro name wanted fetched
    rcases served.fetched name wanted fetched with published | ⟨other, isOther, stage⟩
    · exact .inl (List.mem_append_left _ published)
    · dsimp only [publishTask, changeTask]
      by_cases same : name = relay
      · subst same
        by_cases sameId : wanted = id
        · subst sameId
          exact .inl here
        · rw [set_tasks_self, Table.find_update, if_neg sameId]
          exact .inr ⟨other, isOther, stage⟩
      · rw [set_tasks_of_ne run _ same]
        exact .inr ⟨other, isOther, stage⟩
  · intro name wanted other isOther
    dsimp only [publishTask, changeTask] at isOther ⊢
    have earlier : ∀ isOld : (run.tasks name).find wanted = some other,
        other.stage = .publishing ∨
          other.stage = .completing ∧ (name, wanted) ∈ run.published ++ [(relay, id)] := by
      intro isOld
      exact (served.stages name wanted other isOld).imp_right
        fun marking => ⟨marking.1, List.mem_append_left _ marking.2⟩
    by_cases same : name = relay
    · subst same
      rw [set_tasks_self, Table.find_update] at isOther
      split_ifs at isOther with sameId
      · subst sameId
        rw [found] at isOther
        cases isOther
        exact .inr ⟨rfl, here⟩
      · exact earlier isOther
    · rw [set_tasks_of_ne run _ same] at isOther
      exact earlier isOther
  · intro name wanted
    dsimp only [publishTask]
    rw [present_change]
    exact served.working name wanted

theorem served_ended (served : run.Served) {relay : RelayName} {id : Uuid} {task : RelayTask}
    (found : (run.tasks relay).find id = some task) (completing : task.stage = .completing)
    (table : CommandTable) : (run.endTask relay id table).Served := by
  have published : (relay, id) ∈ run.published := by
    rcases served.stages relay id task found with publishing | marking
    · rw [completing] at publishing
      cases publishing
    · exact marking.2
  have kept : ∀ name wanted other,
      (run.setTasks relay ((run.tasks relay).delete id) name).find wanted = some other →
        (run.tasks name).find wanted = some other := by
    intro name wanted other isOther
    by_cases same : name = relay
    · subst same
      rw [set_tasks_self, Table.find_delete] at isOther
      split_ifs at isOther
      exact isOther
    · rw [set_tasks_of_ne run _ same] at isOther
      exact isOther
  constructor
  · intro name wanted fetched
    rcases served.fetched name wanted fetched with before | ⟨other, isOther, stage⟩
    · exact .inl before
    · dsimp only [endTask]
      by_cases same : name = relay
      · subst same
        by_cases sameId : wanted = id
        · subst sameId
          exact .inl published
        · rw [set_tasks_self, Table.find_delete, if_neg sameId]
          exact .inr ⟨other, isOther, stage⟩
      · rw [set_tasks_of_ne run _ same]
        exact .inr ⟨other, isOther, stage⟩
  · intro name wanted other isOther
    exact served.stages name wanted other (kept name wanted other isOther)
  · intro name wanted present
    obtain ⟨other, isOther⟩ := Option.ne_none_iff_exists'.mp present
    apply served.working name wanted
    rw [kept name wanted other isOther]
    exact Option.some_ne_none other

theorem served_step (served : run.Served) (move : RelayPairMove) (succeeds : Succeeds move) :
    (run.step config move).Served ∧
      ∀ taken ∈ run.fetched, taken ∈ (run.step config move).fetched := by
  have does := steps config run move
  generalize run.step config move = next at does ⊢
  cases does with
  | idle => exact ⟨served, fun _ taken => taken⟩
  | inserted id now maxRetries command =>
      exact ⟨⟨served.fetched, served.stages, served.working⟩, fun _ taken => taken⟩
  | fetched relay empty =>
      exact ⟨served_fetch served empty, fun _ => List.mem_append_left _⟩
  | published relay id task found stage =>
      exact ⟨served_publish served found, fun _ taken => taken⟩
  | failed relay id error task found stage => cases succeeds
  | ended _ relay id now error task found stage =>
      have completing : task.stage = .completing := by
        rcases served.stages relay id task found with publishing | marking
        · cases error <;> · rw [stage] at publishing; cases publishing
        · exact marking.1
      exact ⟨served_ended served found completing _, fun _ taken => taken⟩

/-- In a run that ends with both relays idle, what both of them fetched both have published. -/
theorem published_twice (served : run.Served) (moves : List RelayPairMove)
    (succeed : ∀ move ∈ moves, Succeeds move) {id : Uuid}
    (fetched : ∀ relay, (relay, id) ∈ run.fetched) (idle : Idle (moves.foldl (step config) run)) :
    ¬(moves.foldl (step config) run).PublishedByOne := by
  induction moves generalizing run with
  | nil =>
      intro once
      have published : ∀ relay, (relay, id) ∈ run.published := by
        intro relay
        rcases served.fetched relay id (fetched relay) with published | ⟨task, found, -⟩
        · exact published
        · have empty : (run.tasks relay).rows.isEmpty = true := idle relay
          rw [find_of_empty empty] at found
          cases found
      exact once id ⟨published .first, published .second⟩
  | cons move rest ih =>
      obtain ⟨next, keeps⟩ := served_step served move (succeed move List.mem_cons_self)
      exact ih next (fun later member => succeed later (List.mem_cons_of_mem move member))
        (fun relay => keeps _ (fetched relay)) idle

theorem fetches_untaken_of_published_by_one (served : run.Served) (moves : List RelayPairMove)
    (succeed : ∀ move ∈ moves, Succeeds move) (idle : Idle (moves.foldl (step config) run))
    (once : (moves.foldl (step config) run).PublishedByOne) :
    EachMove (step config) (FetchesUntaken config) run moves := by
  induction moves generalizing run with
  | nil => trivial
  | cons move rest ih =>
      have succeedsRest := fun later member => succeed later (List.mem_cons_of_mem move member)
      obtain ⟨next, keeps⟩ := served_step served move (succeed move List.mem_cons_self)
      refine ⟨?_, ih next succeedsRest idle once⟩
      cases move with
      | fetch relay =>
          intro empty record member
          by_contra taken
          have after : step config run (.fetch relay) = run.fetchBatch config relay := by
            rw [step, if_pos empty]
          have both : ∀ name, (name, record.id) ∈ (step config run (.fetch relay)).fetched := by
            intro name
            rw [after]
            rcases relay.eq_or_other name with same | same
            · subst same
              exact List.mem_append_right _ (List.mem_map.mpr ⟨record, member, rfl⟩)
            · subst same
              exact List.mem_append_left _ (served.working relay.other record.id taken)
          exact published_twice next rest succeedsRest both idle once
      | _ => trivial

/-- No command is ever published by both relays in a run whose fetches return no command on
which the other relay is still working; and in a run of successful publications that ends with
both relays idle, only then. -/
theorem published_by_one_iff_fetches_untaken (config : RelayName → CommandRelayConfig)
    (moves : List RelayPairMove) :
    (EachMove (step config) (FetchesUntaken config) start moves →
      Always (step config) PublishedByOne start moves) ∧
    ((∀ move ∈ moves, Succeeds move) → Idle (moves.foldl (step config) start) →
      ((moves.foldl (step config) start).PublishedByOne ↔
        EachMove (step config) (FetchesUntaken config) start moves)) := by
  have enough : EachMove (step config) (FetchesUntaken config) start moves →
      Always (step config) PublishedByOne start moves := by
    intro untaken
    have within := always_within (step config) Disjoint (fun run move disjoint untaken =>
      disjoint_step disjoint move untaken) (fun _ _ _ untaken => untaken) moves start
      disjoint_start untaken
    exact always_imp (step config) (fun _ disjoint => disjoint.once) moves start within.1
  constructor
  · exact enough
  · intro succeed idle
    constructor
    · exact fetches_untaken_of_published_by_one served_start moves succeed idle
    · intro untaken
      exact always_final (step config) moves start (enough untaken)

def oneByOne : RelayName → CommandRelayConfig := fun _ => ⟨10, 3⟩

def pendingInsert : CommandOutboxInsert := ⟨7, .job, "MarkJobFailed", .null, none, none⟩

/-- The second relay fetches when the first one has marked the command. -/
def fetchedInTurn : List RelayPairMove :=
  [.insert 1 0 3 pendingInsert, .fetch .first, .publish .first 1 none, .complete .first 1 1,
    .fetch .second]

theorem fetched_in_turn_published_once :
    Always (step oneByOne) PublishedByOne start fetchedInTurn ∧
      EachMove (step oneByOne) (FetchesUntaken oneByOne) start fetchedInTurn := by
  obtain ⟨enough, exactly⟩ := published_by_one_iff_fetches_untaken oneByOne fetchedInTurn
  have always := enough (by decide)
  have once := always_final (step oneByOne) fetchedInTurn start always
  have idle : Idle (fetchedInTurn.foldl (step oneByOne) start) := by
    intro relay
    cases relay <;> decide
  exact ⟨always, (exactly (by decide) idle).mp once⟩

/-- Both relays fetch the command before either of them has marked it. -/
def fetchedTwice : List RelayPairMove :=
  [.insert 1 0 3 pendingInsert, .fetch .first, .fetch .second, .publish .first 1 none,
    .publish .second 1 none, .complete .first 1 1, .complete .second 1 1]

theorem fetched_twice_published_twice :
    ¬Always (step oneByOne) PublishedByOne start fetchedTwice := by
  intro always
  have once := always_final (step oneByOne) fetchedTwice start always
  exact once 1 (by decide)

end RelayPair

end HodeiJobs.Commands
