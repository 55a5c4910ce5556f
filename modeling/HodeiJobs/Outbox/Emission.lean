import HodeiJobs.Execution.Repositories
import HodeiJobs.Outbox.Events

/-!
# Rows written by hand

What the handlers and services that build their outbox rows with `json!` share.
-/

namespace HodeiJobs.Outbox

open HodeiJobs.Execution (UuidText)
open HodeiJobs.Library
open HodeiJobs.Sagas (DateTime Json JsonMap Uuid UuidSource)

/-- `DateTime::timestamp`, in seconds. -/
def timestamp (time : DateTime) : Int := time / 1000000

/-- The texts that are put into such rows. -/
structure RowTexts where
  uuids : UuidText
  toRfc3339 : DateTime → String

namespace RowTexts

variable (texts : RowTexts)

/-- `to_string()` of an id, as a value. -/
def uuid (id : Uuid) : Json := .string (texts.uuids.display id)

def time (time : DateTime) : Json := .string (texts.toRfc3339 time)

end RowTexts

namespace OutboxEventInsert

def forJob (jobId : Uuid) (eventType : String) (payload : JsonMap) (metadata : JsonMap)
    (idempotencyKey : String) : OutboxEventInsert :=
  ⟨jobId, .job, eventType, .object payload, some (.object metadata), some idempotencyKey⟩

def forWorker (workerId : Uuid) (eventType : String) (payload : JsonMap) (metadata : JsonMap)
    (idempotencyKey : String) : OutboxEventInsert :=
  ⟨workerId, .worker, eventType, .object payload, some (.object metadata), some idempotencyKey⟩

end OutboxEventInsert

/-! ## Inserting a row -/

/-- `insert_events` of one event, under an id that no row has. -/
def insertDrawn (ids : UuidSource) (now : DateTime) (outbox : EventTable)
    (event : OutboxEventInsert) : EventTable :=
  outbox.insertEvent (ids.newV4 (outbox.rows.map OutboxEventView.id)) now event

def HasKey (outbox : EventTable) (key : String) : Prop :=
  ∃ row ∈ outbox.rows, row.idempotencyKey = some key

section Insert

variable (ids : UuidSource) (now : DateTime) (outbox : EventTable)

theorem find_drawn : outbox.find (ids.newV4 (outbox.rows.map OutboxEventView.id)) = none :=
  (Table.find_none_iff outbox _).mpr (ids.fresh _)

theorem insert_drawn_of_has_key {event : OutboxEventInsert} {key : String}
    (hasKey : event.idempotencyKey = some key) (taken : HasKey outbox key) :
    insertDrawn ids now outbox event = outbox := by
  have refused : outbox.accepts (ids.newV4 (outbox.rows.map OutboxEventView.id)) event =
      false := by
    obtain ⟨row, member, same⟩ := taken
    simp only [EventTable.accepts, Table.findWhere, Bool.and_eq_false_iff]
    right
    simp only [Option.isNone_eq_false_iff, List.find?_isSome]
    exact ⟨row, member, by simp [same, hasKey]⟩
  simp [insertDrawn, EventTable.insertEvent, refused]

theorem rows_insert_drawn {event : OutboxEventInsert} {key : String}
    (hasKey : event.idempotencyKey = some key) (free : ¬HasKey outbox key) :
    (insertDrawn ids now outbox event).rows = outbox.rows ++
      [EventTable.insertedEvent (ids.newV4 (outbox.rows.map OutboxEventView.id)) now event] := by
  have accepted : outbox.accepts (ids.newV4 (outbox.rows.map OutboxEventView.id)) event =
      true := by
    simp only [EventTable.accepts, find_drawn, Table.findWhere, Option.isNone_none, Bool.true_and,
      Option.isNone_iff_eq_none, List.find?_eq_none]
    intro row member same
    simp only [hasKey, ne_eq, reduceCtorEq, not_false_eq_true, and_true,
      decide_eq_true_eq] at same
    exact free ⟨row, member, same⟩
  rw [insertDrawn, EventTable.insertEvent, if_pos accepted]
  exact Table.rows_upsert_of_absent outbox _ (ids.fresh _)

theorem mem_insert_drawn {event : OutboxEventInsert} {row : OutboxEventView}
    (member : row ∈ (insertDrawn ids now outbox event).rows) :
    row ∈ outbox.rows ∨
      row.eventType = event.eventType ∧ row.idempotencyKey = event.idempotencyKey := by
  unfold insertDrawn EventTable.insertEvent at member
  split at member
  · rcases Table.mem_upsert member with rfl | old
    · exact .inr ⟨rfl, rfl⟩
    · exact .inl old
  · exact .inl member

theorem mem_insert_drawn_of_mem {event : OutboxEventInsert} {row : OutboxEventView}
    (old : row ∈ outbox.rows) : row ∈ (insertDrawn ids now outbox event).rows := by
  unfold insertDrawn EventTable.insertEvent
  split
  · rw [Table.rows_upsert_of_absent outbox _ (ids.fresh _)]
    exact List.mem_append_left _ old
  · exact old

end Insert

end HodeiJobs.Outbox
