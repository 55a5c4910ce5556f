import HodeiJobs.Library.Query
import HodeiJobs.Persistence.RoundTrip

/-!
# Peeking at the queue

`peek` orders the waiting rows by priority and then by time and reads the whole job out of the
column that holds its specification; `dequeue` orders them by time alone and decodes the row.
-/

namespace HodeiJobs.Persistence

open HodeiJobs.Library HodeiJobs.Shared
open HodeiJobs.Sagas (Json)
open HodeiJobs.Execution (JobId)

namespace JobQueue

/-- The column `priority` of the rows of the queue. -/
abbrev Priorities := JobId → Int

/-- `ORDER BY jq.priority DESC, jq.enqueued_at ASC`. -/
def notBehind (priority : Priorities) (first second : QueueRow) : Bool :=
  priority second.jobId < priority first.jobId ||
    (priority first.jobId == priority second.jobId &&
      JobTables.notAfter first.enqueuedAt second.enqueuedAt)

/-- The row that the statement of `peek` returns. -/
def peekRow (tables : JobTables) (priority : Priorities) (choice : Nat) : Option JobRow :=
  (pick choice (firsts (notBehind priority) tables.waiting)).bind fun queued =>
    tables.jobs.find queued.jobId

variable (serde : Serde) (jobFromValue : Json → Except String (Job serde))

/-- The decoding in `peek`, where `jobFromValue` is `serde_json::from_value::<Job>`. -/
def readPeeked (row : JobRow) : Except ReadError (Job serde) := do
  let _id ← getColumn [.id, .spec] .id row.id
  let spec ← getColumn [.id, .spec] .spec row.spec
  deserialize "job spec" (jobFromValue spec)

def peek (tables : JobTables) (priority : Priorities) (choice : Nat) :
    Except ReadError (Option (Job serde)) :=
  match peekRow tables priority choice with
  | some row => (readPeeked serde jobFromValue row).map some
  | none => .ok none

/-! ## What is asked of it -/

/-- `peek` tells what the next `dequeue` returns, where each of them breaks the ties of its
order as it likes. -/
structure PeekAgrees (tables : JobTables) (priority : Priorities) (peeked next : Nat) :
    Prop where
  same : ∀ job, peek serde jobFromValue tables priority peeked = .ok (some job) →
    ∃ taken, (dequeue serde tables next).1 = .ok (some taken) ∧ taken.id = job.id
  empty : peek serde jobFromValue tables priority peeked = .ok none ↔
    (dequeue serde tables next).1 = .ok none
  decodes : ∀ row, peekRow tables priority peeked = some row →
    (∃ job, mapRowToJob serde everyColumn row = .ok job) →
      ∃ job, peek serde jobFromValue tables priority peeked = .ok (some job)

/-- The column holds the JSON of a whole job. -/
def HoldsJob (row : JobRow) (job : Job serde) : Prop := jobFromValue row.spec = .ok job

/-- The row that is first by priority holds the job that is first by time and can be
decoded, in the column of its specification, or it can be decoded in neither way. -/
def FirstInBoth (tables : JobTables) (priority : Priorities) (peeked next : Nat) : Prop :=
  ∀ row, peekRow tables priority peeked = some row →
    (∃ job earliest, HoldsJob serde jobFromValue row job ∧ tables.claim next = some earliest ∧
        ReadCall.Decodable serde earliest ∧ earliest.id = job.id) ∨
      (∀ job, ¬HoldsJob serde jobFromValue row job) ∧ ¬ReadCall.Decodable serde row

/-! ## The first rows -/

section Order

variable {tables : JobTables} {priority : Priorities} {choice : Nat}

theorem not_after_total (first second : Option Sagas.DateTime) :
    JobTables.notAfter first second ∨ JobTables.notAfter second first := by
  cases first <;> cases second <;> simp [JobTables.notAfter, le_total]

theorem not_after_trans (first second third : Option Sagas.DateTime)
    (left : JobTables.notAfter first second) (right : JobTables.notAfter second third) :
    JobTables.notAfter first third := by
  cases first <;> cases second <;> cases third <;> simp [JobTables.notAfter] at left right ⊢
  exact le_trans left right

theorem not_behind_total (priority : Priorities) (first second : QueueRow) :
    notBehind priority first second ∨ notBehind priority second first := by
  have times := not_after_total first.enqueuedAt second.enqueuedAt
  simp only [notBehind, Bool.or_eq_true, decide_eq_true_eq, Bool.and_eq_true, beq_iff_eq]
  rcases lt_trichotomy (priority first.jobId) (priority second.jobId) with less | same | more
  · exact Or.inr (Or.inl less)
  · rcases times with before | after
    · exact Or.inl (Or.inr ⟨same, before⟩)
    · exact Or.inr (Or.inr ⟨same.symm, after⟩)
  · exact Or.inl (Or.inl more)

theorem not_behind_trans (priority : Priorities) (first second third : QueueRow)
    (left : notBehind priority first second) (right : notBehind priority second third) :
    notBehind priority first third := by
  simp only [notBehind, Bool.or_eq_true, decide_eq_true_eq, Bool.and_eq_true, beq_iff_eq]
    at left right ⊢
  rcases left with more | ⟨same, before⟩
  · rcases right with more' | ⟨same', _⟩
    · exact Or.inl (lt_trans more' more)
    · exact Or.inl (by rw [← same']; exact more)
  · rcases right with more' | ⟨same', after⟩
    · exact Or.inl (by rw [same]; exact more')
    · exact Or.inr ⟨same.trans same', not_after_trans _ _ _ before after⟩

theorem bind_find_eq_none_iff {candidate : Option QueueRow}
    (stored : ∀ queued, candidate = some queued → queued ∈ tables.waiting)
    (change : JobRow → JobRow) :
    (candidate.bind fun queued => (tables.jobs.find queued.jobId).map change) = none ↔
      candidate = none := by
  cases found : candidate with
  | none => simp
  | some queued =>
      obtain ⟨_, row, isRow, _⟩ := JobTables.mem_waiting_iff.mp (stored queued found)
      simp [isRow]

theorem claim_eq_pick : tables.claim choice =
    (pick choice (firsts (fun first second : QueueRow =>
      JobTables.notAfter first.enqueuedAt second.enqueuedAt) tables.waiting)).bind fun queued =>
        (tables.jobs.find queued.jobId).map fun row => { row with state := "ASSIGNED" } := rfl

theorem claim_eq_none_iff : tables.claim choice = none ↔ tables.waiting = [] := by
  rw [claim_eq_pick, bind_find_eq_none_iff, pick_eq_none_iff, firsts_eq_nil_iff]
  · intro first second
    exact not_after_total first.enqueuedAt second.enqueuedAt
  · intro first second third
    exact not_after_trans first.enqueuedAt second.enqueuedAt third.enqueuedAt
  · intro queued picked
    exact (List.mem_filter.mp (mem_of_pick picked)).1

theorem peek_row_eq_none_iff : peekRow tables priority choice = none ↔ tables.waiting = [] := by
  have stored : ∀ queued, pick choice (firsts (notBehind priority) tables.waiting) = some queued →
      queued ∈ tables.waiting := by
    intro queued picked
    exact (List.mem_filter.mp (mem_of_pick picked)).1
  have found := bind_find_eq_none_iff stored id
  simp only [Option.map_id, id_eq] at found
  rw [peekRow, found, pick_eq_none_iff,
    firsts_eq_nil_iff (not_behind_total priority) (not_behind_trans priority)]

end Order

/-! ## What each of the two returns -/

section Results

variable {serde : Serde} {jobFromValue : Json → Except String (Job serde)} {tables : JobTables}
  {priority : Priorities} {peeked next : Nat} {row earliest : JobRow}

theorem dequeue_of_claim (claimed : tables.claim next = some earliest) :
    (dequeue serde tables next).1 = (mapRowToJob serde everyColumn earliest).map some := by
  unfold dequeue JobTables.dequeue
  rw [claimed]

theorem dequeue_of_empty (empty : tables.claim next = none) :
    (dequeue serde tables next).1 = .ok none := by
  unfold dequeue JobTables.dequeue
  rw [empty]

theorem map_some_ok_iff {Value : Type} {read : Except ReadError Value} {value : Value} :
    read.map some = .ok (some value) ↔ read = .ok value := by
  cases read with
  | error problem => simp [Except.map]
  | ok other => simp [Except.map]

theorem map_some_not_none {Value : Type} {read : Except ReadError Value} :
    read.map some ≠ .ok none := by
  cases read with
  | error problem => simp [Except.map]
  | ok other => simp [Except.map]

theorem peek_ok_iff (found : peekRow tables priority peeked = some row) (job : Job serde) :
    peek serde jobFromValue tables priority peeked = .ok (some job) ↔
      HoldsJob serde jobFromValue row job := by
  unfold peek HoldsJob
  rw [found]
  change (deserialize "job spec" (jobFromValue row.spec)).map some = .ok (some job) ↔ _
  rw [map_some_ok_iff]
  cases jobFromValue row.spec with
  | error problem => simp [deserialize]
  | ok value => simp [deserialize]

theorem peek_not_none (found : peekRow tables priority peeked = some row) :
    peek serde jobFromValue tables priority peeked ≠ .ok none := by
  unfold peek
  rw [found]
  exact map_some_not_none

theorem read_id {job : Job serde} (read : mapRowToJob serde everyColumn row = .ok job) :
    job.id = row.id := by
  obtain ⟨spec, context, result, -, -, -, decoded⟩ := map_row_ok read
  rw [decoded]
  rfl

/-- The next `dequeue` returns a job of this id. -/
theorem takes_iff (claimed : tables.claim next = some earliest) (jobId : JobId) :
    (∃ taken, (dequeue serde tables next).1 = .ok (some taken) ∧ taken.id = jobId) ↔
      ReadCall.Decodable serde earliest ∧ earliest.id = jobId := by
  rw [dequeue_of_claim claimed, ← map_row_ok_iff serde stringToState]
  constructor
  · intro ⟨taken, read, same⟩
    have decoded := map_some_ok_iff.mp read
    exact ⟨⟨taken, decoded⟩, (read_id decoded).symm.trans same⟩
  · intro ⟨⟨taken, decoded⟩, same⟩
    exact ⟨taken, map_some_ok_iff.mpr decoded, (read_id decoded).trans same⟩

theorem peek_agrees_of_row (found : peekRow tables priority peeked = some row)
    (claimed : tables.claim next = some earliest) :
    PeekAgrees serde jobFromValue tables priority peeked next ↔
      (∀ job, HoldsJob serde jobFromValue row job →
        ReadCall.Decodable serde earliest ∧ earliest.id = job.id) ∧
      (ReadCall.Decodable serde row → ∃ job, HoldsJob serde jobFromValue row job) := by
  have readable := map_row_ok_iff serde stringToState row
  constructor
  · intro agrees
    constructor
    · intro job holds
      exact (takes_iff claimed job.id).mp (agrees.same job ((peek_ok_iff found job).mpr holds))
    · intro decodable
      obtain ⟨job, read⟩ := agrees.decodes row found (readable.mpr decodable)
      exact ⟨job, (peek_ok_iff found job).mp read⟩
  · intro ⟨same, decodes⟩
    constructor
    · intro job read
      exact (takes_iff claimed job.id).mpr (same job ((peek_ok_iff found job).mp read))
    · rw [dequeue_of_claim claimed]
      exact iff_of_false (peek_not_none found) map_some_not_none
    · intro other otherFound decoded
      obtain rfl := Option.some.inj (found.symm.trans otherFound)
      obtain ⟨job, holds⟩ := decodes (readable.mp decoded)
      exact ⟨job, (peek_ok_iff found job).mpr holds⟩

end Results

/-- `peek` tells what the next `dequeue` returns exactly if nothing waits or the row that is
first by priority holds the job that is first by time. -/
theorem peek_agrees_iff (serde : Serde) (jobFromValue : Json → Except String (Job serde))
    (tables : JobTables) (priority : Priorities) (peeked next : Nat) :
    PeekAgrees serde jobFromValue tables priority peeked next ↔
      FirstInBoth serde jobFromValue tables priority peeked next := by
  cases found : peekRow tables priority peeked with
  | none =>
      have empty : tables.claim next = none :=
        claim_eq_none_iff.mpr (peek_row_eq_none_iff.mp found)
      have peekedNone : peek serde jobFromValue tables priority peeked = .ok none := by
        rw [peek, found]
      apply iff_of_true
      · constructor
        · intro job read
          rw [peekedNone] at read
          cases read
        · exact iff_of_true peekedNone (dequeue_of_empty empty)
        · intro row isRow
          rw [found] at isRow
          cases isRow
      · intro row isRow
        rw [found] at isRow
        cases isRow
  | some row =>
      have waits : tables.waiting ≠ [] := by
        intro none
        rw [peek_row_eq_none_iff.mpr none] at found
        cases found
      obtain ⟨earliest, claimed⟩ := Option.ne_none_iff_exists'.mp
        (fun empty => waits (claim_eq_none_iff.mp empty) : tables.claim next ≠ none)
      rw [peek_agrees_of_row found claimed]
      constructor
      · intro ⟨same, decodes⟩ other otherFound
        obtain rfl := Option.some.inj (found.symm.trans otherFound)
        by_cases whole : ∃ job, HoldsJob serde jobFromValue row job
        · obtain ⟨job, holds⟩ := whole
          exact Or.inl ⟨job, earliest, holds, claimed, same job holds⟩
        · exact Or.inr ⟨not_exists.mp whole, fun decodable => whole (decodes decodable)⟩
      · intro first
        rcases first row found with ⟨job, taken, holds, takes, same⟩ | ⟨never, undecodable⟩
        · obtain rfl := Option.some.inj (claimed.symm.trans takes)
          refine ⟨?_, fun _ => ⟨job, holds⟩⟩
          intro other otherHolds
          obtain rfl := Except.ok.inj (holds.symm.trans otherHolds)
          exact same
        · exact ⟨fun job holds => absurd holds (never job),
            fun decodable => absurd decodable undecodable⟩

/-- A job that is saved and waits: its specification is not the JSON of a job. -/
theorem peek_fails_where_dequeue_returns :
    ¬∀ (serde : Serde) (jobFromValue : Json → Except String (Job serde)) (tables : JobTables)
      (priority : Priorities) (peeked next : Nat),
      PeekAgrees serde jobFromValue tables priority peeked next := by
  intro agrees
  have fails := agrees (plainSerde ()) (fun _ => .error "invalid type: null, expected struct Job")
    (savedTables [plainJob () .pending]) (fun _ => 0) 0 0
  have decodable : ∀ row, row.spec = .null → row.executionContext = none → row.result = none →
      ReadCall.Decodable (plainSerde ()) row := by
    intro row _ noContext noResult
    refine ⟨⟨(), rfl⟩, ?_, ?_⟩
    · rw [noContext]
      nofun
    · rw [noResult]
      nofun
  obtain ⟨job, holds⟩ := ((peek_agrees_of_row rfl rfl).mp fails).2 (decodable _ rfl rfl rfl)
  cases holds

end JobQueue

end HodeiJobs.Persistence
