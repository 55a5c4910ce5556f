import HodeiJobs.Persistence.JobReaders
import Mathlib.Data.List.Count

/-!
# Pending jobs and their queue rows

Six operations write the state of a job, its row in the queue, or both. Seen from one
job the tables are two values, the stored state and whether the job is queued; what the
statements do to these two is all that the queue depends on.
-/

namespace HodeiJobs.Persistence

open HodeiJobs.Library HodeiJobs.Shared
open HodeiJobs.Execution (JobId)

namespace JobTables

variable (tables : JobTables)

/-- The stored state of a job. -/
def stateOf (jobId : JobId) : Option String := (tables.jobs.find jobId).map JobRow.state

def queued (jobId : JobId) : Bool := (tables.jobQueue.find jobId).isSome

/-! ## The statements as seen from one job -/

theorem insert_into_queue_jobs (jobId : JobId) :
    (tables.insertIntoQueue jobId).jobs = tables.jobs := by
  unfold insertIntoQueue
  cases tables.jobQueue.find jobId with
  | none => rfl
  | some queued => rfl

theorem insert_into_queue_queued (jobId other : JobId) :
    (tables.insertIntoQueue jobId).queued other = (tables.queued other || other == jobId) := by
  unfold insertIntoQueue queued
  by_cases same : other = jobId
  · subst same
    cases found : tables.jobQueue.find other with
    | none =>
        have inserted := Table.find_upsert_self tables.jobQueue ⟨other, none⟩
        simp only at inserted
        simp [inserted]
    | some row => simp [found]
  · have kept := Table.find_upsert_other tables.jobQueue ⟨jobId, none⟩ (Ne.symm same)
    cases tables.jobQueue.find jobId with
    | none => simp [kept, same]
    | some row => simp [same]

@[simp] theorem insert_into_queue_state (jobId other : JobId) :
    (tables.insertIntoQueue jobId).stateOf other = tables.stateOf other := by
  unfold stateOf
  rw [insert_into_queue_jobs]

@[simp] theorem set_state_state (jobId other : JobId) (state : String) :
    (tables.setState jobId state).stateOf other =
      if other = jobId then (tables.stateOf other).map fun _ => state
      else tables.stateOf other := by
  unfold stateOf setState
  rw [Table.find_update]
  split_ifs
  · simp [Option.map_map, Function.comp_def]
  · rfl

@[simp] theorem set_state_queued (jobId other : JobId) (state : String) :
    (tables.setState jobId state).queued other = tables.queued other := rfl

theorem upsert_state (row : JobRow) (other : JobId) :
    ((tables.jobs.upsert row).find other).map JobRow.state =
      if other = row.id then some row.state else tables.stateOf other := by
  by_cases same : other = row.id
  · rw [if_pos same, same, Table.find_upsert_self]
    rfl
  · rw [if_neg same, Table.find_upsert_other tables.jobs row (Ne.symm same)]
    rfl

theorem save_row_state (state : JobState) (row : JobRow) (other : JobId) :
    (tables.saveRow state row).stateOf other =
      if other = row.id then some row.state else tables.stateOf other := by
  rw [← upsert_state]
  cases state with
  | pending => exact insert_into_queue_state { tables with jobs := _ } row.id other
  | _ => rfl

theorem save_row_queued (state : JobState) (row : JobRow) (other : JobId) :
    (tables.saveRow state row).queued other =
      (tables.queued other || (state == .pending && other == row.id)) := by
  cases state with
  | pending => exact insert_into_queue_queued { tables with jobs := _ } row.id other
  | _ => simp [saveRow, queued]

theorem delete_noop_or_gone (onDelete : OnDelete) (jobId : JobId) :
    (tables.delete onDelete jobId).2 = tables ∨
      (tables.delete onDelete jobId).2 =
        ⟨tables.jobs.delete jobId, tables.jobQueue.delete jobId⟩ := by
  unfold delete
  split
  · exact .inl rfl
  · exact .inr rfl

theorem gone_state (jobId other : JobId) :
    stateOf ⟨tables.jobs.delete jobId, tables.jobQueue.delete jobId⟩ other =
      if other = jobId then none else tables.stateOf other := by
  unfold stateOf
  rw [Table.find_delete]
  split_ifs
  · rfl
  · rfl

theorem gone_queued (jobId other : JobId) :
    queued ⟨tables.jobs.delete jobId, tables.jobQueue.delete jobId⟩ other =
      if other = jobId then false else tables.queued other := by
  unfold queued
  rw [Table.find_delete]
  split_ifs
  · rfl
  · rfl

variable {tables}

/-- A claim takes a pending job out of the queue. -/
theorem dequeue_some {choice : Nat} {row : JobRow} (claimed : tables.claim choice = some row) :
    tables.stateOf row.id = some "PENDING" ∧ tables.queued row.id = true ∧
      (∀ other, (tables.dequeue choice).2.stateOf other =
        if other = row.id then some "ASSIGNED" else tables.stateOf other) ∧
      ∀ other, (tables.dequeue choice).2.queued other =
        if other = row.id then false else tables.queued other := by
  obtain ⟨before, queueRow, stored, pending, inQueue, same⟩ := claim_some claimed
  have key : row.id = before.id := by rw [same]
  have state : tables.stateOf row.id = some "PENDING" := by
    rw [stateOf, key, stored, Option.map_some, pending]
  have after : (tables.dequeue choice).2 =
      { tables.setState row.id "ASSIGNED" with jobQueue := tables.jobQueue.delete row.id } := by
    rw [dequeue, claimed]
    rfl
  have inQueueNow : tables.queued row.id = true := by
    rw [queued, key, inQueue]
    rfl
  refine ⟨state, inQueueNow, ?_, ?_⟩
  · intro other
    rw [after]
    apply (set_state_state tables row.id other "ASSIGNED").trans
    by_cases own : other = row.id
    · rw [if_pos own, if_pos own, own, state]
      rfl
    · rw [if_neg own, if_neg own]
  · intro other
    rw [after, ← gone_queued]
    rfl

theorem dequeue_none {choice : Nat} (unclaimed : tables.claim choice = none) :
    (tables.dequeue choice).2 = tables := by
  rw [dequeue, unclaimed]

end JobTables

/-! ## Operations -/

section

variable (serde : Serde)

/-- The statements that `save_with_tx` and `update_state_with_tx` add to a transaction. A
job that cannot be serialized adds none. -/
inductive TxMove where
  | save (job : Job serde)
  | updateState (jobId : JobId) (newState : JobState)

inductive QueueMove where
  | enqueue (jobId : JobId)
  | dequeue (choice : Nat)
  | save (job : Job serde)
  | updateState (jobId : JobId) (newState : JobState)
  | delete (jobId : JobId)
  | transaction (moves : List (TxMove serde))

end

/-- The constraint by which a queue row refers to a job. -/
structure ForeignKey where
  violation : String
  onDelete : JobTables.OnDelete

variable {serde : Serde}

namespace TxMove

def run (tables : JobTables) : TxMove serde → JobTables
  | .save job => (tables.save job).2
  | .updateState jobId newState => tables.updateState jobId newState

/-- The job is inserted or overwritten. -/
def saves (jobId : JobId) : TxMove serde → Bool
  | .save job => job.id == jobId && (JobRow.ofJob job).isOk
  | .updateState _ _ => false

def savesPending (jobId : JobId) : TxMove serde → Bool
  | .save job => job.id == jobId && (JobRow.ofJob job).isOk && job.state == .pending
  | .updateState _ _ => false

def writes (jobId : JobId) : TxMove serde → Bool
  | .save job => job.id == jobId && (JobRow.ofJob job).isOk
  | .updateState updated _ => updated == jobId

def newState : TxMove serde → JobState
  | .save job => job.state
  | .updateState _ newState => newState

end TxMove

def runTransaction (tables : JobTables) (moves : List (TxMove serde)) : JobTables :=
  moves.foldl TxMove.run tables

/-- The statement that decides the state of the job. -/
def lastWrite (jobId : JobId) (moves : List (TxMove serde)) : Option (TxMove serde) :=
  moves.reverse.find? (TxMove.writes jobId)

namespace QueueMove

variable (key : ForeignKey)

def step (tables : JobTables) : QueueMove serde → JobTables
  | .enqueue jobId => (tables.enqueue key.violation jobId).2
  | .dequeue choice => (JobQueue.dequeue serde tables choice).2
  | .save job => (tables.save job).2
  | .updateState jobId newState => tables.updateState jobId newState
  | .delete jobId => (tables.delete key.onDelete jobId).2
  | .transaction moves => runTransaction tables moves

/-- The job that a `dequeue` returns. -/
def returned (serde : Serde) (tables : JobTables) (choice : Nat) : Option JobId :=
  match (JobQueue.dequeue serde tables choice).1 with
  | .ok (some job) => some job.id
  | _ => none

/-- An `enqueue` of the job, or a save in state `Pending`. -/
def requeues (jobId : JobId) : QueueMove serde → Bool
  | .enqueue enqueued => enqueued == jobId
  | .save job => (TxMove.save job).savesPending jobId
  | .transaction moves => moves.any (TxMove.savesPending jobId)
  | _ => false

end QueueMove

/-! ## The contract of the queue -/

/-- Every pending job has exactly one row in the queue and can be dequeued. -/
def PendingQueued (tables : JobTables) : Prop :=
  ∀ row ∈ tables.jobs.rows, row.state = "PENDING" →
    tables.jobQueue.rows.countP (fun queued => queued.jobId == row.id) = 1 ∧
      ∃ choice, tables.claim choice = some { row with state := "ASSIGNED" }

/-- Between two dequeues that return one job, the job is queued again. -/
def ReturnedOnce (key : ForeignKey) (moves : List (QueueMove serde)) : Prop :=
  ∀ earlier first middle second later,
    moves = earlier ++ .dequeue first :: middle ++ .dequeue second :: later →
      ∀ jobId, QueueMove.returned serde (earlier.foldl (QueueMove.step key) .empty) first =
          some jobId →
        QueueMove.returned serde
          ((earlier ++ .dequeue first :: middle).foldl (QueueMove.step key) .empty) second =
            some jobId →
          ∃ move ∈ middle, move.requeues jobId = true

/-- An `enqueue` leaves a terminal job in its state. -/
def KeepsTerminal (key : ForeignKey) (tables : JobTables) : QueueMove serde → Prop
  | .enqueue jobId => ∀ state, JobState.isTerminal state = true →
      tables.stateOf jobId = some (stateToString state) →
        (tables.enqueue key.violation jobId).2.stateOf jobId = some (stateToString state)
  | _ => True

/-- No terminal job is enqueued, and no stored job is set to `Pending` by its state alone
unless it is in the queue, or put there by the same transaction. -/
def KeepsQueue (tables : JobTables) : QueueMove serde → Prop
  | .enqueue jobId => ∀ state, JobState.isTerminal state = true →
      tables.stateOf jobId ≠ some (stateToString state)
  | .updateState jobId newState => newState = .pending →
      tables.stateOf jobId = none ∨ tables.queued jobId = true
  | .transaction moves => ∀ jobId, lastWrite jobId moves = some (.updateState jobId .pending) →
      tables.queued jobId = true ∨ moves.any (TxMove.savesPending jobId) = true ∨
        (tables.stateOf jobId = none ∧ moves.any (TxMove.saves jobId) = false)
  | _ => True

/-! ## What a transaction leaves -/

section

open JobTables

variable {tables : JobTables}

theorem save_eq (tables : JobTables) (job : Job serde) :
    (tables.save job).2 = tables ∧ (JobRow.ofJob job).isOk = false ∨
      ∃ row, (tables.save job).2 = tables.saveRow job.state row ∧ row.id = job.id ∧
        row.state = stateToString job.state ∧ (JobRow.ofJob job).isOk = true := by
  unfold JobTables.save
  cases bound : JobRow.ofJob job with
  | error problem => exact .inl ⟨rfl, rfl⟩
  | ok row =>
      obtain ⟨id, state, -⟩ := of_job_ok bound
      exact .inr ⟨row, rfl, id, state, rfl⟩

theorem run_queued (move : TxMove serde) (tables : JobTables) (jobId : JobId) :
    (move.run tables).queued jobId = (tables.queued jobId || move.savesPending jobId) := by
  cases move with
  | updateState updated newState => simp [TxMove.run, updateState, TxMove.savesPending]
  | save job =>
      simp only [TxMove.run, TxMove.savesPending]
      rcases save_eq tables job with ⟨kept, unbound⟩ | ⟨row, saved, id, -, isOk⟩
      · simp [kept, unbound]
      · rw [saved, save_row_queued, id, isOk, Bool.and_true, Bool.and_comm, BEq.comm]

theorem run_stored (move : TxMove serde) (tables : JobTables) (jobId : JobId) :
    ((move.run tables).stateOf jobId).isSome =
      ((tables.stateOf jobId).isSome || move.saves jobId) := by
  cases move with
  | updateState updated newState =>
      simp only [TxMove.run, updateState, set_state_state, TxMove.saves, Bool.or_false]
      split_ifs
      · simp
      · rfl
  | save job =>
      simp only [TxMove.run, TxMove.saves]
      rcases save_eq tables job with ⟨kept, unbound⟩ | ⟨row, saved, id, -, isOk⟩
      · simp [kept, unbound]
      · rw [saved, save_row_state, id, isOk, Bool.and_true]
        by_cases own : jobId = job.id
        · simp [own]
        · simp [own, Ne.symm own]

theorem run_state_unwritten {move : TxMove serde} {jobId : JobId}
    (unwritten : move.writes jobId = false) (tables : JobTables) :
    (move.run tables).stateOf jobId = tables.stateOf jobId := by
  cases move with
  | updateState updated newState =>
      have other : updated ≠ jobId := by simpa [TxMove.writes] using unwritten
      simp [TxMove.run, updateState, other.symm]
  | save job =>
      rcases save_eq tables job with ⟨kept, -⟩ | ⟨row, saved, id, -, isOk⟩
      · simp [TxMove.run, kept]
      · have other : job.id ≠ jobId := by simpa [TxMove.writes, isOk] using unwritten
        simp [TxMove.run, saved, save_row_state, id, other.symm]

theorem run_state_written {move : TxMove serde} {jobId : JobId}
    (written : move.writes jobId = true) {tables : JobTables} {state : String}
    (stored : (move.run tables).stateOf jobId = some state) :
    state = stateToString move.newState := by
  cases move with
  | updateState updated newState =>
      have own : updated = jobId := by simpa [TxMove.writes] using written
      simp only [TxMove.run, updateState, set_state_state, own, if_true] at stored
      obtain ⟨_, -, same⟩ := Option.map_eq_some_iff.mp stored
      exact same.symm
  | save job =>
      simp only [TxMove.writes, Bool.and_eq_true, beq_iff_eq] at written
      rcases save_eq tables job with ⟨-, unbound⟩ | ⟨row, saved, id, bound, -⟩
      · simp [unbound] at written
      · simp only [TxMove.run, saved, save_row_state, id, written.1, if_true, bound,
          Option.some.injEq] at stored
        exact stored.symm

theorem transaction_queued (moves : List (TxMove serde)) (tables : JobTables) (jobId : JobId) :
    (runTransaction tables moves).queued jobId =
      (tables.queued jobId || moves.any (TxMove.savesPending jobId)) :=
  foldl_raised TxMove.run (fun tables => tables.queued jobId) (TxMove.savesPending jobId)
    (fun tables move => run_queued move tables jobId) moves tables

theorem transaction_stored (moves : List (TxMove serde)) (tables : JobTables) (jobId : JobId) :
    ((runTransaction tables moves).stateOf jobId).isSome =
      ((tables.stateOf jobId).isSome || moves.any (TxMove.saves jobId)) :=
  foldl_raised TxMove.run (fun tables => (tables.stateOf jobId).isSome) (TxMove.saves jobId)
    (fun tables move => run_stored move tables jobId) moves tables

/-- The last statement that writes the job decides its state. -/
theorem transaction_state (moves : List (TxMove serde)) (tables : JobTables) (jobId : JobId) :
    (lastWrite jobId moves = none →
      (runTransaction tables moves).stateOf jobId = tables.stateOf jobId) ∧
      ∀ last, lastWrite jobId moves = some last → ∀ state,
        (runTransaction tables moves).stateOf jobId = some state →
          state = stateToString last.newState := by
  unfold runTransaction lastWrite
  induction moves using List.reverseRecOn with
  | nil => exact ⟨fun _ => rfl, fun _ absent => absurd absent (by simp)⟩
  | append_singleton earlier move ih =>
      rw [List.foldl_append, List.reverse_append, List.reverse_singleton, List.singleton_append,
        List.find?_cons]
      simp only [List.foldl_cons, List.foldl_nil]
      cases writes : move.writes jobId with
      | true =>
          constructor
          · simp
          · intro last found state stored
            rw [← Option.some.inj found]
            exact run_state_written writes stored
      | false =>
          rw [run_state_unwritten writes]
          exact ih

/-- No pending job is missing from the queue. -/
def NoneStranded (tables : JobTables) : Prop :=
  ∀ jobId, tables.stateOf jobId = some "PENDING" → tables.queued jobId = true

theorem last_write_mem {jobId : JobId} {moves : List (TxMove serde)} {last : TxMove serde}
    (found : lastWrite jobId moves = some last) : last ∈ moves ∧ last.writes jobId = true :=
  ⟨List.mem_reverse.mp (List.mem_of_find?_eq_some found), List.find?_some found⟩

theorem transaction_strands_none_iff (moves : List (TxMove serde)) (kept : NoneStranded tables) :
    KeepsQueue tables (.transaction moves) ↔ NoneStranded (runTransaction tables moves) := by
  have queued_eq := transaction_queued moves tables
  have stored_eq := transaction_stored moves tables
  have state_eq := transaction_state moves tables
  constructor
  · intro keeps jobId pending
    rw [queued_eq, Bool.or_eq_true]
    cases found : lastWrite jobId moves with
    | none =>
        rw [(state_eq jobId).1 found] at pending
        exact .inl (kept jobId pending)
    | some last =>
        have written : stateToString .pending = stateToString last.newState :=
          (state_eq jobId).2 last found _ pending
        have state := state_to_string_injective written
        obtain ⟨member, writes⟩ := last_write_mem found
        cases last with
        | save job =>
            have savesPending : (TxMove.save job).savesPending jobId = true := by
              simp only [TxMove.writes, Bool.and_eq_true] at writes
              simp only [TxMove.newState] at state
              simp [TxMove.savesPending, writes, ← state]
            exact .inr (List.any_eq_true.mpr ⟨_, member, savesPending⟩)
        | updateState updated newState =>
            have own : updated = jobId := by simpa [TxMove.writes] using writes
            simp only [TxMove.newState] at state
            rw [own, ← state] at found
            rcases keeps jobId found with inQueue | saved | ⟨absent, unsaved⟩
            · exact .inl inQueue
            · exact .inr saved
            · have isSome := stored_eq jobId
              rw [pending, absent, unsaved] at isSome
              cases isSome
  · intro stranded jobId found
    cases stored : (runTransaction tables moves).stateOf jobId with
    | none =>
        have isSome := stored_eq jobId
        rw [stored, Option.isSome_none] at isSome
        obtain ⟨absent, unsaved⟩ := Bool.or_eq_false_iff.mp isSome.symm
        exact .inr (.inr ⟨Option.not_isSome_iff_eq_none.mp (by simp [absent]), unsaved⟩)
    | some state =>
        have pending : state = "PENDING" := (state_eq jobId).2 _ found state stored
        have inQueue := stranded jobId (by rw [stored, pending])
        rw [queued_eq, Bool.or_eq_true] at inQueue
        cases inQueue with
        | inl before => exact .inl before
        | inr saved => exact .inr (.inl saved)

/-! ## What each operation leaves -/

theorem enqueue_state (violation : String) (jobId : JobId) :
    (tables.enqueue violation jobId).2.stateOf jobId =
      (tables.stateOf jobId).map fun _ => "PENDING" := by
  unfold JobTables.enqueue
  cases found : tables.jobs.find jobId with
  | none => simp [stateOf, found]
  | some row => simp

theorem enqueue_strands_none (violation : String) (jobId : JobId) (kept : NoneStranded tables) :
    NoneStranded (tables.enqueue violation jobId).2 := by
  unfold JobTables.enqueue
  cases tables.jobs.find jobId with
  | none => exact kept
  | some row =>
      intro other pending
      rw [set_state_queued, insert_into_queue_queued, Bool.or_eq_true, beq_iff_eq]
      by_cases own : other = jobId
      · exact .inr own
      · rw [set_state_state, if_neg own, insert_into_queue_state] at pending
        exact .inl (kept other pending)

theorem dequeue_strands_none (choice : Nat) (kept : NoneStranded tables) :
    NoneStranded (tables.dequeue choice).2 := by
  cases claimed : tables.claim choice with
  | none =>
      rw [dequeue_none claimed]
      exact kept
  | some row =>
      obtain ⟨-, -, state_eq, queued_eq⟩ := dequeue_some claimed
      intro other pending
      rw [state_eq] at pending
      rw [queued_eq]
      split_ifs at pending ⊢ with own
      · simp at pending
      · exact kept other pending

theorem delete_strands_none (onDelete : OnDelete) (jobId : JobId) (kept : NoneStranded tables) :
    NoneStranded (tables.delete onDelete jobId).2 := by
  rcases delete_noop_or_gone tables onDelete jobId with same | gone
  · rw [same]
    exact kept
  · rw [gone]
    intro other pending
    rw [gone_state] at pending
    rw [gone_queued]
    split_ifs at pending ⊢ with own
    exact kept other pending

theorem save_strands_none (job : Job serde) (kept : NoneStranded tables) :
    NoneStranded (tables.save job).2 := by
  have alone := transaction_strands_none_iff [TxMove.save job] kept
  apply alone.mp
  intro jobId found
  have last := (last_write_mem found).1
  simp at last

theorem update_state_strands_none_iff (jobId : JobId) (newState : JobState)
    (kept : NoneStranded tables) :
    (newState = .pending → tables.stateOf jobId = none ∨ tables.queued jobId = true) ↔
      NoneStranded (tables.updateState jobId newState) := by
  unfold updateState NoneStranded
  simp only [set_state_state, set_state_queued]
  constructor
  · intro keeps other pending
    split_ifs at pending with own
    · obtain ⟨state, stored, same⟩ := Option.map_eq_some_iff.mp pending
      rw [own] at stored ⊢
      cases keeps (state_to_string_injective same) with
      | inl absent =>
          rw [absent] at stored
          cases stored
      | inr inQueue => exact inQueue
    · exact kept other pending
  · intro stranded toPending
    cases stored : tables.stateOf jobId with
    | none => exact .inl rfl
    | some state =>
        right
        apply stranded jobId
        rw [if_pos rfl, stored, toPending]
        rfl

theorem job_queue_dequeue_tables (serde : Serde) (choice : Nat) :
    (JobQueue.dequeue serde tables choice).2 = (tables.dequeue choice).2 := by
  unfold JobQueue.dequeue
  rcases tables.dequeue choice with ⟨_ | row, after⟩
  · rfl
  · rfl

theorem keeps_queue_iff (key : ForeignKey) (move : QueueMove serde) (kept : NoneStranded tables) :
    KeepsQueue tables move ↔
      NoneStranded (QueueMove.step key tables move) ∧ KeepsTerminal key tables move := by
  cases move with
  | enqueue jobId =>
      have strands := enqueue_strands_none key.violation jobId kept
      refine Iff.trans ?_ (and_iff_right strands).symm
      constructor
      · intro active state terminal stored
        exact absurd stored (active state terminal)
      · intro keeps state terminal stored
        have after := keeps state terminal stored
        rw [enqueue_state, stored] at after
        have same : JobState.pending = state :=
          state_to_string_injective (Option.some.inj after)
        rw [← same] at terminal
        cases terminal
  | dequeue choice =>
      have strands : NoneStranded (JobQueue.dequeue serde tables choice).2 := by
        rw [job_queue_dequeue_tables]
        exact dequeue_strands_none choice kept
      exact iff_of_true trivial ⟨strands, trivial⟩
  | save job => exact iff_of_true trivial ⟨save_strands_none job kept, trivial⟩
  | updateState jobId newState =>
      exact (update_state_strands_none_iff jobId newState kept).trans (and_iff_left trivial).symm
  | delete jobId =>
      exact iff_of_true trivial ⟨delete_strands_none key.onDelete jobId kept, trivial⟩
  | transaction moves =>
      exact (transaction_strands_none_iff moves kept).trans (and_iff_left trivial).symm

/-! ## Every queued job can be claimed -/

/-- No statement gives a queue row a time, so that every waiting row may be claimed. -/
def Untimed (tables : JobTables) : Prop :=
  ∀ row ∈ tables.jobQueue.rows, row.enqueuedAt = none

theorem insert_untimed (jobId : JobId) (untimed : Untimed tables) :
    Untimed (tables.insertIntoQueue jobId) := by
  unfold insertIntoQueue
  cases tables.jobQueue.find jobId with
  | some queued => exact untimed
  | none =>
      intro row member
      cases Table.mem_upsert member with
      | inl inserted => rw [inserted]
      | inr old => exact untimed row old

theorem save_untimed (job : Job serde) (untimed : Untimed tables) :
    Untimed (tables.save job).2 := by
  rcases save_eq tables job with ⟨kept, -⟩ | ⟨row, saved, -⟩
  · rw [kept]
    exact untimed
  · rw [saved]
    cases job.state with
    | pending =>
        have upserted : Untimed { tables with jobs := tables.jobs.upsert row } := untimed
        exact insert_untimed row.id upserted
    | _ => exact untimed

theorem transaction_untimed (moves : List (TxMove serde)) (untimed : Untimed tables) :
    Untimed (runTransaction tables moves) := by
  apply List.foldlRecOn moves TxMove.run untimed
  intro tables untimed move _
  cases move with
  | save job => exact save_untimed job untimed
  | updateState jobId newState => exact untimed

theorem delete_untimed (jobId : JobId) (untimed : Untimed tables) :
    Untimed ⟨tables.jobs.delete jobId, tables.jobQueue.delete jobId⟩ := by
  intro row member
  exact untimed row (List.mem_filter.mp member).1

theorem step_untimed (key : ForeignKey) (move : QueueMove serde) (untimed : Untimed tables) :
    Untimed (QueueMove.step key tables move) := by
  cases move with
  | enqueue jobId =>
      simp only [QueueMove.step, JobTables.enqueue]
      cases tables.jobs.find jobId with
      | none => exact untimed
      | some row => exact insert_untimed jobId untimed
  | dequeue choice =>
      simp only [QueueMove.step, job_queue_dequeue_tables, JobTables.dequeue]
      cases tables.claim choice with
      | none => exact untimed
      | some row => exact delete_untimed row.id untimed
  | save job => exact save_untimed job untimed
  | updateState jobId newState => exact untimed
  | delete jobId =>
      simp only [QueueMove.step]
      rcases delete_noop_or_gone tables key.onDelete jobId with same | gone
      · rw [same]
        exact untimed
      · rw [gone]
        exact delete_untimed jobId untimed
  | transaction moves => exact transaction_untimed moves untimed

theorem claimable_of_untimed (untimed : Untimed tables) : tables.claimable = tables.waiting := by
  unfold claimable
  rw [List.filter_eq_self]
  intro queued _
  rw [List.all_eq_true]
  intro other member
  rw [untimed other (mem_waiting_iff.mp member).1]
  cases queued.enqueuedAt with
  | none => rfl
  | some time => rfl

/-- The key of a row is the key of no other. -/
theorem count_queue_rows (jobId : JobId) :
    tables.jobQueue.rows.countP (fun queued => queued.jobId == jobId) =
      if tables.queued jobId then 1 else 0 := by
  have counted : tables.jobQueue.rows.countP (fun queued => queued.jobId == jobId) =
      (tables.jobQueue.rows.map QueueRow.jobId).count jobId := by
    rw [List.count, List.countP_map]
    rfl
  rw [counted]
  unfold queued
  cases found : tables.jobQueue.find jobId with
  | none =>
      have absent := (Table.find_none_iff tables.jobQueue jobId).mp found
      simpa using List.count_eq_zero_of_not_mem absent
  | some queued =>
      have member : jobId ∈ tables.jobQueue.rows.map QueueRow.jobId := by
        rw [← Table.find_some_key found]
        exact List.mem_map_of_mem (List.mem_of_find?_eq_some found)
      simpa using List.count_eq_one_of_mem tables.jobQueue.unique member

theorem claim_of_queued {row : JobRow} (untimed : Untimed tables) (stored : row ∈ tables.jobs.rows)
    (pending : row.state = "PENDING") (inQueue : tables.queued row.id = true) :
    ∃ choice, tables.claim choice = some { row with state := "ASSIGNED" } := by
  obtain ⟨queued, found⟩ := Option.isSome_iff_exists.mp inQueue
  have key : queued.jobId = row.id := Table.find_some_key found
  have rowFound : tables.jobs.find queued.jobId = some row := by
    rw [key]
    exact Table.find_of_mem stored
  have waits : queued ∈ tables.waiting :=
    mem_waiting_iff.mpr ⟨List.mem_of_find?_eq_some found, row, rowFound, pending⟩
  rw [← claimable_of_untimed untimed] at waits
  obtain ⟨position, bound, at_position⟩ := List.mem_iff_getElem.mp waits
  use position
  unfold claim
  rw [Nat.mod_eq_of_lt bound, List.getElem?_eq_getElem bound, at_position, Option.bind_some,
    rowFound, Option.map_some]

theorem pending_queued_iff (untimed : Untimed tables) :
    PendingQueued tables ↔ NoneStranded tables := by
  constructor
  · intro contract jobId pending
    obtain ⟨row, found, state⟩ := Option.map_eq_some_iff.mp pending
    have key : row.id = jobId := Table.find_some_key found
    have counted := (contract row (List.mem_of_find?_eq_some found) state).1
    rw [count_queue_rows, key] at counted
    simpa using counted
  · intro stranded row stored pending
    have inQueue : tables.queued row.id = true := by
      apply stranded
      rw [stateOf, Table.find_of_mem stored, Option.map_some, pending]
    constructor
    · rw [count_queue_rows, inQueue]
      rfl
    · exact claim_of_queued untimed stored pending inQueue

/-! ## Between two dequeues -/

theorem map_row_id {stateOf : String → JobState} {row : JobRow} {job : Job serde}
    (read : mapRow serde stateOf everyColumn row = .ok job) : job.id = row.id := by
  obtain ⟨spec, context, result, -, -, -, decoded⟩ := map_row_ok read
  rw [decoded]
  rfl

/-- A returned job was in the queue, and is assigned and there no longer. -/
theorem returned_some {choice : Nat} {jobId : JobId}
    (returned : QueueMove.returned serde tables choice = some jobId) :
    tables.queued jobId = true ∧
      (JobQueue.dequeue serde tables choice).2.queued jobId = false ∧
      (JobQueue.dequeue serde tables choice).2.stateOf jobId = some "ASSIGNED" := by
  rw [job_queue_dequeue_tables]
  unfold QueueMove.returned JobQueue.dequeue at returned
  cases claimed : tables.claim choice with
  | none => simp [JobTables.dequeue, claimed] at returned
  | some row =>
      obtain ⟨-, inQueue, state_eq, queued_eq⟩ := dequeue_some claimed
      simp only [JobTables.dequeue, claimed] at returned
      cases read : JobQueue.mapRowToJob serde everyColumn row with
      | error problem => simp [read, Except.map] at returned
      | ok job =>
          have id : job.id = row.id := map_row_id read
          simp only [read, Except.map, Option.some.injEq] at returned
          rw [← returned, id, queued_eq, state_eq, if_pos rfl, if_pos rfl]
          exact ⟨inQueue, rfl, rfl⟩

theorem stays_unqueued (key : ForeignKey) {jobId : JobId} (move : QueueMove serde)
    (other : move.requeues jobId = false) (unqueued : tables.queued jobId = false) :
    (QueueMove.step key tables move).queued jobId = false := by
  cases move with
  | enqueue enqueued =>
      simp only [QueueMove.step, JobTables.enqueue]
      cases tables.jobs.find enqueued with
      | none => exact unqueued
      | some row =>
          have different : enqueued ≠ jobId := by simpa [QueueMove.requeues] using other
          simp [insert_into_queue_queued, unqueued, different.symm]
  | dequeue choice =>
      simp only [QueueMove.step, job_queue_dequeue_tables]
      cases claimed : tables.claim choice with
      | none => rwa [dequeue_none claimed]
      | some row =>
          obtain ⟨-, -, -, queued_eq⟩ := dequeue_some claimed
          rw [queued_eq, unqueued, ite_self]
  | save job =>
      have queued_eq := run_queued (.save job) tables jobId
      rw [unqueued, Bool.false_or] at queued_eq
      exact queued_eq.trans other
  | updateState updated newState => exact unqueued
  | delete deleted =>
      simp only [QueueMove.step]
      rcases delete_noop_or_gone tables key.onDelete deleted with same | gone
      · rwa [same]
      · rw [gone, gone_queued, unqueued, ite_self]
  | transaction moves =>
      have queued_eq := transaction_queued moves tables jobId
      rw [unqueued, Bool.false_or] at queued_eq
      exact queued_eq.trans other

theorem stays_unqueued_run (key : ForeignKey) {jobId : JobId} (moves : List (QueueMove serde))
    (others : ∀ move ∈ moves, move.requeues jobId = false)
    (unqueued : tables.queued jobId = false) :
    (moves.foldl (QueueMove.step key) tables).queued jobId = false := by
  apply List.foldlRecOn (motive := fun tables => tables.queued jobId = false) moves
    (QueueMove.step key) unqueued
  intro tables unqueued move member
  exact stays_unqueued key move (others move member) unqueued

end

/-- Only an `enqueue` or a save in state `Pending` lets a job be returned again. -/
theorem returned_once (key : ForeignKey) (moves : List (QueueMove serde)) :
    ReturnedOnce key moves := by
  intro earlier first middle second later _ jobId returnedFirst returnedSecond
  by_contra never
  have others : ∀ move ∈ middle, move.requeues jobId = false := by
    intro move member
    cases requeued : move.requeues jobId with
    | false => rfl
    | true => exact absurd ⟨move, member, requeued⟩ never
  have unqueued := stays_unqueued_run key middle others (returned_some returnedFirst).2.1
  have inQueue := (returned_some returnedSecond).1
  rw [List.foldl_append, List.foldl_cons] at inQueue
  exact absurd (unqueued.symm.trans inQueue) Bool.false_ne_true

/-! ## Whole runs -/

/-- A run keeps the contract of the queue exactly when no terminal job is enqueued and no
job becomes pending by its state alone. -/
theorem queue_contract_iff (serde : Serde) (key : ForeignKey) (moves : List (QueueMove serde)) :
    (Always (QueueMove.step key) PendingQueued .empty moves ∧ ReturnedOnce key moves ∧
      EachMove (QueueMove.step key) (KeepsTerminal key) .empty moves) ↔
      EachMove (QueueMove.step key) KeepsQueue .empty moves := by
  have untimed : Untimed .empty := fun row member => absurd member List.not_mem_nil
  have stranded : NoneStranded .empty := by
    intro jobId pending
    cases pending
  have exact_step : ∀ (tables : JobTables) (move : QueueMove serde), Untimed tables →
      PendingQueued tables →
        (KeepsQueue tables move ↔
          PendingQueued (QueueMove.step key tables move) ∧ KeepsTerminal key tables move) := by
    intro tables move held contract
    rw [pending_queued_iff (step_untimed key move held)]
    exact keeps_queue_iff key move ((pending_queued_iff held).mp contract)
  have runs := always_and_each_move_iff (QueueMove.step key) Untimed PendingQueued
    (fun tables move held => step_untimed key move held) exact_step moves .empty untimed
    ((pending_queued_iff untimed).mpr stranded)
  rw [← runs, and_iff_right (returned_once key moves)]

def cascading : ForeignKey where
  violation := "violates foreign key constraint"
  onDelete := .cascade

/-- A finished job is enqueued and runs again, and a job set to `Pending` by its state
alone is stranded. -/
theorem finished_job_is_requeued :
    ¬EachMove (QueueMove.step cascading) (KeepsTerminal cascading) .empty
        [QueueMove.save (plainJob () .succeeded), .enqueue ⟨1⟩] ∧
      ¬Always (QueueMove.step cascading) PendingQueued .empty
        [QueueMove.save (plainJob () .running), .updateState ⟨1⟩ .pending] := by
  constructor
  · intro each
    have kept := each.2.1 .succeeded rfl rfl
    have requeued : ((QueueMove.step cascading .empty (.save (plainJob () .succeeded))).enqueue
        cascading.violation ⟨1⟩).2.stateOf ⟨1⟩ = some "PENDING" := rfl
    rw [requeued] at kept
    exact absurd kept (by decide)
  · intro always
    have counted := (always.2.2 _ List.mem_cons_self rfl).1
    exact absurd counted (by decide)

end HodeiJobs.Persistence
