import HodeiJobs.Interface.LogStream
import HodeiJobs.Library.Runs
import HodeiJobs.Sagas.Types

/-!
# Batches of log entries

`LogBatcher` over any run of its calls. The buffer is taken before the message is sent, and what
becomes of the send is decided by the channel: the message is accepted, or it is dropped with the
entries in it.
-/

namespace HodeiJobs.WorkerAgent

open HodeiJobs.Interface.LogStream (LogEntry)
open HodeiJobs.Library
open HodeiJobs.Sagas (Duration)

structure LogBatch where
  jobId : String
  entries : List LogEntry
  deriving DecidableEq

/-- What becomes of a send, within the five seconds that it is given. -/
inductive SendOutcome where
  | accepted
  | closed
  | timedOut
  deriving DecidableEq

/-- The channel is given by the messages that it has accepted. -/
structure LogBatcher where
  tx : List LogBatch
  buffer : List LogEntry
  capacity : Nat
  flushInterval : Duration
  lastFlush : Nat

namespace LogBatcher

def new (capacity : Nat) (flushInterval : Duration) (now : Nat) : LogBatcher where
  tx := []
  buffer := []
  capacity := capacity
  flushInterval := flushInterval
  lastFlush := now

variable (batcher : LogBatcher) (outcome : SendOutcome) (now sentAt : Nat)

def flush : Bool × LogBatcher :=
  match batcher.buffer with
  | [] => (true, batcher)
  | first :: rest =>
      let taken := { batcher with buffer := [] }
      let batch : LogBatch := ⟨first.jobId, first :: rest⟩
      match outcome with
      | .accepted => (true, { taken with tx := batcher.tx ++ [batch], lastFlush := sentAt })
      | .closed | .timedOut => (false, taken)

def received (entry : LogEntry) : LogBatcher := { batcher with buffer := batcher.buffer ++ [entry] }

def push (entry : LogEntry) : LogBatcher :=
  let pushed := batcher.received entry
  if pushed.capacity ≤ pushed.buffer.length then (pushed.flush outcome sentAt).2 else pushed

/-- The interval since the last flush is over, by the clock. -/
def Due : Prop := batcher.flushInterval.nanos ≤ now - batcher.lastFlush ∧ batcher.buffer ≠ []

instance : Decidable (batcher.Due now) := inferInstanceAs (Decidable (_ ∧ _))

def flushIfNeeded : Bool × LogBatcher :=
  if batcher.Due now then batcher.flush outcome sentAt else (true, batcher)

def len : Nat := batcher.buffer.length

def isEmpty : Bool := batcher.buffer.isEmpty

end LogBatcher

/-! ## Runs -/

inductive BatcherCall where
  | push (entry : LogEntry)
  | flush
  | flushIfNeeded

/-- A call, what becomes of the message if it sends one, and the times at which the call is made
and the message is sent. -/
structure BatcherMove where
  call : BatcherCall
  outcome : SendOutcome
  now : Nat
  sentAt : Nat

/-- A batcher and the entries that have been pushed. -/
structure BatcherRun where
  batcher : LogBatcher
  pushed : List LogEntry

namespace BatcherRun

def start (capacity : Nat) (flushInterval : Duration) (now : Nat) : BatcherRun :=
  ⟨.new capacity flushInterval now, []⟩

variable (run : BatcherRun) (move : BatcherMove)

def step : BatcherRun :=
  match move.call with
  | .push entry => ⟨run.batcher.push move.outcome move.sentAt entry, run.pushed ++ [entry]⟩
  | .flush => { run with batcher := (run.batcher.flush move.outcome move.sentAt).2 }
  | .flushIfNeeded =>
      { run with batcher := (run.batcher.flushIfNeeded move.outcome move.now move.sentAt).2 }

/-- The batcher whose `flush` the call runs, if it runs it. -/
def flushed : Option LogBatcher :=
  match move.call with
  | .push entry =>
      let pushed := run.batcher.received entry
      if pushed.capacity ≤ pushed.buffer.length then some pushed else none
  | .flush => some run.batcher
  | .flushIfNeeded => if run.batcher.Due move.now then some run.batcher else none

/-- The accepted messages and the buffer hold the pushed entries, in their order. -/
def Conserves : Prop :=
  run.batcher.tx.flatMap LogBatch.entries ++ run.batcher.buffer = run.pushed

/-- A flush that returns false leaves the buffer as it was. -/
def FailsUnchanged : Prop :=
  ∀ batcher ∈ run.flushed move, (batcher.flush move.outcome move.sentAt).1 = false →
    (batcher.flush move.outcome move.sentAt).2.buffer = batcher.buffer

/-- A message that the call sends is accepted. -/
def Accepted : Prop :=
  ∀ batcher ∈ run.flushed move, batcher.buffer ≠ [] → move.outcome = .accepted

end BatcherRun

/-! ## One flush -/

namespace LogBatcher

variable {batcher : LogBatcher} {outcome : SendOutcome} {sentAt : Nat}

def entries (batcher : LogBatcher) : List LogEntry :=
  batcher.tx.flatMap LogBatch.entries ++ batcher.buffer

@[simp]
theorem entries_received (entry : LogEntry) :
    (batcher.received entry).entries = batcher.entries ++ [entry] := by
  unfold entries received
  rw [List.append_assoc]

theorem flush_nothing (nothing : batcher.buffer = []) :
    batcher.flush outcome sentAt = (true, batcher) := by
  unfold flush
  rw [nothing]

theorem flush_accepted :
    (batcher.flush .accepted sentAt).1 = true ∧
      (batcher.flush .accepted sentAt).2.entries = batcher.entries := by
  unfold flush
  cases isBuffer : batcher.buffer with
  | nil => exact ⟨rfl, rfl⟩
  | cons first rest =>
      refine ⟨rfl, ?_⟩
      simp [entries, isBuffer]

/-- The entries of a message that is not accepted are gone. -/
theorem flush_not_accepted (some : batcher.buffer ≠ []) (refused : outcome ≠ .accepted) :
    (batcher.flush outcome sentAt).1 = false ∧ (batcher.flush outcome sentAt).2.buffer = [] ∧
      (batcher.flush outcome sentAt).2.entries = batcher.tx.flatMap LogBatch.entries := by
  unfold flush
  cases isBuffer : batcher.buffer with
  | nil => exact absurd isBuffer some
  | cons first rest =>
      cases outcome with
      | accepted => exact absurd rfl refused
      | closed => exact ⟨rfl, rfl, List.append_nil _⟩
      | timedOut => exact ⟨rfl, rfl, List.append_nil _⟩

/-- A flush keeps its entries exactly if it has none to send or the message is accepted. -/
theorem flush_keeps_iff :
    (batcher.flush outcome sentAt).2.entries = batcher.entries ↔
      (batcher.buffer ≠ [] → outcome = .accepted) := by
  by_cases nothing : batcher.buffer = []
  · apply iff_of_true
    · rw [flush_nothing nothing]
    · intro some
      exact absurd nothing some
  · by_cases accepts : outcome = .accepted
    · subst accepts
      exact iff_of_true flush_accepted.2 (fun _ => rfl)
    · apply iff_of_false
      · intro kept
        rw [(flush_not_accepted nothing accepts).2.2, entries] at kept
        exact nothing (List.self_eq_append_right.mp kept)
      · intro must
        exact accepts (must nothing)

theorem flush_empties (accepts : batcher.buffer ≠ [] → outcome = .accepted) :
    (batcher.flush outcome sentAt).2.buffer = [] := by
  unfold flush
  cases isBuffer : batcher.buffer with
  | nil => exact isBuffer
  | cons first rest =>
      rw [accepts (by rw [isBuffer]; exact List.cons_ne_nil first rest)]

theorem flush_fails_unchanged (accepts : batcher.buffer ≠ [] → outcome = .accepted)
    (fails : (batcher.flush outcome sentAt).1 = false) :
    (batcher.flush outcome sentAt).2.buffer = batcher.buffer := by
  by_cases nothing : batcher.buffer = []
  · rw [flush_nothing nothing]
  · rw [accepts nothing, flush_accepted.1] at fails
    cases fails

end LogBatcher

/-! ## One call -/

namespace BatcherRun

variable {run : BatcherRun} {move : BatcherMove}

def recorded (run : BatcherRun) (move : BatcherMove) : List LogEntry :=
  match move.call with
  | .push entry => run.batcher.entries ++ [entry]
  | .flush | .flushIfNeeded => run.batcher.entries

/-- A call records the entry that is pushed, if it pushes one, and keeps the others exactly if
the flush that it runs does. -/
theorem step_entries_iff :
    (run.step move).batcher.entries = run.recorded move ↔ run.Accepted move := by
  obtain ⟨call, outcome, now, sentAt⟩ := move
  cases call with
  | push entry =>
      by_cases full : (run.batcher.received entry).capacity ≤
          (run.batcher.received entry).buffer.length
      · simp only [step, LogBatcher.push, recorded, Accepted, flushed, if_pos full,
          Option.mem_def, Option.some.injEq, forall_eq', ← LogBatcher.entries_received]
        exact LogBatcher.flush_keeps_iff
      · simp [step, LogBatcher.push, recorded, Accepted, flushed, if_neg full]
  | flush =>
      simp only [step, recorded, Accepted, flushed, Option.mem_def, Option.some.injEq, forall_eq']
      exact LogBatcher.flush_keeps_iff
  | flushIfNeeded =>
      by_cases due : run.batcher.Due now
      · simp only [step, LogBatcher.flushIfNeeded, recorded, Accepted, flushed, if_pos due,
          Option.mem_def, Option.some.injEq, forall_eq']
        exact LogBatcher.flush_keeps_iff
      · simp [step, LogBatcher.flushIfNeeded, recorded, Accepted, flushed, if_neg due]

theorem recorded_eq_pushed (conserves : run.Conserves) :
    run.recorded move = (run.step move).pushed := by
  obtain ⟨call, outcome, now, sentAt⟩ := move
  cases call with
  | push entry => exact congrArg (· ++ [entry]) conserves
  | flush => exact conserves
  | flushIfNeeded => exact conserves

theorem accepted_iff (conserves : run.Conserves) :
    run.Accepted move ↔ (run.step move).Conserves ∧ run.FailsUnchanged move := by
  have kept := @step_entries_iff run move
  rw [recorded_eq_pushed conserves] at kept
  constructor
  · intro accepted
    refine ⟨kept.mpr accepted, ?_⟩
    intro batcher isFlushed
    exact LogBatcher.flush_fails_unchanged (accepted batcher isFlushed)
  · intro both
    exact kept.mp both.1

/-! ## Runs -/

/-- In a run, no entry is lost, sent twice or moved and no failed flush changes the buffer exactly
if each message that is sent is accepted. -/
theorem conserves_iff_accepted (capacity : Nat) (flushInterval : Duration) (now : Nat)
    (moves : List BatcherMove) :
    (Always step Conserves (start capacity flushInterval now) moves ∧
        EachMove step FailsUnchanged (start capacity flushInterval now) moves) ↔
      EachMove step Accepted (start capacity flushInterval now) moves :=
  always_and_each_move_iff_within step Conserves Conserves (fun _ conserves => conserves)
    (fun _ _ conserves accepted => ((accepted_iff conserves).mp accepted).1)
    (fun _ _ conserves => accepted_iff conserves) moves _ rfl

/-- With the last flush of `stream_command_output`, nothing is left in the buffer. -/
theorem last_flush_sends_all (capacity : Nat) (flushInterval : Duration) (now : Nat)
    (moves : List BatcherMove) (last : BatcherMove) (flushes : last.call = .flush)
    (accepted : EachMove step Accepted (start capacity flushInterval now) (moves ++ [last])) :
    ((moves ++ [last]).foldl step
        (start capacity flushInterval now)).batcher.tx.flatMap LogBatch.entries =
      ((moves ++ [last]).foldl step (start capacity flushInterval now)).pushed := by
  have always := ((conserves_iff_accepted capacity flushInterval now (moves ++ [last])).mpr
    accepted).1
  have conserves := always_final step (moves ++ [last]) _ always
  have lastAccepted := (each_move_iff_initial step Accepted (moves ++ [last]) _).mp accepted
    moves last [] rfl
  rw [List.foldl_append] at conserves ⊢
  generalize moves.foldl step (start capacity flushInterval now) = before at *
  have isFlushed : before.flushed last = some before.batcher := by
    rw [flushed, flushes]
  have isEmpty : (step before last).batcher.buffer = [] := by
    rw [step, flushes]
    exact LogBatcher.flush_empties (lastAccepted _ isFlushed)
  exact (List.append_nil _).symm.trans ((congrArg _ isEmpty.symm).trans conserves)

/-- A line below the capacity, and the last flush. -/
theorem last_line_sent :
    (([⟨.push ⟨"job", "line", false, none⟩, .closed, 0, 0⟩, ⟨.flush, .accepted, 1, 1⟩] :
      List BatcherMove).foldl step (start 2 (.fromSecs 1) 0)).batcher.tx.flatMap
        LogBatch.entries = [⟨"job", "line", false, none⟩] :=
  last_flush_sends_all 2 (.fromSecs 1) 0 [⟨.push ⟨"job", "line", false, none⟩, .closed, 0, 0⟩]
    ⟨.flush, .accepted, 1, 1⟩ rfl ⟨nofun, fun _ _ _ => rfl, trivial⟩

/-- An entry whose message finds the channel closed. -/
theorem entry_of_closed_channel_lost :
    ¬(Always step Conserves (start 1 (.fromSecs 1) 0)
        [⟨.push ⟨"job", "line", false, none⟩, .closed, 0, 0⟩] ∧
      EachMove step FailsUnchanged (start 1 (.fromSecs 1) 0)
        [⟨.push ⟨"job", "line", false, none⟩, .closed, 0, 0⟩]) := by
  intro both
  have conserves : ([] : List LogEntry) = [⟨"job", "line", false, none⟩] := both.1.2
  cases conserves

end BatcherRun

end HodeiJobs.WorkerAgent
