import Mathlib.Data.List.MinMax
import HodeiJobs.Execution.Repositories
import HodeiJobs.Library.Measure
import HodeiJobs.Library.Runs

/-!
# The global log buffer

`GlobalLogBuffer` and the `LogBuffer` of each job, called one after the other. What is
buffered is in memory, so no sum of sizes overflows. The total is an integer: an underflow of
it would show as a negative number.
-/

namespace HodeiJobs.Logging

open HodeiJobs.Execution (JobId)
open HodeiJobs.Library
open HodeiJobs.Sagas (DateTime)

structure LogEntry where
  jobId : JobId
  line : String
  isStderr : Bool
  timestamp : DateTime
  sequence : UInt64

def LogEntry.sizeBytes (entry : LogEntry) : Nat := 16 + entry.line.utf8ByteSize + 64

/-! ## The buffer of a job -/

/-- The last access is in seconds. -/
structure LogBuffer where
  jobId : JobId
  entries : List LogEntry
  bytesCount : Nat
  lastAccess : UInt64

namespace LogBuffer

def new (jobId : JobId) (now : UInt64) : LogBuffer := ⟨jobId, [], 0, now⟩

def push (buffer : LogBuffer) (entry : LogEntry) (now : UInt64) : LogBuffer :=
  { buffer with
    entries := buffer.entries ++ [entry]
    bytesCount := buffer.bytesCount + entry.sizeBytes
    lastAccess := now }

def getLogs (buffer : LogBuffer) (limit : Option Nat) (now : UInt64) :
    LogBuffer × List LogEntry :=
  ({ buffer with lastAccess := now },
    match limit with
    | some limit => (buffer.entries.reverse.take limit).reverse
    | none => buffer.entries)

/-- It persists nothing yet. -/
def flushToPersister (buffer : LogBuffer) : Nat := buffer.bytesCount

/-- The sizes of the entries. -/
def storedBytes (buffer : LogBuffer) : Nat := (buffer.entries.map LogEntry.sizeBytes).sum

end LogBuffer

/-! ## The buffers of all jobs -/

structure GlobalLogBuffer where
  maxBytes : UInt64
  totalBytes : Int
  buffers : Table LogBuffer.jobId

inductive GlobalLogBufferError where
  | backpressureTimeout
  deriving DecidableEq

/-- The order in which the map yields its entries. -/
structure MapOrder where
  ordered : List LogBuffer → List LogBuffer
  perm : ∀ rows, List.Perm (ordered rows) rows

/-- How the eviction of one buffer ends. The time limit can end it where it awaits the
buffer's entries; the removal may block, since the item of the iteration holds its shard. -/
inductive EvictionOutcome where
  | completes
  | timesOut
  | blocks
  deriving DecidableEq

structure Eviction extends MapOrder where
  outcome : EvictionOutcome

namespace GlobalLogBuffer

def new (maxBytes : UInt64) : GlobalLogBuffer := ⟨maxBytes, 0, ⟨[], List.nodup_nil⟩⟩

/-- The first buffer with the least last access. -/
def oldest (log : GlobalLogBuffer) (order : MapOrder) : Option LogBuffer :=
  (order.ordered log.buffers.rows).argmin fun buffer => buffer.lastAccess.toNat

/-- A buffer is flushed and removed. -/
def flushed (log : GlobalLogBuffer) (buffer : LogBuffer) : GlobalLogBuffer :=
  { log with
    totalBytes := log.totalBytes - buffer.flushToPersister
    buffers := log.buffers.delete buffer.jobId }

theorem find_oldest {log : GlobalLogBuffer} {order : MapOrder} {buffer : LogBuffer}
    (isOldest : log.oldest order = some buffer) :
    log.buffers.find buffer.jobId = some buffer := by
  apply Table.find_of_mem
  have listed := List.argmin_mem (Option.mem_def.mpr isOldest)
  exact (order.perm log.buffers.rows).mem_iff.mp listed

/-- The loop of `handle_backpressure`. -/
def evictWhile (requiredSize : Nat) (targetSize : Int) (log : GlobalLogBuffer)
    (evictedBytes : Int) (evictions : Nat → Eviction) : GlobalLogBuffer × EvictionOutcome :=
  if log.maxBytes.toNat < log.totalBytes + requiredSize ∧ evictedBytes < targetSize then
    match found : log.oldest (evictions 0).toMapOrder with
    | some buffer =>
        match (evictions 0).outcome with
        | .completes =>
            have : (log.buffers.delete buffer.jobId).rows.length < log.buffers.rows.length := by
              have fewer := Table.length_delete (find_oldest found)
              omega
            evictWhile requiredSize targetSize (log.flushed buffer)
              (evictedBytes + buffer.flushToPersister) fun iteration => evictions (iteration + 1)
        | .timesOut => (log, .timesOut)
        | .blocks => (log, .blocks)
    | none => (log, .completes)
  else (log, .completes)
termination_by log.buffers.rows.length

def handleBackpressure (log : GlobalLogBuffer) (requiredSize : Nat)
    (evictions : Nat → Eviction) : GlobalLogBuffer × EvictionOutcome :=
  evictWhile requiredSize (log.totalBytes + requiredSize) log 0 evictions

/-- The first step of `push`. -/
def makeRoom (log : GlobalLogBuffer) (entrySize : Nat) (evictions : Nat → Eviction) :
    GlobalLogBuffer × EvictionOutcome :=
  if log.maxBytes.toNat < log.totalBytes + entrySize then
    log.handleBackpressure entrySize evictions
  else (log, .completes)

/-- The last step of `push`. -/
def stored (log : GlobalLogBuffer) (jobId : JobId) (entry : LogEntry) (now : UInt64) :
    GlobalLogBuffer :=
  let buffer := (log.buffers.find jobId).getD (.new jobId now)
  { log with
    buffers := log.buffers.upsert (buffer.push entry now)
    totalBytes := log.totalBytes + entry.sizeBytes }

/-- The call does not return when an eviction blocks. -/
def push (log : GlobalLogBuffer) (jobId : JobId) (entry : LogEntry) (evictions : Nat → Eviction)
    (now : UInt64) : GlobalLogBuffer × Option (Except GlobalLogBufferError Unit) :=
  match log.makeRoom entry.sizeBytes evictions with
  | (log, .timesOut) => (log, some (.error .backpressureTimeout))
  | (log, .blocks) => (log, none)
  | (log, .completes) => (log.stored jobId entry now, some (.ok ()))

def getLogs (log : GlobalLogBuffer) (jobId : JobId) (limit : Option Nat) (now : UInt64) :
    GlobalLogBuffer × List LogEntry :=
  match log.buffers.find jobId with
  | some buffer =>
      let (buffer, logs) := buffer.getLogs limit now
      ({ log with buffers := log.buffers.upsert buffer }, logs)
  | none => (log, [])

def clearLogs (log : GlobalLogBuffer) (jobId : JobId) : GlobalLogBuffer × Nat :=
  match log.buffers.find jobId with
  | some buffer =>
      ({ log with
          totalBytes := log.totalBytes - buffer.bytesCount
          buffers := log.buffers.delete jobId }, buffer.bytesCount)
  | none => (log, 0)

/-- One iteration of `flush_all`, with what was flushed before it. -/
def flushJob (state : GlobalLogBuffer × Nat) (jobId : JobId) : GlobalLogBuffer × Nat :=
  match state.1.buffers.find jobId with
  | some buffer => (state.1.flushed buffer, state.2 + buffer.flushToPersister)
  | none => state

def flushAll (log : GlobalLogBuffer) (order : MapOrder) : GlobalLogBuffer × Nat :=
  ((order.ordered log.buffers.rows).map LogBuffer.jobId).foldl flushJob (log, 0)

/-! ## The account -/

/-- The total is the sum of the sizes of all stored entries. -/
def TotalsAgree (log : GlobalLogBuffer) : Prop :=
  log.totalBytes = log.buffers.total LogBuffer.storedBytes

/-- The buffers count what they store, too. -/
structure Accounted (log : GlobalLogBuffer) : Prop where
  agree : log.TotalsAgree
  counted : ∀ buffer ∈ log.buffers.rows, buffer.bytesCount = buffer.storedBytes

variable {log : GlobalLogBuffer}

theorem total_nonneg (accounted : log.Accounted) : 0 ≤ log.totalBytes := by
  rw [accounted.agree]
  exact Int.natCast_nonneg _

theorem accounted_flushed (accounted : log.Accounted) {buffer : LogBuffer}
    (found : log.buffers.find buffer.jobId = some buffer) : (log.flushed buffer).Accounted := by
  have counted := accounted.counted buffer (List.mem_of_find?_eq_some found)
  have removed := Table.total_delete LogBuffer.storedBytes found
  have agree := accounted.agree
  constructor
  · unfold TotalsAgree flushed LogBuffer.flushToPersister at *
    dsimp only
    omega
  · intro other isOther
    exact accounted.counted other (List.mem_filter.mp isOther).1

/-- What happens to a buffer of the map, or to a new one. -/
theorem accounted_upsert (accounted : log.Accounted) {buffer : LogBuffer} {added : Nat}
    (counted : buffer.bytesCount = buffer.storedBytes)
    (grows : buffer.storedBytes =
      ((log.buffers.find buffer.jobId).map LogBuffer.storedBytes).getD 0 + added) :
    Accounted { log with
      buffers := log.buffers.upsert buffer
      totalBytes := log.totalBytes + added } := by
  have stored := Table.total_upsert log.buffers LogBuffer.storedBytes buffer
  have agree := accounted.agree
  constructor
  · unfold TotalsAgree at *
    dsimp only
    omega
  · intro other isOther
    rcases Table.mem_upsert isOther with own | kept
    · rw [own, counted]
    · exact accounted.counted other kept

/-! ## The eviction -/

section

variable {requiredSize : Nat} {targetSize evictedBytes : Int} {evictions : Nat → Eviction}

theorem accounted_evict_while (accounted : log.Accounted) :
    (evictWhile requiredSize targetSize log evictedBytes evictions).1.Accounted ∧
      (evictWhile requiredSize targetSize log evictedBytes evictions).1.maxBytes =
        log.maxBytes := by
  fun_induction evictWhile requiredSize targetSize log evictedBytes evictions with
  | case1 log evictedBytes evictions continues buffer found outcome fewer ih =>
      exact ih (accounted_flushed accounted (find_oldest found))
  | _ => exact ⟨accounted, rfl⟩

theorem oldest_none (log : GlobalLogBuffer) (order : MapOrder) :
    log.oldest order = none ↔ log.buffers.rows = [] := by
  have perm := order.perm log.buffers.rows
  rw [oldest, List.argmin_eq_none, ← List.perm_nil, ← List.perm_nil]
  exact ⟨fun empty => perm.symm.trans empty, fun empty => perm.trans empty⟩

theorem total_of_empty (accounted : log.Accounted) (empty : log.buffers.rows = []) :
    log.totalBytes = 0 := by
  rw [accounted.agree, Table.total, empty]
  rfl

/-- The limit on the evicted bytes never stops the loop: what was evicted was part of the
total that the target adds to. -/
theorem room_after_evict_while (accounted : log.Accounted)
    (below : evictedBytes + log.totalBytes < targetSize)
    (completes : (evictWhile requiredSize targetSize log evictedBytes evictions).2 = .completes) :
    let evicted := (evictWhile requiredSize targetSize log evictedBytes evictions).1
    evicted.totalBytes + requiredSize ≤ log.maxBytes.toNat ∨ evicted.totalBytes = 0 := by
  fun_induction evictWhile requiredSize targetSize log evictedBytes evictions with
  | case1 log evictedBytes evictions continues buffer found outcome fewer ih =>
      apply ih (accounted_flushed accounted (find_oldest found)) _ completes
      unfold flushed
      dsimp only
      omega
  | case2 | case3 => simp at completes
  | case4 log evictedBytes evictions continues found =>
      exact .inr (total_of_empty accounted ((oldest_none log _).mp found))
  | case5 log evictedBytes evictions stops =>
      have nonneg := total_nonneg accounted
      left
      dsimp only
      omega

/-- For more than the limit the loop goes on until every buffer is evicted. -/
theorem evict_while_completes_iff (accounted : log.Accounted)
    (below : evictedBytes + log.totalBytes < targetSize)
    (large : log.maxBytes.toNat < requiredSize) :
    (evictWhile requiredSize targetSize log evictedBytes evictions).2 = .completes ↔
      ∀ iteration < log.buffers.rows.length, (evictions iteration).outcome = .completes := by
  fun_induction evictWhile requiredSize targetSize log evictedBytes evictions with
  | case1 log evictedBytes evictions continues buffer found outcome fewer ih =>
      have length := Table.length_delete (find_oldest found)
      have next : (log.flushed buffer).buffers.rows.length + 1 = log.buffers.rows.length := length
      rw [ih (accounted_flushed accounted (find_oldest found)) _ large, ← next]
      · constructor
        · intro later iteration inside
          cases iteration with
          | zero => exact outcome
          | succ iteration => exact later iteration (by omega)
        · intro all iteration inside
          exact all (iteration + 1) (by omega)
      · unfold flushed
        dsimp only
        omega
  | case2 log evictedBytes evictions continues buffer found outcome
  | case3 log evictedBytes evictions continues buffer found outcome =>
      have stored := List.mem_of_find?_eq_some (find_oldest found)
      apply iff_of_false (by simp)
      intro all
      have first := all 0 (List.length_pos_of_mem stored)
      rw [outcome] at first
      cases first
  | case4 log evictedBytes evictions continues found =>
      have empty := (oldest_none log _).mp found
      simp [empty]
  | case5 log evictedBytes evictions stops =>
      have nonneg := total_nonneg accounted
      omega

theorem accounted_make_room (accounted : log.Accounted) (requiredSize : Nat)
    (evictions : Nat → Eviction) :
    (log.makeRoom requiredSize evictions).1.Accounted ∧
      (log.makeRoom requiredSize evictions).1.maxBytes = log.maxBytes := by
  unfold makeRoom handleBackpressure
  split_ifs
  · exact accounted_evict_while accounted
  · exact ⟨accounted, rfl⟩

theorem room_after_make_room (accounted : log.Accounted) (positive : 0 < requiredSize)
    (fits : requiredSize ≤ log.maxBytes.toNat)
    (completes : (log.makeRoom requiredSize evictions).2 = .completes) :
    (log.makeRoom requiredSize evictions).1.totalBytes + requiredSize ≤ log.maxBytes.toNat := by
  unfold makeRoom handleBackpressure at *
  split_ifs at * with full
  · have room := room_after_evict_while accounted (by omega) completes
    dsimp only at room
    omega
  · dsimp only
    omega

theorem make_room_completes_iff (accounted : log.Accounted) (evictions : Nat → Eviction)
    (large : log.maxBytes.toNat < requiredSize) :
    (log.makeRoom requiredSize evictions).2 = .completes ↔
      ∀ iteration < log.buffers.rows.length, (evictions iteration).outcome = .completes := by
  have nonneg := total_nonneg accounted
  rw [makeRoom, if_pos (by omega)]
  exact evict_while_completes_iff accounted (by omega) large

end

/-! ## The calls -/

section

variable {jobId : JobId} {entry : LogEntry} {evictions : Nat → Eviction} {now : UInt64}

theorem size_pos (entry : LogEntry) : 0 < entry.sizeBytes := by
  unfold LogEntry.sizeBytes
  omega

/-- The buffer to which an entry is added. -/
theorem found_or_new (accounted : log.Accounted) (jobId : JobId) (now : UInt64) :
    let buffer := (log.buffers.find jobId).getD (.new jobId now)
    buffer.jobId = jobId ∧ buffer.bytesCount = buffer.storedBytes ∧
      buffer.storedBytes = ((log.buffers.find jobId).map LogBuffer.storedBytes).getD 0 := by
  cases found : log.buffers.find jobId with
  | none => simp [LogBuffer.new, LogBuffer.storedBytes]
  | some buffer =>
      have counted := accounted.counted buffer (List.mem_of_find?_eq_some found)
      exact ⟨Table.find_some_key found, counted, rfl⟩

theorem accounted_stored (accounted : log.Accounted) :
    (log.stored jobId entry now).Accounted := by
  obtain ⟨isKey, counted, stored⟩ := found_or_new accounted jobId now
  apply accounted_upsert accounted
  · simp [LogBuffer.push, counted, LogBuffer.storedBytes]
  · simp only [LogBuffer.push, LogBuffer.storedBytes, List.map_append, List.sum_append,
      List.map_singleton, List.sum_singleton, isKey] at stored ⊢
    rw [stored]

theorem accounted_push (accounted : log.Accounted) :
    (log.push jobId entry evictions now).1.Accounted ∧
      (log.push jobId entry evictions now).1.maxBytes = log.maxBytes := by
  have within := accounted_make_room accounted entry.sizeBytes evictions
  unfold push
  generalize log.makeRoom entry.sizeBytes evictions = made at *
  obtain ⟨room, outcome⟩ := made
  cases outcome with
  | timesOut | blocks => exact within
  | completes => exact ⟨accounted_stored within.1, within.2⟩

theorem push_ok (answer : (log.push jobId entry evictions now).2 = some (.ok ())) :
    (log.makeRoom entry.sizeBytes evictions).2 = .completes ∧
      (log.push jobId entry evictions now).1.totalBytes =
        (log.makeRoom entry.sizeBytes evictions).1.totalBytes + entry.sizeBytes := by
  unfold push at *
  generalize log.makeRoom entry.sizeBytes evictions = made at *
  obtain ⟨room, outcome⟩ := made
  cases outcome with
  | timesOut | blocks => simp at answer
  | completes => simp [stored]

theorem ok_of_completes
    (completes : (log.makeRoom entry.sizeBytes evictions).2 = .completes) :
    (log.push jobId entry evictions now).2 = some (.ok ()) := by
  unfold push
  generalize log.makeRoom entry.sizeBytes evictions = made at *
  obtain ⟨room, outcome⟩ := made
  cases completes
  rfl

/-- The limit survives a push unless its entry alone is larger and every buffer is evicted
for it. -/
theorem push_within_limit_iff (accounted : log.Accounted) :
    ((log.push jobId entry evictions now).2 = some (.ok ()) →
        (log.push jobId entry evictions now).1.totalBytes ≤ log.maxBytes.toNat) ↔
      entry.sizeBytes ≤ log.maxBytes.toNat ∨
        ∃ iteration < log.buffers.rows.length, (evictions iteration).outcome ≠ .completes := by
  have positive := size_pos entry
  by_cases fits : entry.sizeBytes ≤ log.maxBytes.toNat
  · apply iff_of_true _ (.inl fits)
    intro answer
    obtain ⟨completes, total⟩ := push_ok answer
    rw [total]
    exact room_after_make_room accounted positive fits completes
  · have completes := make_room_completes_iff accounted evictions (not_le.mp fits)
    constructor
    · intro within
      right
      by_contra! all
      have answer : (log.push jobId entry evictions now).2 = some (.ok ()) :=
        ok_of_completes (completes.mpr all)
      have total := (push_ok answer).2
      have made := accounted_make_room accounted entry.sizeBytes evictions
      have nonneg := total_nonneg made.1
      have limit := within answer
      omega
    · intro stopped answer
      obtain ⟨iteration, inside, fails⟩ := stopped.resolve_left fits
      exact absurd (completes.mp (push_ok answer).1 iteration inside) fails

theorem accounted_get_logs (accounted : log.Accounted) (limit : Option Nat) :
    (log.getLogs jobId limit now).1.Accounted ∧
      (log.getLogs jobId limit now).1.maxBytes = log.maxBytes := by
  unfold getLogs
  cases found : log.buffers.find jobId with
  | none => exact ⟨accounted, rfl⟩
  | some buffer =>
      have isKey := Table.find_some_key found
      have counted := accounted.counted buffer (List.mem_of_find?_eq_some found)
      have read : (buffer.getLogs limit now).1.bytesCount =
          (buffer.getLogs limit now).1.storedBytes := counted
      have kept : (buffer.getLogs limit now).1.storedBytes =
          ((log.buffers.find (buffer.getLogs limit now).1.jobId).map
            LogBuffer.storedBytes).getD 0 + 0 := by
        simp [LogBuffer.getLogs, isKey, found, LogBuffer.storedBytes]
      simpa using accounted_upsert accounted read kept

theorem accounted_clear_logs (accounted : log.Accounted) :
    (log.clearLogs jobId).1.Accounted ∧ (log.clearLogs jobId).1.maxBytes = log.maxBytes := by
  unfold clearLogs
  cases found : log.buffers.find jobId with
  | none => exact ⟨accounted, rfl⟩
  | some buffer =>
      have isKey := Table.find_some_key found
      subst isKey
      exact ⟨accounted_flushed accounted found, rfl⟩

theorem accounted_flush_all (accounted : log.Accounted) (order : MapOrder) :
    (log.flushAll order).1.Accounted ∧ (log.flushAll order).1.maxBytes = log.maxBytes := by
  unfold flushAll
  generalize (order.ordered log.buffers.rows).map LogBuffer.jobId = jobIds
  generalize 0 = before
  induction jobIds generalizing log before with
  | nil => exact ⟨accounted, rfl⟩
  | cons jobId rest ih =>
      rw [List.foldl_cons]
      unfold flushJob
      dsimp only
      cases found : log.buffers.find jobId with
      | none => exact ih accounted before
      | some buffer =>
          have isKey := Table.find_some_key found
          subst isKey
          exact ih (accounted_flushed accounted found) _

end

end GlobalLogBuffer

/-! ## Runs -/

inductive LogMove where
  | push (jobId : JobId) (entry : LogEntry) (evictions : Nat → Eviction) (now : UInt64)
  | getLogs (jobId : JobId) (limit : Option Nat) (now : UInt64)
  | clearLogs (jobId : JobId)
  | flushAll (order : MapOrder)

/-- The buffer, and whether every call has returned. -/
structure LogRun where
  log : GlobalLogBuffer
  returned : Bool

namespace LogRun

def start (maxBytes : UInt64) : LogRun := ⟨.new maxBytes, true⟩

def step (run : LogRun) (move : LogMove) : LogRun :=
  if run.returned then
    match move with
    | .push jobId entry evictions now =>
        let (log, answer) := run.log.push jobId entry evictions now
        ⟨log, answer.isSome⟩
    | .getLogs jobId limit now => { run with log := (run.log.getLogs jobId limit now).1 }
    | .clearLogs jobId => { run with log := (run.log.clearLogs jobId).1 }
    | .flushAll order => { run with log := (run.log.flushAll order).1 }
  else run

/-- The total is within the limit after a push that returns `Ok`. -/
def KeepsLimit (run : LogRun) : LogMove → Prop
  | .push jobId entry evictions now =>
      run.returned = true →
        (run.log.push jobId entry evictions now).2 = some (.ok ()) →
          (run.log.push jobId entry evictions now).1.totalBytes ≤ run.log.maxBytes.toNat
  | .getLogs _ _ _ | .clearLogs _ | .flushAll _ => True

/-- The entry fits into an empty buffer, or not all buffers can be evicted for it. -/
def Fits (run : LogRun) : LogMove → Prop
  | .push _ entry evictions _ =>
      run.returned = true →
        entry.sizeBytes ≤ run.log.maxBytes.toNat ∨
          ∃ iteration < run.log.buffers.rows.length,
            (evictions iteration).outcome ≠ .completes
  | .getLogs _ _ _ | .clearLogs _ | .flushAll _ => True

variable {run : LogRun}

theorem accounted_step (accounted : run.log.Accounted) (move : LogMove) :
    (run.step move).log.Accounted := by
  unfold step
  split_ifs
  · cases move with
    | push jobId entry evictions now => exact (GlobalLogBuffer.accounted_push accounted).1
    | getLogs jobId limit now => exact (GlobalLogBuffer.accounted_get_logs accounted limit).1
    | clearLogs jobId => exact (GlobalLogBuffer.accounted_clear_logs accounted).1
    | flushAll order => exact (GlobalLogBuffer.accounted_flush_all accounted order).1
  · exact accounted

theorem accounted_start (maxBytes : UInt64) : (start maxBytes).log.Accounted := by
  constructor
  · rfl
  · intro buffer member
    cases member

theorem fits_iff (accounted : run.log.Accounted) (move : LogMove) :
    run.Fits move ↔ run.KeepsLimit move := by
  cases move with
  | push jobId entry evictions now =>
      exact forall_congr' fun _ => (GlobalLogBuffer.push_within_limit_iff accounted).symm
  | _ => exact Iff.rfl

/-- The total is always the sum of the stored sizes, and within the limit after each
successful push, exactly in the runs that never evict everything for an entry which alone is
larger than the limit. -/
theorem total_within_limit_iff_entries_fit (maxBytes : UInt64) (moves : List LogMove) :
    (Always step (fun run => run.log.TotalsAgree) (start maxBytes) moves ∧
      EachMove step KeepsLimit (start maxBytes) moves) ↔
      EachMove step Fits (start maxBytes) moves := by
  apply always_and_each_move_iff step fun run => run.log.Accounted
  · intro run move accounted
    exact accounted_step accounted move
  · intro run move accounted _
    rw [fits_iff accounted]
    exact (and_iff_right (accounted_step accounted move).agree).symm
  · exact accounted_start maxBytes
  · rfl

/-- Every eviction completes. -/
def evictsInOrder (_ : Nat) : Eviction := ⟨⟨id, List.Perm.refl⟩, .completes⟩

def shortLine : LogEntry := ⟨⟨1⟩, "done", false, 0, 0⟩

theorem entry_above_the_limit_is_stored :
    ¬EachMove step KeepsLimit (start 50) [.push ⟨1⟩ shortLine evictsInOrder 0] := by
  intro each
  have accounted := accounted_start 50
  have fits := (fits_iff accounted _).mpr each.1 rfl
  have size : shortLine.sizeBytes = 84 := by decide
  rw [size] at fits
  simp [start, GlobalLogBuffer.new] at fits

end LogRun

end HodeiJobs.Logging
