import Mathlib.Data.List.MinMax
import HodeiJobs.Library.Measure

/-!
# The log buffer of the gRPC layer

`GlobalLogBuffer` with the `LogBuffer` of each job, called one after the other. The
arithmetic on `u64` wraps, as it does in a release build. What is sent to the persister
and counted in the metrics is not read again and is left out.
-/

namespace HodeiJobs.Interface

open HodeiJobs.Library

structure GlobalLogBufferConfig where
  maxBytes : UInt64 := 1073741824
  maxEntriesPerJob : Nat := 1000
  evictionThresholdPercent : UInt8 := 80

structure LogBufferEntry where
  line : String
  isStderr : Bool
  timestamp : Option Int64
  sequence : UInt64
  sizeBytes : UInt64

def LogBufferEntry.new (line : String) (isStderr : Bool) (timestamp : Option Int64)
    (sequence : UInt64) : LogBufferEntry :=
  ⟨line, isStderr, timestamp, sequence, line.utf8ByteSize.toUInt64 + 1⟩

/-! ## The buffer of a job -/

/-- The last access is what `now_millis` returned: how long ago the call of it began. -/
structure LogBuffer where
  jobId : String
  entries : List LogBufferEntry
  bytesCount : UInt64
  lastAccess : UInt64

namespace LogBuffer

def new (jobId : String) (nowMillis : UInt64) : LogBuffer := ⟨jobId, [], 0, nowMillis⟩

/-- "Remove oldest if at capacity". -/
def dropOldest (buffer : LogBuffer) (maxEntries : Nat) : LogBuffer :=
  if maxEntries ≤ buffer.entries.length then
    match buffer.entries with
    | oldest :: rest =>
        { buffer with
          entries := rest
          bytesCount := buffer.bytesCount - oldest.sizeBytes }
    | [] => buffer
  else buffer

def push (buffer : LogBuffer) (entry : LogBufferEntry) (maxEntries : Nat) (nowMillis : UInt64) :
    LogBuffer :=
  let kept := { buffer with lastAccess := nowMillis }.dropOldest maxEntries
  { kept with
    entries := kept.entries ++ [entry]
    bytesCount := kept.bytesCount + entry.sizeBytes }

def clear (buffer : LogBuffer) : LogBuffer × UInt64 :=
  ({ buffer with
      entries := []
      bytesCount := 0 }, buffer.bytesCount)

/-- The sizes of the entries. -/
def storedBytes (buffer : LogBuffer) : Nat :=
  (buffer.entries.map fun entry => entry.sizeBytes.toNat).sum

def storedEntries (buffer : LogBuffer) : Nat := buffer.entries.length

end LogBuffer

/-! ## The buffers of all jobs -/

structure GlobalLogBuffer where
  maxBytes : UInt64
  maxEntriesPerJob : Nat
  evictionThresholdBytes : UInt64
  totalBytes : UInt64
  totalEntries : UInt64
  buffers : Table LogBuffer.jobId

inductive GlobalLogBufferError where
  | bufferFull (currentBytes maxBytes : UInt64)
  deriving DecidableEq

/-- The order in which the map yields its buffers. -/
structure BufferOrder where
  ordered : List LogBuffer → List LogBuffer
  perm : ∀ rows, List.Perm (ordered rows) rows

/-- One round of the eviction loop. `remove` may block for good, since the item of the
iteration still refers into the map. -/
structure EvictionRound extends BufferOrder where
  blocks : Bool

/-- What an eviction did: the buffers it cleared, in this order, and whether one of the
removals blocked. -/
structure Eviction where
  log : GlobalLogBuffer
  evicted : List LogBuffer
  evictedBytes : UInt64
  blocked : Bool

/-- The choices made in one `push`: those of its two evictions, and what `now_millis`
returns when a buffer is created and when it is pushed to. -/
structure PushChoices where
  makeRoom : Nat → EvictionRound
  proactive : Nat → EvictionRound
  created : UInt64
  accessed : UInt64

/-- A `push` that does not return has no result. Each eviction comes with the buffers it
started from. -/
structure PushOutcome where
  log : GlobalLogBuffer
  result : Option (Except GlobalLogBufferError UInt64)
  evictions : List (GlobalLogBuffer × Eviction)

namespace GlobalLogBuffer

def new (config : GlobalLogBufferConfig) : GlobalLogBuffer where
  maxBytes := config.maxBytes
  maxEntriesPerJob := config.maxEntriesPerJob
  evictionThresholdBytes := config.maxBytes * config.evictionThresholdPercent.toUInt64 / 100
  totalBytes := 0
  totalEntries := 0
  buffers := ⟨[], List.nodup_nil⟩

/-- `min_by_key`: the first buffer with the least last access. -/
def oldest (log : GlobalLogBuffer) (order : BufferOrder) : Option LogBuffer :=
  (order.ordered log.buffers.rows).argmin fun buffer => buffer.lastAccess.toNat

/-- The loop of `trigger_eviction`, for so many more evictions. -/
def evictWhile (targetBytes : UInt64) : Nat → GlobalLogBuffer → (Nat → EvictionRound) → Eviction
  | 0, log, _ => ⟨log, [], 0, false⟩
  | remaining + 1, log, rounds =>
      if targetBytes < log.totalBytes then
        match log.oldest (rounds 0).toBufferOrder with
        | some buffer =>
            let cleared := buffer.clear.1
            if (rounds 0).blocks then
              ⟨{ log with buffers := log.buffers.upsert cleared }, [buffer], 0, true⟩
            else
              let later := evictWhile targetBytes remaining
                { log with buffers := log.buffers.delete buffer.jobId }
                fun round => rounds (round + 1)
              -- The bytes are read after the buffer has been cleared.
              { later with
                evicted := buffer :: later.evicted
                evictedBytes := cleared.bytesCount + later.evictedBytes }
        | none => ⟨log, [], 0, false⟩
      else ⟨log, [], 0, false⟩

/-- The loop breaks when more than 100 buffers are evicted. -/
def triggerEviction (log : GlobalLogBuffer) (rounds : Nat → EvictionRound) : Eviction :=
  let eviction := evictWhile (log.maxBytes / 2) 101 log rounds
  if eviction.blocked then eviction
  else
    { eviction with
      log := { eviction.log with
        totalBytes := eviction.log.totalBytes - eviction.evictedBytes } }

/-- The last step of `push`. -/
def stored (log : GlobalLogBuffer) (jobId : String) (entry : LogBufferEntry)
    (choices : PushChoices) : GlobalLogBuffer :=
  let buffer := (log.buffers.find jobId).getD (.new jobId choices.created)
  { log with
    buffers := log.buffers.upsert (buffer.push entry log.maxEntriesPerJob choices.accessed)
    totalBytes := log.totalBytes + entry.sizeBytes
    totalEntries := log.totalEntries + 1 }

/-- `push` from the check of the proactive threshold on. -/
def pushWithin (log : GlobalLogBuffer) (jobId : String) (entry : LogBufferEntry)
    (choices : PushChoices) : PushOutcome :=
  if log.evictionThresholdBytes ≤ log.totalBytes then
    let eviction := log.triggerEviction choices.proactive
    if eviction.blocked then ⟨eviction.log, none, [(log, eviction)]⟩
    else
      let pushed := eviction.log.stored jobId entry choices
      ⟨pushed, some (.ok pushed.totalBytes), [(log, eviction)]⟩
  else
    let pushed := log.stored jobId entry choices
    ⟨pushed, some (.ok pushed.totalBytes), []⟩

/-- Nothing else runs while `push` waits for the backpressure timeout. -/
def push (log : GlobalLogBuffer) (jobId : String) (entry : LogBufferEntry)
    (choices : PushChoices) : PushOutcome :=
  if log.maxBytes < log.totalBytes + entry.sizeBytes then
    let eviction := log.triggerEviction choices.makeRoom
    if eviction.blocked then ⟨eviction.log, none, [(log, eviction)]⟩
    else if log.maxBytes < eviction.log.totalBytes + entry.sizeBytes then
      ⟨eviction.log, some (.error (.bufferFull eviction.log.totalBytes log.maxBytes)),
        [(log, eviction)]⟩
    else
      let outcome := eviction.log.pushWithin jobId entry choices
      { outcome with evictions := (log, eviction) :: outcome.evictions }
  else log.pushWithin jobId entry choices

def removeJob (log : GlobalLogBuffer) (jobId : String) : GlobalLogBuffer × Option UInt64 :=
  match log.buffers.find jobId with
  | some buffer =>
      let (cleared, bytes) := buffer.clear
      ({ log with
          buffers := log.buffers.delete jobId
          totalBytes := log.totalBytes - bytes
          totalEntries := log.totalEntries - cleared.entries.length.toUInt64 }, some bytes)
  | none => (log, none)

/-- One iteration of `flush_all`. -/
def flushJob (log : GlobalLogBuffer) (jobId : String) : GlobalLogBuffer :=
  match log.buffers.find jobId with
  | some buffer =>
      { log with
        buffers := log.buffers.delete jobId
        totalBytes := log.totalBytes - buffer.bytesCount }
  | none => log

def flushAll (log : GlobalLogBuffer) (order : BufferOrder) : GlobalLogBuffer :=
  ((order.ordered log.buffers.rows).map LogBuffer.jobId).foldl flushJob log

/-! ## What is held -/

def storedBytes (log : GlobalLogBuffer) : Nat := log.buffers.total LogBuffer.storedBytes

def storedEntries (log : GlobalLogBuffer) : Nat := log.buffers.total LogBuffer.storedEntries

/-- The two totals are those of the entries held. -/
structure Exact (log : GlobalLogBuffer) : Prop where
  bytes : log.totalBytes.toNat = log.storedBytes
  entries : log.totalEntries.toNat = log.storedEntries

/-- A buffer holds at least the entry it was created for. -/
structure Accounted (log : GlobalLogBuffer) : Prop where
  exact : log.Exact
  nonempty : ∀ buffer ∈ log.buffers.rows, 0 < buffer.storedEntries

variable {log : GlobalLogBuffer}

theorem find_oldest {order : BufferOrder} {buffer : LogBuffer}
    (isOldest : log.oldest order = some buffer) :
    log.buffers.find buffer.jobId = some buffer := by
  apply Table.find_of_mem
  have listed := List.argmin_mem (Option.mem_def.mpr isOldest)
  exact (order.perm log.buffers.rows).mem_iff.mp listed

theorem oldest_of_rows (order : BufferOrder) (some : log.buffers.rows ≠ []) :
    ∃ buffer, log.oldest order = .some buffer := by
  apply Option.ne_none_iff_exists'.mp
  intro missing
  unfold oldest at missing
  rw [List.argmin_eq_none] at missing
  have perm := order.perm log.buffers.rows
  rw [missing] at perm
  exact some perm.nil_eq.symm

theorem rows_of_positive (exact : log.Exact) (positive : 0 < log.totalBytes.toNat) :
    log.buffers.rows ≠ [] := by
  intro empty
  have bytes := exact.bytes
  unfold storedBytes Table.total at bytes
  rw [empty] at bytes
  rw [bytes] at positive
  exact absurd positive (Nat.lt_irrefl 0)

theorem stored_entries_delete {buffer : LogBuffer}
    (found : log.buffers.find buffer.jobId = some buffer) :
    GlobalLogBuffer.storedEntries { log with buffers := log.buffers.delete buffer.jobId } +
      buffer.storedEntries = log.storedEntries :=
  Table.total_delete LogBuffer.storedEntries found

theorem stored_entries_cleared {buffer : LogBuffer}
    (found : log.buffers.find buffer.jobId = some buffer) :
    GlobalLogBuffer.storedEntries { log with buffers := log.buffers.upsert buffer.clear.1 } +
      buffer.storedEntries = log.storedEntries := by
  have same : log.buffers.find buffer.clear.1.jobId = some buffer := found
  have total := Table.total_upsert log.buffers LogBuffer.storedEntries buffer.clear.1
  rw [same] at total
  exact total

/-! ## Evictions -/

section

variable {targetBytes : UInt64} {remaining : Nat} {rounds : Nat → EvictionRound}

/-- An eviction touches no total and counts no bytes. -/
theorem evict_while_totals (targetBytes : UInt64) (remaining : Nat) (log : GlobalLogBuffer)
    (rounds : Nat → EvictionRound) :
    (evictWhile targetBytes remaining log rounds).evictedBytes = 0 ∧
      (evictWhile targetBytes remaining log rounds).log.totalBytes = log.totalBytes ∧
      (evictWhile targetBytes remaining log rounds).log.totalEntries = log.totalEntries := by
  fun_induction evictWhile targetBytes remaining log rounds with
  | case3 remaining log rounds above buffer isOldest cleared blocks later ih =>
      obtain ⟨bytes, total, entries⟩ := ih
      refine ⟨?_, total, entries⟩
      show buffer.clear.1.bytesCount + later.evictedBytes = 0
      rw [bytes]
      rfl
  | _ => exact ⟨rfl, rfl, rfl⟩

theorem evict_while_stored_le (targetBytes : UInt64) (remaining : Nat) (log : GlobalLogBuffer)
    (rounds : Nat → EvictionRound) :
    (evictWhile targetBytes remaining log rounds).log.storedEntries ≤ log.storedEntries := by
  fun_induction evictWhile targetBytes remaining log rounds with
  | case2 remaining log rounds above buffer isOldest cleared blocks =>
      exact Nat.le.intro (stored_entries_cleared (find_oldest isOldest))
  | case3 remaining log rounds above buffer isOldest cleared blocks later ih =>
      have deleted := Nat.le.intro (stored_entries_delete (find_oldest isOldest))
      exact ih.trans deleted
  | _ => exact Nat.le_refl _

theorem evict_while_below (within : ¬targetBytes < log.totalBytes) :
    evictWhile targetBytes remaining log rounds = ⟨log, [], 0, false⟩ := by
  cases remaining with
  | zero => rfl
  | succ remaining =>
      unfold evictWhile
      exact if_neg within

/-- Above the target at least one buffer loses its entries. -/
theorem evict_while_stored_lt (nonempty : ∀ buffer ∈ log.buffers.rows, 0 < buffer.storedEntries)
    (above : targetBytes < log.totalBytes) (rows : log.buffers.rows ≠ []) :
    (evictWhile targetBytes (remaining + 1) log rounds).log.storedEntries <
      log.storedEntries := by
  obtain ⟨buffer, isOldest⟩ := oldest_of_rows (rounds 0).toBufferOrder rows
  have found := find_oldest isOldest
  have positive := nonempty buffer (List.mem_of_find?_eq_some found)
  rw [evictWhile, if_pos above, isOldest]
  dsimp only
  split_ifs with blocks
  · have cleared := stored_entries_cleared found
    dsimp only
    omega
  · have deleted := stored_entries_delete found
    have later := evict_while_stored_le targetBytes remaining
      { log with buffers := log.buffers.delete buffer.jobId } fun round => rounds (round + 1)
    dsimp only
    omega

/-- `trigger_eviction` never lowers a total. -/
theorem trigger_eviction_totals (log : GlobalLogBuffer) (rounds : Nat → EvictionRound) :
    (log.triggerEviction rounds).log.totalBytes = log.totalBytes ∧
      (log.triggerEviction rounds).log.totalEntries = log.totalEntries := by
  obtain ⟨bytes, total, entries⟩ := evict_while_totals (log.maxBytes / 2) 101 log rounds
  unfold triggerEviction
  dsimp only
  split_ifs with blocked
  · exact ⟨total, entries⟩
  · dsimp only
    rw [bytes, UInt64.sub_zero]
    exact ⟨total, entries⟩

theorem trigger_eviction_below (within : ¬log.maxBytes / 2 < log.totalBytes) :
    log.triggerEviction rounds = ⟨log, [], 0, false⟩ := by
  unfold triggerEviction
  rw [evict_while_below within]
  dsimp only
  rw [if_neg Bool.false_ne_true, UInt64.sub_zero]

theorem trigger_eviction_stored (log : GlobalLogBuffer) (rounds : Nat → EvictionRound) :
    (log.triggerEviction rounds).log.storedEntries =
      (evictWhile (log.maxBytes / 2) 101 log rounds).log.storedEntries := by
  unfold triggerEviction
  dsimp only
  split_ifs <;> rfl

/-- Above the target an eviction takes entries away that the total still counts. -/
theorem trigger_eviction_above (accounted : log.Accounted)
    (above : log.maxBytes / 2 < log.totalBytes) (rounds : Nat → EvictionRound) :
    (log.triggerEviction rounds).log.storedEntries < log.storedEntries := by
  rw [trigger_eviction_stored]
  apply evict_while_stored_lt accounted.nonempty above
  apply rows_of_positive accounted.exact
  have least := UInt64.lt_iff_toNat_lt.mp above
  omega

end

/-! ## Stored entries -/

section

variable {jobId : String} {entry : LogBufferEntry} {choices : PushChoices}

/-- Nothing is dropped for the entry and neither total overflows. -/
structure Keeps (log : GlobalLogBuffer) (jobId : String) (entry : LogBufferEntry) : Prop where
  bytes : log.totalBytes.toNat + entry.sizeBytes.toNat < 2 ^ 64
  entries : log.totalEntries.toNat + 1 < 2 ^ 64
  capacity : ∀ buffer, log.buffers.find jobId = some buffer →
    buffer.entries.length < log.maxEntriesPerJob

theorem drop_oldest_length (buffer : LogBuffer) (maxEntries : Nat) :
    (buffer.dropOldest maxEntries).entries.length ≤ buffer.entries.length := by
  unfold LogBuffer.dropOldest
  split_ifs
  · cases held : buffer.entries with
    | nil => simp [held]
    | cons oldest rest => simp
  · exact Nat.le_refl _

theorem push_job_id (buffer : LogBuffer) (entry : LogBufferEntry) (maxEntries : Nat)
    (nowMillis : UInt64) : (buffer.push entry maxEntries nowMillis).jobId = buffer.jobId := by
  unfold LogBuffer.push LogBuffer.dropOldest
  dsimp only
  split_ifs
  · cases buffer.entries <;> rfl
  · rfl

theorem push_stored_entries (buffer : LogBuffer) (entry : LogBufferEntry) (maxEntries : Nat)
    (nowMillis : UInt64) :
    0 < (buffer.push entry maxEntries nowMillis).storedEntries ∧
      (buffer.push entry maxEntries nowMillis).storedEntries ≤ buffer.storedEntries + 1 := by
  have shorter := drop_oldest_length { buffer with lastAccess := nowMillis } maxEntries
  unfold LogBuffer.push LogBuffer.storedEntries
  simp only [List.length_append, List.length_singleton]
  dsimp only at shorter
  omega

/-- A full buffer drops its oldest entry for the new one. -/
theorem push_full {buffer : LogBuffer} {maxEntries : Nat} (entry : LogBufferEntry)
    (nowMillis : UInt64) (full : maxEntries ≤ buffer.entries.length)
    (positive : 0 < buffer.entries.length) :
    (buffer.push entry maxEntries nowMillis).storedEntries = buffer.storedEntries := by
  unfold LogBuffer.push LogBuffer.dropOldest LogBuffer.storedEntries
  dsimp only
  rw [if_pos full]
  cases held : buffer.entries with
  | nil => simp [held] at positive
  | cons oldest rest => simp

theorem push_room {buffer : LogBuffer} {maxEntries : Nat} (entry : LogBufferEntry)
    (nowMillis : UInt64) (room : buffer.entries.length < maxEntries ∨ buffer.entries = []) :
    (buffer.push entry maxEntries nowMillis).entries = buffer.entries ++ [entry] := by
  unfold LogBuffer.push LogBuffer.dropOldest
  dsimp only
  rcases room with below | empty
  · rw [if_neg (Nat.not_le.mpr below)]
  · rw [empty]
    split_ifs <;> rfl

/-- The buffer that an entry is added to. -/
theorem found_or_new (log : GlobalLogBuffer) (jobId : String) (created : UInt64) :
    let buffer := (log.buffers.find jobId).getD (.new jobId created)
    buffer.jobId = jobId ∧
      buffer.storedBytes = ((log.buffers.find jobId).map LogBuffer.storedBytes).getD 0 ∧
      buffer.storedEntries = ((log.buffers.find jobId).map LogBuffer.storedEntries).getD 0 := by
  cases found : log.buffers.find jobId with
  | none => exact ⟨rfl, rfl, rfl⟩
  | some buffer => exact ⟨Table.find_some_key found, rfl, rfl⟩

theorem stored_total (log : GlobalLogBuffer) (jobId : String) (entry : LogBufferEntry)
    (choices : PushChoices) (measure : LogBuffer → Nat) :
    let buffer := (log.buffers.find jobId).getD (.new jobId choices.created)
    (log.stored jobId entry choices).buffers.total measure +
        ((log.buffers.find jobId).map measure).getD 0 =
      log.buffers.total measure +
        measure (buffer.push entry log.maxEntriesPerJob choices.accessed) := by
  intro buffer
  have total := Table.total_upsert log.buffers measure
    (buffer.push entry log.maxEntriesPerJob choices.accessed)
  have isJob : (buffer.push entry log.maxEntriesPerJob choices.accessed).jobId = jobId :=
    (push_job_id _ _ _ _).trans (found_or_new log jobId choices.created).1
  rw [isJob] at total
  exact total

theorem stored_entries_bounds (log : GlobalLogBuffer) (jobId : String) (entry : LogBufferEntry)
    (choices : PushChoices) :
    0 < (log.stored jobId entry choices).storedEntries ∧
      (log.stored jobId entry choices).storedEntries ≤ log.storedEntries + 1 := by
  have total := stored_total log jobId entry choices LogBuffer.storedEntries
  have old := (found_or_new log jobId choices.created).2.2
  dsimp only at total old
  generalize (log.buffers.find jobId).getD (.new jobId choices.created) = buffer at total old
  have pushed := push_stored_entries buffer entry log.maxEntriesPerJob choices.accessed
  have held : buffer.storedEntries ≤ log.storedEntries := by
    rw [old]
    cases found : log.buffers.find jobId with
    | none => exact Nat.zero_le _
    | some row =>
        have others := Table.total_delete LogBuffer.storedEntries found
        exact Nat.le.intro ((Nat.add_comm _ _).trans others)
  unfold storedEntries at *
  omega

theorem stored_kept (entry : LogBufferEntry) (choices : PushChoices)
    (room : ∀ buffer, log.buffers.find jobId = some buffer →
      buffer.entries.length < log.maxEntriesPerJob) :
    (log.stored jobId entry choices).storedBytes = log.storedBytes + entry.sizeBytes.toNat ∧
      (log.stored jobId entry choices).storedEntries = log.storedEntries + 1 := by
  obtain ⟨-, oldBytes, oldEntries⟩ := found_or_new log jobId choices.created
  have bytes := stored_total log jobId entry choices LogBuffer.storedBytes
  have entries := stored_total log jobId entry choices LogBuffer.storedEntries
  have space : ((log.buffers.find jobId).getD (.new jobId choices.created)).entries.length <
        log.maxEntriesPerJob ∨
      ((log.buffers.find jobId).getD (.new jobId choices.created)).entries = [] := by
    cases found : log.buffers.find jobId with
    | none => exact .inr rfl
    | some buffer => exact .inl (room buffer found)
  dsimp only at bytes entries oldBytes oldEntries
  generalize (log.buffers.find jobId).getD (.new jobId choices.created) = buffer at *
  have pushed := push_room entry choices.accessed space
  have pushedBytes : (buffer.push entry log.maxEntriesPerJob choices.accessed).storedBytes =
      buffer.storedBytes + entry.sizeBytes.toNat := by
    rw [LogBuffer.storedBytes, pushed, List.map_append, List.sum_append]
    rfl
  have pushedEntries : (buffer.push entry log.maxEntriesPerJob choices.accessed).storedEntries =
      buffer.storedEntries + 1 := by
    rw [LogBuffer.storedEntries, pushed, List.length_append]
    rfl
  unfold storedBytes storedEntries
  omega

theorem stored_full {buffer : LogBuffer} (found : log.buffers.find jobId = some buffer)
    (full : log.maxEntriesPerJob ≤ buffer.entries.length)
    (positive : 0 < buffer.entries.length) :
    (log.stored jobId entry choices).storedEntries = log.storedEntries := by
  have total := stored_total log jobId entry choices LogBuffer.storedEntries
  rw [found] at total
  have pushed := push_full entry choices.accessed full positive
  dsimp only [Option.getD_some, Option.map_some] at total
  rw [pushed] at total
  exact Nat.add_right_cancel total

theorem stored_exact_iff (accounted : log.Accounted) :
    (log.stored jobId entry choices).Exact ↔ log.Keeps jobId entry := by
  have bytesBefore := accounted.exact.bytes
  have entriesBefore := accounted.exact.entries
  have bytesAfter : (log.stored jobId entry choices).totalBytes.toNat =
      (log.totalBytes.toNat + entry.sizeBytes.toNat) % 2 ^ 64 := UInt64.toNat_add _ _
  have entriesAfter : (log.stored jobId entry choices).totalEntries.toNat =
      (log.totalEntries.toNat + 1) % 2 ^ 64 := UInt64.toNat_add _ _
  have bound := log.totalEntries.toNat_lt
  constructor
  · intro exact
    have bytes := exact.bytes
    have entries := exact.entries
    rw [bytesAfter] at bytes
    rw [entriesAfter] at entries
    have capacity : ∀ buffer, log.buffers.find jobId = some buffer →
        buffer.entries.length < log.maxEntriesPerJob := by
      intro buffer found
      by_contra full
      have positive := accounted.nonempty buffer (List.mem_of_find?_eq_some found)
      rw [stored_full found (Nat.not_lt.mp full) positive] at entries
      omega
    obtain ⟨keptBytes, keptEntries⟩ := stored_kept entry choices capacity
    refine ⟨?_, ?_, capacity⟩
    · omega
    · omega
  · intro keeps
    obtain ⟨keptBytes, keptEntries⟩ := stored_kept entry choices keeps.capacity
    have bytes := keeps.bytes
    have entries := keeps.entries
    constructor
    · rw [bytesAfter, Nat.mod_eq_of_lt bytes, keptBytes, bytesBefore]
    · rw [entriesAfter, Nat.mod_eq_of_lt entries, keptEntries, entriesBefore]

theorem stored_nonempty (accounted : log.Accounted) :
    ∀ buffer ∈ (log.stored jobId entry choices).buffers.rows, 0 < buffer.storedEntries := by
  intro buffer member
  rcases Table.mem_upsert member with pushed | old
  · rw [pushed]
    exact (push_stored_entries _ _ _ _).1
  · exact accounted.nonempty buffer old

/-- What an eviction lost is not made up for by the entry that is stored. -/
theorem stored_after_loss {evicted : GlobalLogBuffer} (accounted : log.Accounted)
    (entries : evicted.totalEntries = log.totalEntries)
    (lost : evicted.storedEntries < log.storedEntries) :
    ¬(evicted.stored jobId entry choices).Exact := by
  intro exact
  have before := accounted.exact.entries
  have after := exact.entries
  have bounds := stored_entries_bounds evicted jobId entry choices
  have counted : (evicted.stored jobId entry choices).totalEntries.toNat =
      (evicted.totalEntries.toNat + 1) % 2 ^ 64 := UInt64.toNat_add _ _
  have limit := log.totalEntries.toNat_lt
  rw [counted, entries] at after
  omega

theorem lost_not_exact {evicted : GlobalLogBuffer} (accounted : log.Accounted)
    (entries : evicted.totalEntries = log.totalEntries)
    (lost : evicted.storedEntries < log.storedEntries) : ¬evicted.Exact := by
  intro exact
  have before := accounted.exact.entries
  have after := exact.entries
  rw [entries] at after
  omega

end

/-! ## The calls -/

section

variable {jobId : String} {entry : LogBufferEntry} {choices : PushChoices}

/-- Above the target, a push that evicts leaves wrong totals. -/
theorem push_above (accounted : log.Accounted)
    (evicts : log.maxBytes < log.totalBytes + entry.sizeBytes ∨
      log.evictionThresholdBytes ≤ log.totalBytes)
    (above : log.maxBytes / 2 < log.totalBytes) : ¬(log.push jobId entry choices).log.Exact := by
  unfold push
  by_cases full : log.maxBytes < log.totalBytes + entry.sizeBytes
  · obtain ⟨total, entries⟩ := trigger_eviction_totals log choices.makeRoom
    have lost := trigger_eviction_above accounted above choices.makeRoom
    rw [if_pos full]
    dsimp only
    split_ifs with blocked stays
    · exact lost_not_exact accounted entries lost
    · exact lost_not_exact accounted entries lost
    · rw [total] at stays
      exact absurd full stays
  · obtain ⟨total, entries⟩ := trigger_eviction_totals log choices.proactive
    have lost := trigger_eviction_above accounted above choices.proactive
    rw [if_neg full, pushWithin, if_pos (evicts.resolve_left full)]
    dsimp only
    split_ifs with blocked
    · exact lost_not_exact accounted entries lost
    · exact stored_after_loss accounted entries lost

/-- An eviction that finds the total within its target. -/
def idle (log : GlobalLogBuffer) : Eviction := ⟨log, [], 0, false⟩

theorem push_refused (within : ¬log.maxBytes / 2 < log.totalBytes)
    (full : log.maxBytes < log.totalBytes + entry.sizeBytes) :
    log.push jobId entry choices =
      ⟨log, some (.error (.bufferFull log.totalBytes log.maxBytes)), [(log, log.idle)]⟩ := by
  unfold push
  rw [if_pos full, trigger_eviction_below within]
  dsimp only
  rw [if_neg Bool.false_ne_true, if_pos full]
  rfl

theorem push_accepted (fits : ¬log.maxBytes < log.totalBytes + entry.sizeBytes)
    (within : log.evictionThresholdBytes ≤ log.totalBytes →
      ¬log.maxBytes / 2 < log.totalBytes) :
    log.push jobId entry choices =
      ⟨log.stored jobId entry choices,
        some (.ok (log.stored jobId entry choices).totalBytes),
        if log.evictionThresholdBytes ≤ log.totalBytes then [(log, log.idle)] else []⟩ := by
  unfold push pushWithin
  rw [if_neg fits]
  by_cases proactive : log.evictionThresholdBytes ≤ log.totalBytes
  · rw [if_pos proactive, if_pos proactive, trigger_eviction_below (within proactive)]
    rfl
  · rw [if_neg proactive, if_neg proactive]

end

end GlobalLogBuffer

end HodeiJobs.Interface
