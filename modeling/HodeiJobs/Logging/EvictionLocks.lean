import HodeiJobs.Logging.GlobalLogBuffer

/-!
# The locks of an eviction

`GlobalLogBuffer::handle_backpressure` on the shards of its map. An item that the map yields holds
the read lock of its shard until it is dropped; a removal asks for the write lock of the shard of
its key, and blocks for good while its own task holds a read lock there.
-/

namespace HodeiJobs.Logging

open HodeiJobs.Execution (JobId)
open HodeiJobs.Library

inductive MapAction where
  | yielded (jobId : JobId)
  | dropped (jobId : JobId)
  | flushed (jobId : JobId)
  | removed (jobId : JobId)
  deriving DecidableEq

/-- The order of an iteration, and whether the time limit ends the flush that comes after it. -/
structure ShardEviction extends MapOrder where
  timesOut : Bool

/-- How the eviction ends: a removal that is reached blocks. -/
def ShardEviction.toEviction (eviction : ShardEviction) : Eviction where
  toMapOrder := eviction.toMapOrder
  outcome := if eviction.timesOut then .timesOut else .blocks

namespace GlobalLogBuffer

/-- `min_by_key` on the items after the first. Of two items the one with the later access is
dropped, and the second one where both have the same. -/
def minByKey (best : LogBuffer) : List LogBuffer → LogBuffer × List MapAction
  | [] => (best, [])
  | next :: rest =>
      if next.lastAccess < best.lastAccess then
        let later := minByKey next rest
        (later.1, .yielded next.jobId :: .dropped best.jobId :: later.2)
      else
        let later := minByKey best rest
        (later.1, .yielded next.jobId :: .dropped next.jobId :: later.2)

/-- The search for the oldest buffer, whose item is kept. -/
def searchOldest (log : GlobalLogBuffer) (order : MapOrder) : Option LogBuffer × List MapAction :=
  match order.ordered log.buffers.rows with
  | [] => (none, [])
  | first :: rest =>
      let search := minByKey first rest
      (some search.1, .yielded first.jobId :: search.2)

theorem min_by_key_eq (best : LogBuffer) (rest : List LogBuffer) :
    some (minByKey best rest).1 = (best :: rest).argmin fun buffer => buffer.lastAccess.toNat := by
  have folded : ∀ (rest : List LogBuffer) (best : LogBuffer), some (minByKey best rest).1 =
      rest.foldl (List.argAux fun other least => other.lastAccess.toNat < least.lastAccess.toNat)
        (some best) := by
    intro rest
    induction rest with
    | nil => exact fun _ => rfl
    | cons next rest ih =>
        intro best
        unfold minByKey
        rw [List.foldl_cons]
        split_ifs with older
        · rw [ih next, List.argAux]
          dsimp only
          rw [if_pos (UInt64.lt_iff_toNat_lt.mp older)]
        · rw [ih best, List.argAux]
          dsimp only
          rw [if_neg (UInt64.lt_iff_toNat_lt.not.mp older)]
  exact folded rest best

theorem search_oldest_eq (log : GlobalLogBuffer) (order : MapOrder) :
    (log.searchOldest order).1 = log.oldest order := by
  unfold searchOldest oldest
  cases order.ordered log.buffers.rows with
  | nil => rfl
  | cons first rest => exact min_by_key_eq first rest

/-- What the loop of `handle_backpressure` asks of the map. The item of the oldest buffer is
dropped at the end of the iteration, or with the future that the time limit ends. -/
def evictWhileActions (requiredSize : Nat) (targetSize : Int) (log : GlobalLogBuffer)
    (evictedBytes : Int) (evictions : Nat → ShardEviction) : List MapAction :=
  if log.maxBytes.toNat < log.totalBytes + requiredSize ∧ evictedBytes < targetSize then
    match found : log.oldest (evictions 0).toMapOrder with
    | some buffer =>
        (log.searchOldest (evictions 0).toMapOrder).2 ++ .flushed buffer.jobId ::
          if (evictions 0).timesOut then [.dropped buffer.jobId]
          else
            have : (log.buffers.delete buffer.jobId).rows.length < log.buffers.rows.length := by
              have fewer := Table.length_delete (find_oldest found)
              omega
            .removed buffer.jobId :: .dropped buffer.jobId ::
              evictWhileActions requiredSize targetSize (log.flushed buffer)
                (evictedBytes + buffer.flushToPersister) fun iteration => evictions (iteration + 1)
    | none => (log.searchOldest (evictions 0).toMapOrder).2
  else []
termination_by log.buffers.rows.length

def handleBackpressureActions (log : GlobalLogBuffer) (requiredSize : Nat)
    (evictions : Nat → ShardEviction) : List MapAction :=
  evictWhileActions requiredSize (log.totalBytes + requiredSize) log 0 evictions

def NeedsEviction (log : GlobalLogBuffer) (entry : LogEntry) : Prop :=
  log.maxBytes.toNat < log.totalBytes + entry.sizeBytes

instance (log : GlobalLogBuffer) (entry : LogEntry) : Decidable (log.NeedsEviction entry) :=
  inferInstanceAs (Decidable (_ < _))

/-- What `push` asks of the map before it stores the entry. -/
def makeRoomActions (log : GlobalLogBuffer) (entry : LogEntry) (evictions : Nat → ShardEviction) :
    List MapAction :=
  if log.NeedsEviction entry then log.handleBackpressureActions entry.sizeBytes evictions else []

/-! ## Guards -/

section

variable {Shard : Type} [DecidableEq Shard] (shardOf : JobId → Shard)

/-- The items that are held after the actions; nothing if a removal finds its shard read-locked. -/
def perform : List JobId → List MapAction → Option (List JobId)
  | held, [] => some held
  | held, .yielded jobId :: rest => perform (jobId :: held) rest
  | held, .dropped jobId :: rest => perform (held.erase jobId) rest
  | held, .flushed _ :: rest => perform held rest
  | held, .removed jobId :: rest =>
      if ∃ guard ∈ held, shardOf guard = shardOf jobId then none else perform held rest

/-- No write lock is asked for on a shard whose read lock is held. -/
def NeverBlocks (actions : List MapAction) : Prop := perform shardOf [] actions ≠ none

instance (actions : List MapAction) : Decidable (NeverBlocks shardOf actions) :=
  inferInstanceAs (Decidable (_ ≠ _))

theorem perform_append (first second : List MapAction) (held : List JobId) :
    perform shardOf held (first ++ second) =
      (perform shardOf held first).bind fun held => perform shardOf held second := by
  induction first generalizing held with
  | nil => rfl
  | cons action rest ih =>
      cases action with
      | yielded jobId => exact ih (jobId :: held)
      | dropped jobId => exact ih (held.erase jobId)
      | flushed jobId => exact ih held
      | removed jobId =>
          change (if _ then none else perform shardOf held (rest ++ second)) =
            (if _ then none else perform shardOf held rest).bind _
          split_ifs
          · rfl
          · exact ih held

/-- Of the items, only the one with the least access is held at the end. -/
theorem perform_min_by_key (best : LogBuffer) (rest : List LogBuffer) :
    perform shardOf [best.jobId] (minByKey best rest).2 = some [(minByKey best rest).1.jobId] := by
  induction rest generalizing best with
  | nil => rfl
  | cons next rest ih =>
      unfold minByKey
      split_ifs
      · have kept : [next.jobId, best.jobId].erase best.jobId = [next.jobId] := by
          by_cases same : next.jobId = best.jobId
          · rw [same, List.erase_cons_head]
          · rw [List.erase_cons_tail (by simpa using same), List.erase_cons_head]
        change perform shardOf ([next.jobId, best.jobId].erase best.jobId) _ = _
        rw [kept]
        exact ih next
      · change perform shardOf ([next.jobId, best.jobId].erase next.jobId) _ = _
        rw [List.erase_cons_head]
        exact ih best

theorem perform_search_oldest (log : GlobalLogBuffer) (order : MapOrder) :
    perform shardOf [] (log.searchOldest order).2 =
      some ((log.searchOldest order).1.map LogBuffer.jobId).toList := by
  unfold searchOldest
  cases order.ordered log.buffers.rows with
  | nil => rfl
  | cons first rest => exact perform_min_by_key shardOf first rest

/-- The item of the buffer that is to be removed holds the lock that the removal asks for. -/
theorem evict_while_blocks_iff {requiredSize : Nat} {targetSize evictedBytes : Int}
    {log : GlobalLogBuffer} {evictions : Nat → ShardEviction}
    (continues : log.maxBytes.toNat < log.totalBytes + requiredSize ∧ evictedBytes < targetSize) :
    NeverBlocks shardOf (evictWhileActions requiredSize targetSize log evictedBytes evictions) ↔
      log.buffers.rows = [] ∨ (evictions 0).timesOut = true := by
  have searched := perform_search_oldest shardOf log (evictions 0).toMapOrder
  rw [search_oldest_eq] at searched
  unfold NeverBlocks
  rw [evictWhileActions, if_pos continues]
  split
  next buffer found =>
    have stored : log.buffers.rows ≠ [] := by
      intro empty
      have absent := (oldest_none log (evictions 0).toMapOrder).mpr empty
      rw [found] at absent
      cases absent
    rw [found] at searched
    rw [perform_append, searched, or_iff_right stored]
    by_cases ended : (evictions 0).timesOut = true
    · rw [if_pos ended]
      apply iff_of_true _ ended
      exact Option.some_ne_none _
    · rw [if_neg ended]
      apply iff_of_false _ ended
      intro unblocked
      exact unblocked (if_pos ⟨buffer.jobId, List.mem_singleton_self _, rfl⟩)
  next found =>
    rw [found] at searched
    rw [searched]
    exact iff_of_true (Option.some_ne_none _) (.inl ((oldest_none log _).mp found))

end

/-- A push never asks for the write lock of a shard that it has read-locked exactly if it needs no
eviction, or there is no buffer to evict, or the time limit ends the first flush. -/
theorem never_blocks_iff_nothing_evicted {Shard : Type} [DecidableEq Shard]
    (shardOf : JobId → Shard) (log : GlobalLogBuffer) (entry : LogEntry)
    (evictions : Nat → ShardEviction) :
    NeverBlocks shardOf (log.makeRoomActions entry evictions) ↔
      (log.NeedsEviction entry → log.buffers.rows = [] ∨ (evictions 0).timesOut = true) := by
  unfold makeRoomActions
  split_ifs with needs
  · have room : (0 : Int) < log.totalBytes + entry.sizeBytes := by
      unfold NeedsEviction at needs
      omega
    rw [handleBackpressureActions, evict_while_blocks_iff shardOf ⟨needs, room⟩]
    exact (imp_iff_right needs).symm
  · apply iff_of_true
    · exact Option.some_ne_none _
    · intro needed
      exact absurd needed needs

theorem push_none_iff (log : GlobalLogBuffer) (jobId : JobId) (entry : LogEntry)
    (evictions : Nat → Eviction) (now : UInt64) :
    (log.push jobId entry evictions now).2 = none ↔
      (log.makeRoom entry.sizeBytes evictions).2 = .blocks := by
  unfold push
  rcases log.makeRoom entry.sizeBytes evictions with ⟨next, outcome⟩
  cases outcome with
  | completes => simp
  | timesOut => simp
  | blocks => simp

theorem evict_while_blocks {requiredSize : Nat} {targetSize evictedBytes : Int}
    {log : GlobalLogBuffer} {evictions : Nat → ShardEviction}
    (continues : log.maxBytes.toNat < log.totalBytes + requiredSize ∧ evictedBytes < targetSize) :
    (evictWhile requiredSize targetSize log evictedBytes
        fun iteration => (evictions iteration).toEviction).2 = .blocks ↔
      ¬(log.buffers.rows = [] ∨ (evictions 0).timesOut = true) := by
  have empty := oldest_none log (evictions 0).toMapOrder
  have isFirst : (evictions 0).toEviction.toMapOrder = (evictions 0).toMapOrder := rfl
  rw [evictWhile, if_pos continues, ← empty]
  split
  next buffer found =>
    rw [isFirst] at found
    have outcome : (evictions 0).toEviction.outcome =
        if (evictions 0).timesOut then .timesOut else .blocks := rfl
    by_cases ended : (evictions 0).timesOut = true
    · rw [if_pos ended] at outcome
      rw [outcome]
      simp [ended]
    · rw [if_neg ended] at outcome
      rw [outcome]
      simp [ended, found]
  next found =>
    rw [isFirst] at found
    simp [found]

/-- The pushes that block are those that never return. -/
theorem push_returns_iff_never_blocks {Shard : Type} [DecidableEq Shard]
    (shardOf : JobId → Shard) (log : GlobalLogBuffer) (jobId : JobId) (entry : LogEntry)
    (evictions : Nat → ShardEviction) (now : UInt64) :
    (log.push jobId entry (fun iteration => (evictions iteration).toEviction) now).2 ≠ none ↔
      NeverBlocks shardOf (log.makeRoomActions entry evictions) := by
  rw [ne_eq, push_none_iff]
  unfold makeRoom makeRoomActions
  by_cases needs : log.NeedsEviction entry
  · have room : (0 : Int) < log.totalBytes + entry.sizeBytes := by
      unfold NeedsEviction at needs
      omega
    rw [if_pos needs, handleBackpressureActions, evict_while_blocks_iff shardOf ⟨needs, room⟩]
    unfold NeedsEviction at needs
    rw [if_pos needs, handleBackpressure, evict_while_blocks ⟨needs, room⟩, not_not]
  · rw [if_neg needs]
    unfold NeedsEviction at needs
    rw [if_neg needs]
    apply iff_of_true
    · exact fun same => by cases same
    · exact Option.some_ne_none _

/-- Every item is yielded in the order of the rows, and no flush takes long. -/
def evictsAtOnce (_ : Nat) : ShardEviction := ⟨⟨id, List.Perm.refl⟩, false⟩

/-- A second entry for the only job: the job's buffer is the oldest, and its item holds the shard
that the removal waits for. -/
theorem own_item_blocks_removal :
    ¬NeverBlocks (fun _ : JobId => ())
      (((new 100).stored ⟨1⟩ LogRun.shortLine 0).makeRoomActions LogRun.shortLine
        evictsAtOnce) := by
  have size : LogRun.shortLine.sizeBytes = 84 := by decide
  have full : ((new 100).stored ⟨1⟩ LogRun.shortLine 0).NeedsEviction LogRun.shortLine := by
    unfold NeedsEviction stored
    rw [size]
    decide
  rw [makeRoomActions, if_pos full, handleBackpressureActions,
    evict_while_blocks_iff _ ⟨full, by decide⟩]
  decide

end GlobalLogBuffer

end HodeiJobs.Logging
