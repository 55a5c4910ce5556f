import HodeiJobs.Interface.GlobalLogBuffer
import HodeiJobs.Library.Recency
import HodeiJobs.Library.Runs

/-!
# Runs of the log buffer

`total_entries` is never lowered: `remove_job` counts the entries of a buffer that it has
cleared, and the cap of a job, evictions and `flush_all` do not touch it. So the totals stay
exact only as long as none of these takes an entry away.
-/

namespace HodeiJobs.Interface

open HodeiJobs.Library

/-- The eviction ends at half of the limit, and each buffer it took was needed for that and
was the one pushed to least recently. -/
structure Eviction.Sparing (history : List String) (start : GlobalLogBuffer)
    (eviction : Eviction) : Prop where
  ends : eviction.blocked = false
  reached : eviction.log.totalBytes ≤ start.maxBytes / 2
  needed : ∀ earlier buffer later, eviction.evicted = earlier ++ buffer :: later →
    (start.maxBytes / 2).toNat + (earlier.map LogBuffer.storedBytes).sum < start.storedBytes
  ordered : ∀ earlier buffer later, eviction.evicted = earlier ++ buffer :: later →
    LeastRecentlyUsed history
      ((start.buffers.rows.map LogBuffer.jobId).filter fun jobId =>
        jobId ∉ earlier.map LogBuffer.jobId)
      buffer.jobId

namespace GlobalLogBuffer

variable {log : GlobalLogBuffer}

theorem idle_sparing (history : List String) (within : ¬log.maxBytes / 2 < log.totalBytes) :
    log.idle.Sparing history log := by
  have none : ∀ earlier (buffer : LogBuffer) later,
      log.idle.evicted ≠ earlier ++ buffer :: later := by
    intro earlier buffer later split
    exact absurd split.symm (List.append_ne_nil_of_right_ne_nil _ (List.cons_ne_nil _ _))
  constructor
  · rfl
  · exact UInt64.not_lt.mp within
  · intro earlier buffer later split
    exact absurd split (none earlier buffer later)
  · intro earlier buffer later split
    exact absurd split (none earlier buffer later)

/-! ## The conditions of a call -/

/-- The push evicts only what is within the target already, and what it stores it keeps. -/
structure Spares (log : GlobalLogBuffer) (jobId : String) (entry : LogBufferEntry) : Prop where
  within : log.maxBytes < log.totalBytes + entry.sizeBytes ∨
    log.evictionThresholdBytes ≤ log.totalBytes → ¬log.maxBytes / 2 < log.totalBytes
  keeps : ¬log.maxBytes < log.totalBytes + entry.sizeBytes → log.Keeps jobId entry

section

variable {jobId : String} {entry : LogBufferEntry} {choices : PushChoices}

theorem push_exact_iff (accounted : log.Accounted) (choices : PushChoices) :
    (log.push jobId entry choices).log.Exact ↔ log.Spares jobId entry := by
  constructor
  · intro exact
    have within : log.maxBytes < log.totalBytes + entry.sizeBytes ∨
        log.evictionThresholdBytes ≤ log.totalBytes → ¬log.maxBytes / 2 < log.totalBytes := by
      intro evicts above
      exact push_above accounted evicts above exact
    refine ⟨within, ?_⟩
    intro fits
    rw [push_accepted fits fun proactive => within (.inr proactive)] at exact
    exact (stored_exact_iff accounted).mp exact
  · intro spares
    by_cases full : log.maxBytes < log.totalBytes + entry.sizeBytes
    · rw [push_refused (spares.within (.inl full)) full]
      exact accounted.exact
    · rw [push_accepted full fun proactive => spares.within (.inr proactive)]
      exact (stored_exact_iff accounted).mpr (spares.keeps full)

theorem push_spares (accounted : log.Accounted) (spares : log.Spares jobId entry) :
    (log.push jobId entry choices).log.Accounted ∧
      (log.push jobId entry choices).result.isSome = true := by
  have exact := (push_exact_iff accounted choices).mpr spares
  by_cases full : log.maxBytes < log.totalBytes + entry.sizeBytes
  · rw [push_refused (spares.within (.inl full)) full] at exact ⊢
    exact ⟨accounted, rfl⟩
  · rw [push_accepted full fun proactive => spares.within (.inr proactive)] at exact ⊢
    exact ⟨⟨exact, stored_nonempty accounted⟩, rfl⟩

/-- Half of the limit is within the other half. -/
theorem half_fits (within : ¬log.maxBytes / 2 < log.totalBytes)
    (half : entry.sizeBytes ≤ log.maxBytes / 2) :
    ¬log.maxBytes < log.totalBytes + entry.sizeBytes := by
  have total := UInt64.le_iff_toNat_le.mp (UInt64.not_lt.mp within)
  have size := UInt64.le_iff_toNat_le.mp half
  rw [UInt64.toNat_div] at total size
  have limit := log.maxBytes.toNat_lt
  have two : (2 : UInt64).toNat = 2 := rfl
  rw [two] at total size
  rw [UInt64.lt_iff_toNat_lt, UInt64.toNat_add, Nat.mod_eq_of_lt (by omega)]
  omega

theorem push_spares_serves (history : List String) (choices : PushChoices)
    (spares : log.Spares jobId entry) :
    (∀ pair ∈ (log.push jobId entry choices).evictions, pair.2.Sparing history pair.1) ∧
      (entry.sizeBytes ≤ log.maxBytes / 2 → ∀ currentBytes maxBytes,
        (log.push jobId entry choices).result ≠
          some (.error (.bufferFull currentBytes maxBytes))) := by
  by_cases full : log.maxBytes < log.totalBytes + entry.sizeBytes
  · have within := spares.within (.inl full)
    rw [push_refused within full]
    constructor
    · intro pair member
      rw [List.mem_singleton.mp member]
      exact idle_sparing history within
    · intro half
      exact absurd full (half_fits within half)
  · rw [push_accepted full fun proactive => spares.within (.inr proactive)]
    constructor
    · intro pair member
      dsimp only at member
      split_ifs at member with proactive
      · rw [List.mem_singleton.mp member]
        exact idle_sparing history (spares.within (.inr proactive))
      · cases member
    · intro _ currentBytes maxBytes same
      cases same

end

/-- The entries are cleared before they are counted. -/
theorem remove_job_exact_iff (accounted : log.Accounted) (jobId : String) :
    (log.removeJob jobId).1.Exact ↔ log.buffers.find jobId = none := by
  unfold removeJob
  cases found : log.buffers.find jobId with
  | none => exact iff_of_true accounted.exact rfl
  | some buffer =>
      apply iff_of_false
      · intro exact
        have positive := accounted.nonempty buffer (List.mem_of_find?_eq_some found)
        have others := Table.total_delete LogBuffer.storedEntries found
        have before := accounted.exact.entries
        have after := exact.entries
        have same : log.totalEntries - buffer.clear.1.entries.length.toUInt64 =
            log.totalEntries := UInt64.sub_zero _
        unfold storedEntries at before after
        dsimp only at after
        rw [same] at after
        omega
      · exact Option.some_ne_none buffer

theorem flush_jobs_entries (jobs : List String) (log : GlobalLogBuffer) :
    (jobs.foldl flushJob log).totalEntries = log.totalEntries ∧
      (jobs.foldl flushJob log).storedEntries ≤ log.storedEntries := by
  induction jobs generalizing log with
  | nil => exact ⟨rfl, Nat.le_refl _⟩
  | cons jobId rest ih =>
      obtain ⟨counted, stored⟩ := ih (log.flushJob jobId)
      have kept : (log.flushJob jobId).totalEntries = log.totalEntries ∧
          (log.flushJob jobId).storedEntries ≤ log.storedEntries := by
        unfold flushJob
        cases found : log.buffers.find jobId with
        | none => exact ⟨rfl, Nat.le_refl _⟩
        | some buffer =>
            exact ⟨rfl, Nat.le.intro (Table.total_delete LogBuffer.storedEntries found)⟩
      rw [List.foldl_cons]
      exact ⟨counted.trans kept.1, stored.trans kept.2⟩

theorem flush_all_empty (order : BufferOrder) (empty : log.buffers.rows = []) :
    log.flushAll order = log := by
  have perm := order.perm log.buffers.rows
  unfold flushAll
  rw [empty] at perm ⊢
  rw [perm.eq_nil]
  rfl

theorem flush_all_exact_iff (accounted : log.Accounted) (order : BufferOrder) :
    (log.flushAll order).Exact ↔ log.buffers.rows = [] := by
  constructor
  · intro exact
    have perm := order.perm log.buffers.rows
    cases listed : order.ordered log.buffers.rows with
    | nil =>
        rw [listed] at perm
        exact perm.nil_eq.symm
    | cons buffer rest =>
        have member : buffer ∈ log.buffers.rows := by
          apply perm.subset
          rw [listed]
          exact List.mem_cons_self
        have found := Table.find_of_mem member
        have positive := accounted.nonempty buffer member
        have others := Table.total_delete LogBuffer.storedEntries found
        obtain ⟨counted, stored⟩ := flush_jobs_entries (rest.map LogBuffer.jobId)
          (log.flushJob buffer.jobId)
        have before := accounted.exact.entries
        have after := exact.entries
        unfold flushAll at after
        rw [listed, List.map_cons, List.foldl_cons, counted] at after
        unfold flushJob at after stored
        rw [found] at after stored
        unfold storedEntries at before after stored
        dsimp only at after stored
        omega
  · intro empty
    rw [flush_all_empty order empty]
    exact accounted.exact

end GlobalLogBuffer

/-! ## Runs -/

inductive LogBufferCall where
  | push (jobId : String) (entry : LogBufferEntry) (choices : PushChoices)
  | removeJob (jobId : String)
  | flushAll (order : BufferOrder)

/-- The buffers, the jobs of the entries that were stored, in this order, and whether every
call so far has returned. -/
structure LogBufferRun where
  log : GlobalLogBuffer
  pushed : List String
  returned : Bool

namespace LogBufferRun

def start (config : GlobalLogBufferConfig) : LogBufferRun := ⟨.new config, [], true⟩

def step (run : LogBufferRun) (call : LogBufferCall) : LogBufferRun :=
  if run.returned then
    match call with
    | .push jobId entry choices =>
        let outcome := run.log.push jobId entry choices
        let pushed :=
          match outcome.result with
          | some (.ok _) => run.pushed ++ [jobId]
          | some (.error _) | none => run.pushed
        ⟨outcome.log, pushed, outcome.result.isSome⟩
    | .removeJob jobId => { run with log := (run.log.removeJob jobId).1 }
    | .flushAll order => { run with log := run.log.flushAll order }
  else run

/-- The evictions from at most 100 buffers do their work, and an entry of at most half of the
limit is not refused. -/
def Serves (run : LogBufferRun) : LogBufferCall → Prop
  | .push jobId entry choices =>
      run.returned = true →
        (∀ pair ∈ (run.log.push jobId entry choices).evictions,
          pair.1.buffers.rows.length ≤ 100 → pair.2.Sparing run.pushed pair.1) ∧
        (entry.sizeBytes ≤ run.log.maxBytes / 2 → ∀ currentBytes maxBytes,
          (run.log.push jobId entry choices).result ≠
            some (.error (.bufferFull currentBytes maxBytes)))
  | .removeJob _ | .flushAll _ => True

/-- Nothing is taken out of a buffer. -/
def Spares (run : LogBufferRun) : LogBufferCall → Prop
  | .push jobId entry _ => run.returned = true → run.log.Spares jobId entry
  | .removeJob jobId => run.returned = true → run.log.buffers.find jobId = none
  | .flushAll _ => run.returned = true → run.log.buffers.rows = []

variable {run : LogBufferRun}

theorem spares_iff_exact (accounted : run.log.Accounted) (returned : run.returned = true)
    (call : LogBufferCall) : run.Spares call ↔ (run.step call).log.Exact := by
  unfold step
  rw [if_pos returned]
  cases call with
  | push jobId entry choices =>
      rw [GlobalLogBuffer.push_exact_iff accounted choices]
      exact forall_prop_of_true returned
  | removeJob jobId =>
      rw [GlobalLogBuffer.remove_job_exact_iff accounted]
      exact forall_prop_of_true returned
  | flushAll order =>
      rw [GlobalLogBuffer.flush_all_exact_iff accounted]
      exact forall_prop_of_true returned

theorem spares_serves (returned : run.returned = true) {call : LogBufferCall}
    (spares : run.Spares call) : run.Serves call := by
  cases call with
  | push jobId entry choices =>
      intro _
      obtain ⟨sparing, accepted⟩ := GlobalLogBuffer.push_spares_serves run.pushed
        choices (spares returned)
      exact ⟨fun pair member _ => sparing pair member, accepted⟩
  | removeJob | flushAll => trivial

theorem spares_step (accounted : run.log.Accounted) (returned : run.returned = true)
    {call : LogBufferCall} (spares : run.Spares call) :
    (run.step call).log.Accounted ∧ (run.step call).returned = true := by
  unfold step
  rw [if_pos returned]
  cases call with
  | push jobId entry choices => exact GlobalLogBuffer.push_spares accounted (spares returned)
  | removeJob jobId =>
      dsimp only
      rw [GlobalLogBuffer.removeJob, spares returned]
      exact ⟨accounted, returned⟩
  | flushAll order =>
      dsimp only
      rw [GlobalLogBuffer.flush_all_empty order (spares returned)]
      exact ⟨accounted, returned⟩

theorem accounted_start (config : GlobalLogBufferConfig) : (start config).log.Accounted := by
  constructor
  · exact ⟨rfl, rfl⟩
  · intro buffer member
    cases member

/-- The totals are exact after every call, and evictions and entries are served, exactly in
the runs whose calls take no entry out of a buffer. -/
theorem totals_exact_iff_spares (config : GlobalLogBufferConfig) (calls : List LogBufferCall) :
    (Always step (fun run => run.log.Exact) (start config) calls ∧
      EachMove step Serves (start config) calls) ↔
      EachMove step Spares (start config) calls := by
  apply always_and_each_move_iff_within step
    fun run => run.log.Accounted ∧ run.returned = true
  · intro run within
    exact within.1.exact
  · intro run call within spares
    exact spares_step within.1 within.2 spares
  · intro run call within
    constructor
    · intro spares
      exact ⟨(spares_iff_exact within.1 within.2 call).mp spares,
        spares_serves within.2 spares⟩
    · intro both
      exact (spares_iff_exact within.1 within.2 call).mpr both.1
  · exact ⟨accounted_start config, rfl⟩

/-- The choices of a map that keeps its rows in order and of a clock that stands. -/
def plainChoices : PushChoices :=
  let round : EvictionRound := ⟨⟨id, List.Perm.refl⟩, false⟩
  ⟨fun _ => round, fun _ => round, 0, 0⟩

/-- A job logs one line and is removed when it is done. -/
def removedJob : List LogBufferCall :=
  [.push "job-1" (.new "Test" false none 1) plainChoices, .removeJob "job-1"]

theorem removed_entry_still_counted :
    ¬(Always step (fun run => run.log.Exact) (start {}) removedJob ∧
      EachMove step Serves (start {}) removedJob) := by
  intro ⟨always, _⟩
  have final := (always_final step removedJob (start {}) always).entries
  exact absurd final (by decide)

end LogBufferRun

end HodeiJobs.Interface
