import HodeiJobs.Library.Casts
import HodeiJobs.Library.Measure
import HodeiJobs.Outbox.Emission

/-!
# The worker reconciler

`WorkerReconciler::reconcile` over `PostgresWorkerRegistry`, when no call fails. A pass has
the time of its query and one time for each worker that it handles.
-/

namespace HodeiJobs.Recovery

open HodeiJobs.Execution (JobId Worker WorkerId)
open HodeiJobs.Library
open HodeiJobs.Outbox (OutboxEventInsert RowTexts timestamp)
open HodeiJobs.Sagas (DateTime Duration)
open HodeiJobs.Shared (WorkerState)

/-- `Duration::as_secs`. -/
def asSecs (duration : Duration) : Nat := duration.nanos / 1000000000

/-! ## The registry -/

abbrev WorkerTable := Table Worker.id

namespace WorkerTable

/-- The `WHERE` clause of `find_unhealthy`. `TERMINATING` is a state that no worker is given
any more. -/
def unhealthy (now : DateTime) (timeout : Duration) (worker : Worker) : Bool :=
  worker.lastHeartbeat.any (fun beat => beat < now - asI64 (asSecs timeout) * 1000000) &&
    decide (worker.state ≠ .terminated)

/-- `ORDER BY last_heartbeat ASC`. -/
def staler (worker other : Worker) : Prop :=
  worker.lastHeartbeat.all fun beat => other.lastHeartbeat.all fun later => beat ≤ later

instance : DecidableRel staler := fun _ _ => inferInstanceAs (Decidable (_ = true))

def findUnhealthy (workers : WorkerTable) (now : DateTime) (timeout : Duration) : List Worker :=
  workers.query (unhealthy now timeout) staler 100

theorem id_of_state (now : DateTime) (state : WorkerState) (worker : Worker) :
    { worker with state := state, updatedAt := now }.id = worker.id := rfl

/-- `UPDATE workers SET state = $1, updated_at = NOW() WHERE id = $2`. -/
def updateState (workers : WorkerTable) (now : DateTime) (workerId : WorkerId)
    (state : WorkerState) : WorkerTable :=
  workers.update workerId (fun worker => { worker with state := state, updatedAt := now })
    (id_of_state now state)

/-- `UPDATE workers SET last_heartbeat = NOW(), updated_at = NOW() WHERE id = $1`. -/
def heartbeat (workers : WorkerTable) (now : DateTime) (workerId : WorkerId) : WorkerTable :=
  workers.update workerId
    (fun worker => { worker with lastHeartbeat := some now, updatedAt := now }) fun _ => rfl

end WorkerTable

/-! ## The reconciler -/

structure WorkerReconcilerConfig where
  heartbeatTimeout : Duration
  workerDeadGracePeriod : Duration

def WorkerReconcilerConfig.default : WorkerReconcilerConfig where
  heartbeatTimeout := .fromSecs 60
  workerDeadGracePeriod := .fromSecs 120

structure ReconciliationResult where
  staleWorkers : List WorkerId
  workersMarkedUnhealthy : List WorkerId
  affectedJobs : List JobId
  jobsRequiringReassignment : List JobId

def ReconciliationResult.default : ReconciliationResult := ⟨[], [], [], []⟩

/-- The age of the last heartbeat; of one that lies ahead it is zero. -/
def calculateHeartbeatAge (worker : Worker) (now : DateTime) : Duration :=
  ⟨(now - worker.lastHeartbeat.getD now).toNat * 1000⟩

namespace WorkerReconciler

variable (texts : RowTexts)

def emitHeartbeatMissed (worker : Worker) (jobId : JobId) (now : DateTime) : OutboxEventInsert :=
  .forWorker worker.id.uuid "WorkerHeartbeatMissed"
    [("worker_id", texts.uuid worker.id.uuid), ("last_heartbeat", texts.time worker.updatedAt),
      ("current_job_id", texts.uuid jobId.uuid), ("detected_at", texts.time now)]
    [("source", .string "WorkerReconciler"), ("reconciliation_run", .bool true)]
    ("heartbeat-missed-" ++ texts.uuids.display worker.id.uuid ++ "-" ++ toString (timestamp now))

def emitJobReassignmentRequired (worker : Worker) (jobId : JobId) (now : DateTime) :
    OutboxEventInsert :=
  .forJob jobId.uuid "JobReassignmentRequired"
    [("job_id", texts.uuid jobId.uuid), ("failed_worker_id", texts.uuid worker.id.uuid),
      ("reason", .string "worker_heartbeat_timeout"), ("occurred_at", texts.time now)]
    [("source", .string "WorkerReconciler"), ("reconciliation_run", .bool true),
      ("worker_last_heartbeat", texts.time worker.updatedAt)]
    ("job-reassign-" ++ texts.uuids.display jobId.uuid ++ "-" ++ toString (timestamp now))

def emitStatusChanged (workerId : WorkerId) (oldState newState : WorkerState) (reason : String)
    (now : DateTime) : OutboxEventInsert :=
  .forWorker workerId.uuid "WorkerStatusChanged"
    [("worker_id", texts.uuid workerId.uuid), ("old_status", .string oldState.debug),
      ("new_status", .string newState.debug), ("reason", .string reason),
      ("occurred_at", texts.time now)]
    [("source", .string "WorkerReconciler"), ("transition_reason", .string reason)]
    ("worker-status-" ++ texts.uuids.display workerId.uuid ++ "-" ++ newState.debug ++ "-" ++
      toString (timestamp now))

end WorkerReconciler

/-- The clock reads of a pass. -/
structure PassClock where
  query : DateTime
  worker : WorkerId → DateTime

/-- What a pass has done so far: the registry, its result and the rows given to the outbox. -/
structure Reconciliation where
  workers : WorkerTable
  result : ReconciliationResult
  emitted : List OutboxEventInsert

namespace Reconciliation

variable (texts : RowTexts) (config : WorkerReconcilerConfig)

/-- The first half of the loop's body. -/
def reportJob (worker : Worker) (now : DateTime) (pass : Reconciliation) : Reconciliation :=
  let staleSeconds := asSecs (calculateHeartbeatAge worker now)
  let result := { pass.result with staleWorkers := pass.result.staleWorkers ++ [worker.id] }
  match worker.currentJobId with
  | some jobId =>
      let result := { result with affectedJobs := result.affectedJobs ++ [jobId] }
      let emitted := pass.emitted ++ [WorkerReconciler.emitHeartbeatMissed texts worker jobId now]
      if asSecs config.workerDeadGracePeriod < staleSeconds then
        { pass with
          result := { result with
            jobsRequiringReassignment := result.jobsRequiringReassignment ++ [jobId] }
          emitted := emitted ++
            [WorkerReconciler.emitJobReassignmentRequired texts worker jobId now] }
      else { pass with result := result, emitted := emitted }
  | none => { pass with result := result }

/-- The second half. -/
def terminate (worker : Worker) (now : DateTime) (pass : Reconciliation) : Reconciliation :=
  if worker.state ≠ .terminated then
    { workers := pass.workers.updateState now worker.id .terminated
      result := { pass.result with
        workersMarkedUnhealthy := pass.result.workersMarkedUnhealthy ++ [worker.id] }
      emitted := pass.emitted ++
        [WorkerReconciler.emitStatusChanged texts worker.id worker.state .terminated
          "heartbeat_timeout" now] }
  else pass

/-- The body of the loop. -/
def handleWorker (clock : PassClock) (pass : Reconciliation) (worker : Worker) :
    Reconciliation :=
  (pass.reportJob texts config worker (clock.worker worker.id)).terminate texts worker
    (clock.worker worker.id)

end Reconciliation

def reconcile (texts : RowTexts) (config : WorkerReconcilerConfig) (clock : PassClock)
    (workers : WorkerTable) : Reconciliation :=
  (workers.findUnhealthy clock.query config.heartbeatTimeout).foldl
    (Reconciliation.handleWorker texts config clock) ⟨workers, .default, []⟩

/-! ## What a pass does -/

section

variable {texts : RowTexts} {config : WorkerReconcilerConfig} {clock : PassClock}
  {workers : WorkerTable}

/-- The row of a worker that the pass has found. -/
def terminatedRow (clock : PassClock) (workerId : WorkerId) (worker : Worker) : Worker :=
  { worker with state := .terminated, updatedAt := clock.worker workerId }

theorem mem_find_unhealthy {now : DateTime} {timeout : Duration} {worker : Worker}
    (found : worker ∈ workers.findUnhealthy now timeout) :
    workers.find worker.id = some worker ∧ worker.state ≠ .terminated := by
  have satisfies := (Table.of_mem_query found).2
  constructor
  · exact Table.find_of_mem_query found
  · simp only [WorkerTable.unhealthy, Bool.and_eq_true, decide_eq_true_eq] at satisfies
    exact satisfies.2

theorem beat_of_found {now : DateTime} {timeout : Duration} {worker : Worker}
    (found : worker ∈ workers.findUnhealthy now timeout) : ∃ beat, worker.lastHeartbeat = some beat := by
  have satisfies := (Table.of_mem_query found).2
  cases beats : worker.lastHeartbeat with
  | none => simp [WorkerTable.unhealthy, beats] at satisfies
  | some beat => exact ⟨beat, rfl⟩

theorem nodup_find_unhealthy (workers : WorkerTable) (now : DateTime) (timeout : Duration) :
    ((workers.findUnhealthy now timeout).map Worker.id).Nodup :=
  Table.nodup_query workers _ _ 100

namespace Reconciliation

theorem workers_handle_worker (pass : Reconciliation) {worker : Worker}
    (active : worker.state ≠ .terminated) :
    (pass.handleWorker texts config clock worker).workers =
      pass.workers.update worker.id (terminatedRow clock worker.id) fun _ => rfl := by
  have kept : (pass.reportJob texts config worker (clock.worker worker.id)).workers =
      pass.workers := by
    unfold reportJob
    cases worker.currentJobId with
    | none => rfl
    | some jobId =>
        dsimp only
        split_ifs <;> rfl
  rw [handleWorker, terminate, if_pos active, kept]
  rfl

theorem workers_foldl (found : List Worker) (active : ∀ worker ∈ found, worker.state ≠ .terminated)
    (pass : Reconciliation) :
    (found.foldl (handleWorker texts config clock) pass).workers =
      pass.workers.updateEach (found.map Worker.id) (terminatedRow clock) fun _ _ => rfl := by
  induction found generalizing pass with
  | nil => rfl
  | cons worker rest ih =>
      obtain ⟨first, others⟩ := List.forall_mem_cons.mp active
      rw [List.foldl_cons, ih others, workers_handle_worker pass first]
      rfl

theorem emitted_handle_worker (pass : Reconciliation) (worker : Worker) :
    pass.emitted ⊆ (pass.handleWorker texts config clock worker).emitted := by
  have reported : pass.emitted ⊆
      (pass.reportJob texts config worker (clock.worker worker.id)).emitted := by
    intro event member
    unfold reportJob
    cases worker.currentJobId with
    | none => exact member
    | some jobId =>
        dsimp only
        split_ifs <;> simp [member]
  intro event member
  unfold handleWorker terminate
  split_ifs
  · exact List.mem_append_left _ (reported member)
  · exact reported member

theorem emitted_foldl (found : List Worker) (pass : Reconciliation) :
    pass.emitted ⊆ (found.foldl (handleWorker texts config clock) pass).emitted := by
  induction found generalizing pass with
  | nil => exact List.Subset.refl _
  | cons worker rest ih => exact List.Subset.trans (emitted_handle_worker pass worker) (ih _)

/-- A worker that is stale for longer than the grace period loses its job. -/
theorem reassigned_handle_worker (pass : Reconciliation) {worker : Worker} {jobId : JobId}
    (holds : worker.currentJobId = some jobId)
    (dead : asSecs config.workerDeadGracePeriod <
      asSecs (calculateHeartbeatAge worker (clock.worker worker.id))) :
    WorkerReconciler.emitJobReassignmentRequired texts worker jobId (clock.worker worker.id) ∈
      (pass.handleWorker texts config clock worker).emitted := by
  have reported : WorkerReconciler.emitJobReassignmentRequired texts worker jobId
      (clock.worker worker.id) ∈
        (pass.reportJob texts config worker (clock.worker worker.id)).emitted := by
    simp [reportJob, holds, dead]
  unfold handleWorker terminate
  split_ifs
  · exact List.mem_append_left _ reported
  · exact reported

theorem reassigned_foldl {found : List Worker} {worker : Worker} (member : worker ∈ found)
    (pass : Reconciliation) {jobId : JobId} (holds : worker.currentJobId = some jobId)
    (dead : asSecs config.workerDeadGracePeriod <
      asSecs (calculateHeartbeatAge worker (clock.worker worker.id))) :
    WorkerReconciler.emitJobReassignmentRequired texts worker jobId (clock.worker worker.id) ∈
      (found.foldl (handleWorker texts config clock) pass).emitted := by
  obtain ⟨before, after, split⟩ := List.append_of_mem member
  rw [split, List.foldl_append, List.foldl_cons]
  exact emitted_foldl after _ (reassigned_handle_worker _ holds dead)

end Reconciliation

/-- The pass terminates the workers it has found and leaves the others alone. -/
theorem find_reconcile (workerId : WorkerId) :
    (reconcile texts config clock workers).workers.find workerId =
      if workerId ∈ (workers.findUnhealthy clock.query config.heartbeatTimeout).map Worker.id then
        (workers.find workerId).map (terminatedRow clock workerId)
      else workers.find workerId := by
  rw [reconcile, Reconciliation.workers_foldl _ fun worker found => (mem_find_unhealthy found).2]
  exact Table.find_update_each _ workers (terminatedRow clock) (fun _ _ => rfl)
    (nodup_find_unhealthy workers _ _) workerId

/-- The number of workers that are not terminated sinks by those it has found. -/
theorem count_reconcile :
    (reconcile texts config clock workers).workers.rows.countP
        (fun worker => decide (worker.state ≠ .terminated)) +
      (workers.findUnhealthy clock.query config.heartbeatTimeout).length =
        workers.rows.countP fun worker => decide (worker.state ≠ .terminated) := by
  rw [reconcile, Reconciliation.workers_foldl _ fun worker found => (mem_find_unhealthy found).2]
  have counted := Table.count_update_each_of_leaves
    ((workers.findUnhealthy clock.query config.heartbeatTimeout).map Worker.id) workers
    (terminatedRow clock) (fun _ _ => rfl) (fun worker => decide (worker.state ≠ .terminated))
    (nodup_find_unhealthy _ _ _) (by
      intro workerId listed
      obtain ⟨worker, found, own⟩ := List.mem_map.mp listed
      obtain ⟨stored, active⟩ := mem_find_unhealthy found
      subst own
      exact ⟨worker, stored, decide_eq_true active, rfl⟩)
  rw [List.length_map] at counted
  exact counted

/-- A terminated worker is not seen any more. -/
theorem reconcile_of_terminated
    (terminated : ∀ worker ∈ workers.rows, worker.state = .terminated) :
    reconcile texts config clock workers = ⟨workers, .default, []⟩ := by
  have nothing : workers.findUnhealthy clock.query config.heartbeatTimeout = [] := by
    rw [List.eq_nil_iff_forall_not_mem]
    intro worker found
    obtain ⟨stored, active⟩ := mem_find_unhealthy found
    exact active (terminated worker (List.mem_of_find?_eq_some stored))
  rw [reconcile, nothing]
  rfl

/-- A worker that is stale is found, or a hundred others are. -/
theorem found_or_full {now : DateTime} {timeout : Duration} {worker : Worker}
    (stored : workers.find worker.id = some worker)
    (stale : WorkerTable.unhealthy now timeout worker = true) :
    worker ∈ workers.findUnhealthy now timeout ∨
      (workers.findUnhealthy now timeout).length = 100 := by
  have member := List.mem_of_find?_eq_some stored
  by_cases room : workers.rows.countP (WorkerTable.unhealthy now timeout) ≤ 100
  · exact .inl (Table.mem_query_of_room member stale room)
  · right
    rw [WorkerTable.findUnhealthy, Table.length_query]
    omega

end

end HodeiJobs.Recovery
