import HodeiJobs.Commands.OutboxRelay
import HodeiJobs.Library.Temporal
import HodeiJobs.Recovery.Reconciler

/-!
# Whether a dead worker's job is reassigned

Infinite runs of reconciliation passes and heartbeats. The first pass that finds a worker
takes it out of the sight of all later ones.
-/

namespace HodeiJobs.Recovery

open HodeiJobs.Commands (zerosText)
open HodeiJobs.Execution (JobId Worker WorkerId)
open HodeiJobs.Library
open HodeiJobs.Outbox (RowTexts)
open HodeiJobs.Sagas (DateTime Duration)
open HodeiJobs.Shared (WorkerState)

inductive ReconcilerMove where
  | pass (clock : PassClock)
  | heartbeat (workerId : WorkerId) (now : DateTime)

structure ReconcilerRun where
  texts : RowTexts
  config : WorkerReconcilerConfig
  start : WorkerTable
  moves : Nat → ReconcilerMove

namespace ReconcilerRun

variable (run : ReconcilerRun)

def step (workers : WorkerTable) : ReconcilerMove → WorkerTable
  | .pass clock => (reconcile run.texts run.config clock workers).workers
  | .heartbeat workerId now => workers.heartbeat now workerId

def workersAt (time : Nat) : WorkerTable := stateAt run.step run.start run.moves time

/-- The workers that a pass at this time finds. -/
def foundAt (time : Nat) (clock : PassClock) : List Worker :=
  (run.workersAt time).findUnhealthy clock.query run.config.heartbeatTimeout

/-- A pass emits `JobReassignmentRequired` for the job. -/
def Reassigns (jobId : JobId) (time : Nat) : Prop :=
  ∃ clock, run.moves time = .pass clock ∧
    ∃ event ∈ (reconcile run.texts run.config clock (run.workersAt time)).emitted,
      event.eventType = "JobReassignmentRequired" ∧ event.aggregateId = jobId.uuid

/-- The heartbeat is older than the grace period. -/
def Dead (beat now : DateTime) : Prop :=
  (run.config.workerDeadGracePeriod.nanos : Int) < (now - beat) * 1000

/-- A job whose worker sends no more heartbeats is reassigned, if passes keep being made
after the grace period. -/
def ReassignsDead : Prop :=
  ∀ first worker jobId beat, (run.workersAt first).find worker.id = some worker →
    worker.currentJobId = some jobId → worker.lastHeartbeat = some beat →
      (∀ time now, first ≤ time → run.moves time ≠ .heartbeat worker.id now) →
        Recurs (fun time => ∃ clock, run.moves time = .pass clock ∧ run.Dead beat clock.query) →
          ∃ time, run.Reassigns jobId time

/-- No pass terminates a worker before the grace period is over. -/
def TerminatesDead : Prop :=
  ∀ time clock workerId before after, run.moves time = .pass clock →
    (run.workersAt time).find workerId = some before → before.state ≠ .terminated →
      (run.workersAt (time + 1)).find workerId = some after → after.state = .terminated →
        ∃ beat, before.lastHeartbeat = some beat ∧ run.Dead beat (clock.worker workerId)

/-- Every worker that a pass finds is stale for longer, in whole seconds, than the grace
period. -/
def FindsDead : Prop :=
  ∀ time clock, run.moves time = .pass clock → ∀ worker ∈ run.foundAt time clock,
    asSecs run.config.workerDeadGracePeriod <
      asSecs (calculateHeartbeatAge worker (clock.worker worker.id))

/-- No worker with a job is terminated to begin with. -/
def JobsAlive : Prop :=
  ∀ worker ∈ run.start.rows, worker.currentJobId ≠ none → worker.state ≠ .terminated

variable {run}

theorem workers_at_pass {time : Nat} {clock : PassClock} (isPass : run.moves time = .pass clock) :
    run.workersAt (time + 1) =
      (reconcile run.texts run.config clock (run.workersAt time)).workers := by
  rw [workersAt, stateAt, isPass]
  rfl

theorem workers_at_heartbeat {time : Nat} {workerId : WorkerId} {now : DateTime}
    (isBeat : run.moves time = .heartbeat workerId now) :
    run.workersAt (time + 1) = (run.workersAt time).heartbeat now workerId := by
  rw [workersAt, stateAt, isBeat]
  rfl

/-- A pass that finds a worker with a job emits the reassignment. -/
theorem reassigns_of_found (finds : run.FindsDead) {time : Nat} {clock : PassClock}
    (isPass : run.moves time = .pass clock) {worker : Worker} {jobId : JobId}
    (found : worker ∈ run.foundAt time clock) (holds : worker.currentJobId = some jobId) :
    run.Reassigns jobId time := by
  refine ⟨clock, isPass, _, Reconciliation.reassigned_foldl found _ holds
    (finds time clock isPass worker found), rfl, rfl⟩

/-- What a move does to a row: a pass may terminate it, a heartbeat may renew it. -/
theorem row_before {time : Nat} {workerId : WorkerId} {after : Worker}
    (stored : (run.workersAt (time + 1)).find workerId = some after) :
    ∃ before, (run.workersAt time).find workerId = some before ∧
      before.currentJobId = after.currentJobId ∧
      ((before.state = after.state ∧
          ((∀ now, run.moves time ≠ .heartbeat workerId now) →
            before.lastHeartbeat = after.lastHeartbeat)) ∨
        ∃ clock, run.moves time = .pass clock ∧ before ∈ run.foundAt time clock) := by
  cases move : run.moves time with
  | pass clock =>
      rw [workers_at_pass move, find_reconcile] at stored
      split_ifs at stored with listed
      · obtain ⟨worker, found, own⟩ := List.mem_map.mp listed
        have isBefore := (mem_find_unhealthy found).1
        rw [own] at isBefore
        rw [isBefore, Option.map_some, Option.some.injEq] at stored
        subst stored
        exact ⟨worker, isBefore, rfl, .inr ⟨clock, rfl, found⟩⟩
      · exact ⟨after, stored, rfl, .inl ⟨rfl, fun _ => rfl⟩⟩
  | heartbeat other now =>
      rw [workers_at_heartbeat move, WorkerTable.heartbeat, Table.find_update] at stored
      split_ifs at stored with same
      · obtain ⟨before, isBefore, changed⟩ := Option.map_eq_some_iff.mp stored
        subst changed
        refine ⟨before, isBefore, rfl, .inl ⟨rfl, ?_⟩⟩
        intro silent
        exact absurd (by rw [same]) (silent now)
      · exact ⟨after, stored, rfl, .inl ⟨rfl, fun _ => rfl⟩⟩

/-- A terminated worker has lost its job by a reassignment. -/
theorem alive_or_reassigned (finds : run.FindsDead) (alive : run.JobsAlive) {jobId : JobId}
    (time : Nat) {workerId : WorkerId} {worker : Worker}
    (stored : (run.workersAt time).find workerId = some worker)
    (holds : worker.currentJobId = some jobId) :
    worker.state ≠ .terminated ∨ ∃ earlier, run.Reassigns jobId earlier := by
  induction time generalizing worker with
  | zero =>
      left
      apply alive worker (List.mem_of_find?_eq_some stored)
      rw [holds]
      exact Option.some_ne_none jobId
  | succ time ih =>
      obtain ⟨before, isBefore, sameJob, kept | ⟨clock, isPass, found⟩⟩ := row_before stored
      · rw [← kept.1]
        exact ih isBefore (sameJob.trans holds)
      · exact .inr ⟨time, reassigns_of_found finds isPass found (sameJob.trans holds)⟩

/-- The number of workers that are not terminated. -/
def aliveAt (run : ReconcilerRun) (time : Nat) : Nat :=
  (run.workersAt time).rows.countP fun worker => decide (worker.state ≠ .terminated)

theorem alive_at_pass {time : Nat} {clock : PassClock} (isPass : run.moves time = .pass clock) :
    run.aliveAt (time + 1) + (run.foundAt time clock).length = run.aliveAt time := by
  rw [aliveAt, workers_at_pass isPass]
  exact count_reconcile

theorem alive_at_never_grows (time : Nat) : run.aliveAt (time + 1) ≤ run.aliveAt time := by
  cases move : run.moves time with
  | pass clock =>
      have counted := alive_at_pass move
      omega
  | heartbeat workerId now =>
      rw [aliveAt, workers_at_heartbeat move]
      exact Nat.le_of_eq (Table.count_update_of_keeps _ workerId _ _ _ fun _ => rfl)

/-- The row of a worker that sends no more heartbeats. -/
theorem silent_row {first : Nat} {worker : Worker} {jobId : JobId}
    (stored : (run.workersAt first).find worker.id = some worker)
    (holds : worker.currentJobId = some jobId)
    (silent : ∀ time now, first ≤ time → run.moves time ≠ .heartbeat worker.id now) (gap : Nat) :
    ∃ row, (run.workersAt (first + gap)).find worker.id = some row ∧
      row.currentJobId = some jobId ∧ row.lastHeartbeat = worker.lastHeartbeat := by
  induction gap with
  | zero => exact ⟨worker, stored, holds, rfl⟩
  | succ gap ih =>
      obtain ⟨row, isRow, sameJob, sameBeat⟩ := ih
      cases move : run.moves (first + gap) with
      | pass clock =>
          rw [← Nat.add_assoc, workers_at_pass move, find_reconcile, isRow]
          split_ifs
          · exact ⟨_, rfl, sameJob, sameBeat⟩
          · exact ⟨row, rfl, sameJob, sameBeat⟩
      | heartbeat other now =>
          have different : worker.id ≠ other := by
            intro same
            exact silent (first + gap) now (by omega) (by rw [same]; exact move)
          rw [← Nat.add_assoc, workers_at_heartbeat move, WorkerTable.heartbeat,
            Table.find_update, if_neg different]
          exact ⟨row, isRow, sameJob, sameBeat⟩

/-- The detection threshold lies within the grace period. -/
theorem unhealthy_of_dead
    (within : run.config.heartbeatTimeout.nanos ≤ run.config.workerDeadGracePeriod.nanos)
    {worker : Worker} {beat now : DateTime} (beats : worker.lastHeartbeat = some beat)
    (dead : run.Dead beat now) (active : worker.state ≠ .terminated) :
    WorkerTable.unhealthy now run.config.heartbeatTimeout worker = true := by
  have cast := as_i64_le (asSecs run.config.heartbeatTimeout)
  have stale : beat < now - asI64 (asSecs run.config.heartbeatTimeout) * 1000000 := by
    unfold Dead at dead
    unfold asSecs at cast ⊢
    apply Int.lt_sub_right_of_add_lt
    omega
  simp [WorkerTable.unhealthy, beats, stale, active]

theorem reassigns_dead (finds : run.FindsDead) (alive : run.JobsAlive)
    (within : run.config.heartbeatTimeout.nanos ≤ run.config.workerDeadGracePeriod.nanos) :
    run.ReassignsDead := by
  intro first worker jobId beat stored holds beats silent recurs
  by_contra! never
  have lowered : ∀ time, first ≤ time →
      (∃ clock, run.moves time = .pass clock ∧ run.Dead beat clock.query) → ¬False →
        run.aliveAt (time + 1) < run.aliveAt time := by
    intro time inside ⟨clock, isPass, dead⟩ _
    obtain ⟨row, isRow, sameJob, sameBeat⟩ := silent_row stored holds silent (time - first)
    rw [Nat.add_sub_cancel' inside] at isRow
    have own := Table.find_some_key isRow
    have active : row.state ≠ .terminated := by
      rcases alive_or_reassigned finds alive time isRow sameJob with active | ⟨earlier, reassigns⟩
      · exact active
      · exact absurd reassigns (never earlier)
    have stale := unhealthy_of_dead within (sameBeat.trans beats) dead active
    rw [← own] at isRow
    have counted := alive_at_pass isPass
    rcases found_or_full isRow stale with found | full
    · exact absurd (reassigns_of_found finds isPass found sameJob) (never time)
    · have length : (run.foundAt time clock).length = 100 := full
      omega
  obtain ⟨time, -, reached⟩ := reaches_of_rank run.aliveAt first
    (fun time _ _ => alive_at_never_grows time) lowered recurs
  exact reached

theorem terminates_dead (finds : run.FindsDead) : run.TerminatesDead := by
  intro time clock workerId before after isPass stored active storedAfter terminated
  rw [workers_at_pass isPass, find_reconcile] at storedAfter
  split_ifs at storedAfter with listed
  · obtain ⟨worker, found, own⟩ := List.mem_map.mp listed
    have isBefore := (mem_find_unhealthy found).1
    obtain ⟨beat, beats⟩ := beat_of_found found
    have dead := finds time clock isPass worker found
    rw [own, stored, Option.some.injEq] at isBefore
    subst isBefore
    refine ⟨beat, beats, ?_⟩
    unfold asSecs calculateHeartbeatAge at dead
    unfold Dead
    rw [beats, own] at dead
    dsimp only [Option.getD_some] at dead
    omega
  · rw [stored, Option.some.injEq] at storedAfter
    subst storedAfter
    exact absurd terminated active

/-- A pass reassigns the job of every worker that stays silent, and no pass terminates a
worker too early, in the runs in which the passes find a worker only after its grace period. -/
theorem reconciles_when_it_finds_the_dead
    (within : run.config.heartbeatTimeout.nanos ≤ run.config.workerDeadGracePeriod.nanos)
    (alive : run.JobsAlive) (finds : run.FindsDead) : run.ReassignsDead ∧ run.TerminatesDead :=
  ⟨reassigns_dead finds alive within, terminates_dead finds⟩

/-- A worker that has sent its last heartbeat at time zero. -/
def silentWorker (state : WorkerState) (updatedAt : DateTime) : Worker where
  id := ⟨1⟩
  state := state
  currentJobId := some ⟨7⟩
  lastHeartbeat := some 0
  createdAt := 0
  updatedAt := updatedAt

def passAt (seconds : Int) : ReconcilerMove :=
  .pass ⟨seconds * 1000000, fun _ => seconds * 1000000⟩

/-- One pass after the other, a second apart. -/
def passesFrom (first : Int) : ReconcilerRun where
  texts := ⟨zerosText, fun _ => ""⟩
  config := .default
  start := ⟨[silentWorker .busy 0], List.nodup_singleton _⟩
  moves time := passAt (first + time)

/-- The first pass finds the worker, and no other one does. -/
theorem workers_after_passes {first : Int}
    (finds : (passesFrom first).workersAt 1 =
      ⟨[silentWorker .terminated (first * 1000000)], List.nodup_singleton _⟩) (time : Nat) :
    (passesFrom first).workersAt (time + 1) =
      ⟨[silentWorker .terminated (first * 1000000)], List.nodup_singleton _⟩ := by
  induction time with
  | zero => exact finds
  | succ time ih =>
      have isPass : (passesFrom first).moves (time + 1) = passAt (first + (time + 1 : Nat)) := rfl
      rw [workers_at_pass isPass, ih, reconcile_of_terminated]
      intro worker member
      rw [List.mem_singleton.mp member]
      rfl

theorem terminated_after_passes {first : Int}
    (finds : (passesFrom first).workersAt 1 =
      ⟨[silentWorker .terminated (first * 1000000)], List.nodup_singleton _⟩) (time : Nat)
    (worker : Worker) (member : worker ∈ ((passesFrom first).workersAt (time + 1)).rows) :
    worker.state = .terminated := by
  rw [workers_after_passes finds] at member
  rw [List.mem_singleton.mp member]
  rfl

theorem passes_after_the_grace_period :
    (passesFrom 200).ReassignsDead ∧ (passesFrom 200).TerminatesDead := by
  apply reconciles_when_it_finds_the_dead
  · decide
  · intro worker member _
    rw [List.mem_singleton.mp member]
    decide
  · intro time clock isPass worker found
    cases time with
    | zero =>
        cases isPass
        rw [List.mem_singleton.mp found]
        decide
    | succ time =>
        obtain ⟨stored, active⟩ := mem_find_unhealthy found
        exact absurd (terminated_after_passes rfl time worker (List.mem_of_find?_eq_some stored))
          active

theorem early_pass_hides_a_dead_worker :
    (passesFrom 61).config.heartbeatTimeout.nanos ≤
        (passesFrom 61).config.workerDeadGracePeriod.nanos ∧
      (passesFrom 61).JobsAlive ∧ ¬(passesFrom 61).ReassignsDead ∧
        ¬(passesFrom 61).TerminatesDead := by
  refine ⟨by decide, ?_, ?_, ?_⟩
  · intro worker member _
    rw [List.mem_singleton.mp member]
    decide
  · intro reassigns
    obtain ⟨time, clock, isPass, event, emitted, type, -⟩ :=
      reassigns 0 (silentWorker .busy 0) ⟨7⟩ 0 rfl rfl rfl (fun time now _ => nofun) (by
        intro time
        refine ⟨time + 120, by omega, _, rfl, ?_⟩
        unfold Dead
        dsimp [passesFrom, WorkerReconcilerConfig.default, Duration.fromSecs]
        omega)
    cases time with
    | zero =>
        cases isPass
        have types : ∀ event ∈ (reconcile (passesFrom 61).texts (passesFrom 61).config
            ⟨61 * 1000000, fun _ => 61 * 1000000⟩ (passesFrom 61).start).emitted,
            event.eventType ≠ "JobReassignmentRequired" := by
          decide
        exact types event emitted type
    | succ time =>
        rw [reconcile_of_terminated (terminated_after_passes rfl time)] at emitted
        cases emitted
  · intro terminates
    obtain ⟨beat, beats, dead⟩ := terminates 0 _ ⟨1⟩ (silentWorker .busy 0)
      (silentWorker .terminated (61 * 1000000)) rfl rfl (by decide) rfl rfl
    cases beats
    unfold Dead at dead
    exact absurd dead (by decide)

end ReconcilerRun

end HodeiJobs.Recovery
