import Mathlib.Algebra.Group.Nat.Defs
import HodeiJobs.Library.Runs
import HodeiJobs.Provisioning.WorkerProvisioning

/-!
# The worker supervisor

The actor that owns the registry of workers and their channels: its messages, and the check for
heartbeats that have failed to come. The check looks at heartbeats only, not at what it has found
before.
-/

namespace HodeiJobs.Supervision

open HodeiJobs.Dispatch (ProviderId)
open HodeiJobs.Execution (WorkerId)
open HodeiJobs.Library
open HodeiJobs.Provisioning (WorkerHandle WorkerSpec)
open HodeiJobs.Sagas (Duration)
open HodeiJobs.Shared (WorkerState)

/-- Nanoseconds. -/
abbrev Time := Int

inductive SupervisorError where
  | workerNotFound (workerId : WorkerId)
  | workerAlreadyRegistered (workerId : WorkerId)
  | channelClosed (workerId : WorkerId)

structure WorkerActorState where
  workerId : WorkerId
  providerId : ProviderId
  handle : WorkerHandle
  spec : WorkerSpec
  status : WorkerState
  sessionId : String
  registeredAt : Time
  lastHeartbeat : Option Time

inductive WorkerMsg where
  | runJob (jobId command : String) (args : List String) (env : List (String × String))
  | terminate (reason : String)
  | updateStatus (status : WorkerState)
  | ping

inductive DisconnectionReason where
  | gracefulTermination
  | heartbeatTimeout
  | networkError
  | workerCrash
  | reboot
  | unknown

/-- The sender of a worker's channel, by its number. -/
structure WorkerChannel where
  workerId : WorkerId
  sender : Nat

inductive SupervisorMsg where
  | register (workerId : WorkerId) (providerId : ProviderId) (handle : WorkerHandle)
    (spec : WorkerSpec)
  | unregister (workerId : WorkerId)
  | workerDisconnected (workerId : WorkerId) (reason : DisconnectionReason)
  | heartbeat (workerId : WorkerId)
  | sendToWorker (workerId : WorkerId) (message : WorkerMsg)
  | getWorker (workerId : WorkerId)
  | listWorkers (filter : Option WorkerState)
  | getWorkerStats
  | setWorkerChannel (workerId : WorkerId) (sender : Nat)
  | shutdown

structure WorkerStats where
  total : Nat
  byStatus : WorkerState → Nat

def WorkerStats.increment (stats : WorkerStats) (status : WorkerState) : WorkerStats where
  total := stats.total + 1
  byStatus := Function.update stats.byStatus status (stats.byStatus status + 1)

inductive SupervisorReply where
  | registered (result : Except SupervisorError WorkerActorState)
  | done (result : Except SupervisorError Unit)
  | worker (result : Except SupervisorError WorkerActorState)
  | workers (list : List WorkerActorState)
  | stats (stats : WorkerStats)
  | closed

structure WorkerSupervisorConfig where
  maxWorkers : Nat
  heartbeatTimeout : Duration

/-- The counters are `u64`s and wrap. -/
structure ActorState where
  registry : Table WorkerActorState.workerId
  workerChannels : Table WorkerChannel.workerId
  messagesProcessed : Nat
  registrationsCount : Nat
  disconnectionsCount : Nat
  timeoutsCount : Nat

namespace ActorState

def new : ActorState := ⟨⟨[], List.nodup_nil⟩, ⟨[], List.nodup_nil⟩, 0, 0, 0, 0⟩

/-- `get_mut` of a registered worker. -/
def updateWorker (state : ActorState) (workerId : WorkerId)
    (change : WorkerActorState → WorkerActorState)
    (keepsId : ∀ worker, (change worker).workerId = worker.workerId) : ActorState :=
  { state with registry := state.registry.update workerId change keepsId }

def handleRegister (state : ActorState) (workerId : WorkerId) (providerId : ProviderId)
    (handle : WorkerHandle) (spec : WorkerSpec) (sessionId : String) (now : Time) :
    Except SupervisorError WorkerActorState × ActorState :=
  match state.registry.find workerId with
  | some _ => (.error (.workerAlreadyRegistered workerId), state)
  | none =>
      let worker : WorkerActorState :=
        { workerId := workerId
          providerId := providerId
          handle := handle
          spec := spec
          status := .creating
          sessionId := sessionId
          registeredAt := now
          lastHeartbeat := none }
      (.ok worker,
        { state with
          registry := state.registry.upsert worker
          registrationsCount := (state.registrationsCount + 1) % 2 ^ 64 })

def handleUnregister (state : ActorState) (workerId : WorkerId) :
    Except SupervisorError Unit × ActorState :=
  let next :=
    { state with
      workerChannels := state.workerChannels.delete workerId
      registry := state.registry.delete workerId }
  match state.registry.find workerId with
  | some _ => (.ok (), next)
  | none => (.error (.workerNotFound workerId), next)

def terminated (worker : WorkerActorState) : WorkerActorState :=
  { worker with status := .terminated }

/-- The reason only goes to the log. -/
def handleDisconnect (state : ActorState) (workerId : WorkerId) (_reason : DisconnectionReason) :
    Except SupervisorError Unit × ActorState :=
  let closed := { state with workerChannels := state.workerChannels.delete workerId }
  match state.registry.find workerId with
  | some _ => (.ok (), closed.updateWorker workerId terminated fun _ => rfl)
  | none => (.error (.workerNotFound workerId), closed)

def beating (now : Time) (worker : WorkerActorState) : WorkerActorState :=
  { worker with lastHeartbeat := some now, status := .ready }

def handleHeartbeat (state : ActorState) (workerId : WorkerId) (now : Time) :
    Except SupervisorError Unit × ActorState :=
  match state.registry.find workerId with
  | some _ => (.ok (), state.updateWorker workerId (beating now) fun _ => rfl)
  | none => (.error (.workerNotFound workerId), state)

/-- `delivered`: the receiver of the channel still exists. -/
def handleSendToWorker (state : ActorState) (workerId : WorkerId) (delivered : Bool) :
    Except SupervisorError Unit :=
  match state.workerChannels.find workerId with
  | some _ => if delivered then .ok () else .error (.channelClosed workerId)
  | none => .error (.workerNotFound workerId)

def handleGetWorker (state : ActorState) (workerId : WorkerId) :
    Except SupervisorError WorkerActorState :=
  match state.registry.find workerId with
  | some worker => .ok worker
  | none => .error (.workerNotFound workerId)

def handleListWorkers (state : ActorState) (filter : Option WorkerState) : List WorkerActorState :=
  state.registry.rows.filter fun worker =>
    (filter.map fun wanted => decide (worker.status = wanted)).getD true

def handleGetStats (state : ActorState) : WorkerStats :=
  state.registry.rows.foldl (fun stats worker => stats.increment worker.status) ⟨0, fun _ => 0⟩

def ready (worker : WorkerActorState) : WorkerActorState := { worker with status := .ready }

def handleSetChannel (state : ActorState) (workerId : WorkerId) (sender : Nat) :
    Except SupervisorError Unit × ActorState :=
  match state.registry.find workerId with
  | some _ =>
      (.ok (),
        { state.updateWorker workerId ready fun _ => rfl with
          workerChannels := state.workerChannels.upsert ⟨workerId, sender⟩ })
  | none => (.error (.workerNotFound workerId), state)

def handleShutdown (state : ActorState) : ActorState :=
  { state with registry := ⟨[], List.nodup_nil⟩, workerChannels := ⟨[], List.nodup_nil⟩ }

/-- `sessionId` is the new uuid of a registration. -/
def handleMessage (counted : ActorState) (message : SupervisorMsg) (sessionId : String)
    (delivered : Bool) (now : Time) : SupervisorReply × ActorState :=
  let state := { counted with messagesProcessed := (counted.messagesProcessed + 1) % 2 ^ 64 }
  match message with
  | .register workerId providerId handle spec =>
      let (result, next) := state.handleRegister workerId providerId handle spec sessionId now
      (.registered result, next)
  | .unregister workerId =>
      let (result, next) := state.handleUnregister workerId
      (.done result, next)
  | .workerDisconnected workerId reason =>
      let (result, next) := state.handleDisconnect workerId reason
      (.done result,
        { next with disconnectionsCount := (next.disconnectionsCount + 1) % 2 ^ 64 })
  | .heartbeat workerId =>
      let (result, next) := state.handleHeartbeat workerId now
      (.done result, next)
  | .sendToWorker workerId _ => (.done (state.handleSendToWorker workerId delivered), state)
  | .getWorker workerId => (.worker (state.handleGetWorker workerId), state)
  | .listWorkers filter => (.workers (state.handleListWorkers filter), state)
  | .getWorkerStats => (.stats state.handleGetStats, state)
  | .setWorkerChannel workerId sender =>
      let (result, next) := state.handleSetChannel workerId sender
      (.done result, next)
  | .shutdown => (.closed, state.handleShutdown)

/-- `Duration::from_std`, which takes up to `i64::MAX` milliseconds, or 30 seconds. -/
def timeoutOf (config : WorkerSupervisorConfig) : Int :=
  if config.heartbeatTimeout.nanos ≤ 9223372036854775807 * 1000000 then
    config.heartbeatTimeout.nanos
  else 30 * 1000000000

def timedOut (config : WorkerSupervisorConfig) (now : Time) (worker : WorkerActorState) : Bool :=
  match worker.lastHeartbeat with
  | some lastHeartbeat => decide (now - lastHeartbeat > timeoutOf config)
  | none => false

def timedOutWorkers (state : ActorState) (config : WorkerSupervisorConfig) (now : Time) :
    List WorkerId :=
  (state.registry.rows.filter (timedOut config now)).map WorkerActorState.workerId

def checkHeartbeatTimeouts (state : ActorState) (config : WorkerSupervisorConfig) (now : Time) :
    ActorState :=
  let timedOutWorkers := state.timedOutWorkers config now
  let counted :=
    { state with timeoutsCount := (state.timeoutsCount + timedOutWorkers.length) % 2 ^ 64 }
  timedOutWorkers.foldl
    (fun state workerId => (state.handleDisconnect workerId .heartbeatTimeout).2) counted

end ActorState

/-! ## Runs -/

/-- Messages and checks, each some time after the one before. -/
inductive SupervisorMove where
  | message (waited : Nat) (message : SupervisorMsg) (sessionId : String) (delivered : Bool)
  | check (waited : Nat)

structure SupervisorRun where
  config : WorkerSupervisorConfig
  state : ActorState
  clock : Time
  /-- The workers that a check has found timed out, and that have sent no heartbeat since. -/
  silent : List WorkerId
  /-- How many workers have stopped to send heartbeats so far. -/
  silences : Nat

namespace SupervisorRun

def start (config : WorkerSupervisorConfig) (now : Time) : SupervisorRun :=
  ⟨config, .new, now, [], 0⟩

/-- Who is still silent after the message. -/
def silentAfter (silent : List WorkerId) : SupervisorMsg → List WorkerId
  | .unregister workerId | .heartbeat workerId => silent.filter fun other => other ≠ workerId
  | .shutdown => []
  | _ => silent

def step (run : SupervisorRun) : SupervisorMove → SupervisorRun
  | .message waited message sessionId delivered =>
      { run with
        state := (run.state.handleMessage message sessionId delivered (run.clock + waited)).2
        clock := run.clock + waited
        silent := silentAfter run.silent message }
  | .check waited =>
      let now := run.clock + waited
      let stopped := (run.state.timedOutWorkers run.config now).filter (· ∉ run.silent)
      { run with
        state := run.state.checkHeartbeatTimeouts run.config now
        clock := now
        silent := run.silent ++ stopped
        silences := run.silences + stopped.length }

def statusOf (run : SupervisorRun) (workerId : WorkerId) : Option WorkerState :=
  (run.state.registry.find workerId).map WorkerActorState.status

/-- A new channel, or the end of the registration. -/
def Releases (workerId : WorkerId) : SupervisorMove → Prop
  | .message _ (.unregister other) _ _ | .message _ (.setWorkerChannel other _) _ _ =>
      other = workerId
  | .message _ .shutdown _ _ => True
  | _ => False

/-- Every worker with a channel is registered, and a terminated one has none. -/
def Connected (run : SupervisorRun) : Prop :=
  ∀ workerId,
    (run.state.workerChannels.find workerId ≠ none → run.state.registry.find workerId ≠ none) ∧
    (run.statusOf workerId = some .terminated → run.state.workerChannels.find workerId = none)

/-- A terminated worker is so after the step. -/
def StaysTerminated (run : SupervisorRun) (move : SupervisorMove) : Prop :=
  ∀ workerId, run.statusOf workerId = some .terminated → ¬Releases workerId move →
    (run.step move).statusOf workerId = some .terminated

/-- Each worker that stops to send heartbeats is counted once. -/
def CountsSilences (run : SupervisorRun) : Prop :=
  run.state.timeoutsCount = run.silences % 2 ^ 64

def Bounded (run : SupervisorRun) : Prop :=
  run.state.registry.rows.length ≤ run.config.maxWorkers

/-- No heartbeat comes from a terminated worker. -/
def BeatsLive (run : SupervisorRun) : SupervisorMove → Prop
  | .message _ (.heartbeat workerId) _ _ => run.statusOf workerId ≠ some .terminated
  | _ => True

/-- No check finds a worker that an earlier one has counted, and that is silent still, unless it
finds as many of them as bring the counter round. -/
def ChecksOnce (run : SupervisorRun) : SupervisorMove → Prop
  | .check _ => 2 ^ 64 ∣ run.silent.length
  | _ => True

/-- A registration that succeeds finds room. -/
def FindsRoom (run : SupervisorRun) : SupervisorMove → Prop
  | .message _ (.register workerId _ _ _) _ _ =>
      run.state.registry.find workerId = none →
        run.state.registry.rows.length < run.config.maxWorkers
  | _ => True

/-- All that is asked of a run. -/
structure Keeps (start : SupervisorRun) (moves : List SupervisorMove) : Prop where
  connected : Always step Connected start moves
  terminated : EachMove step StaysTerminated start moves
  counted : Always step CountsSilences start moves
  bounded : Always step Bounded start moves

def Meets (run : SupervisorRun) (move : SupervisorMove) : Prop :=
  run.BeatsLive move ∧ run.ChecksOnce move ∧ run.FindsRoom move

end SupervisorRun

/-! ## What the handlers leave of a worker -/

namespace ActorState

variable {state : ActorState} {config : WorkerSupervisorConfig} {workerId other : WorkerId}
  {now : Time}

theorem find_updateWorker (change : WorkerActorState → WorkerActorState)
    (keepsId : ∀ worker, (change worker).workerId = worker.workerId) :
    (state.updateWorker workerId change keepsId).registry.find other =
      if other = workerId then (state.registry.find other).map change
      else state.registry.find other :=
  Table.find_update state.registry workerId change keepsId other

theorem find_disconnect (reason : DisconnectionReason) :
    (state.handleDisconnect workerId reason).2.registry.find other =
      if other = workerId then (state.registry.find other).map terminated
      else state.registry.find other := by
  unfold handleDisconnect
  cases found : state.registry.find workerId with
  | some worker => exact find_updateWorker terminated _
  | none =>
      split_ifs with same
      · rw [same, found]
        rfl
      · rfl

/-- Whether it finds the worker or not, `unregister` takes it out of both maps. -/
theorem after_unregister (state : ActorState) (workerId : WorkerId) :
    (state.handleUnregister workerId).2 =
      { state with
        workerChannels := state.workerChannels.delete workerId
        registry := state.registry.delete workerId } := by
  unfold handleUnregister
  cases state.registry.find workerId with
  | some worker => rfl
  | none => rfl

theorem find_unregister :
    (state.handleUnregister workerId).2.registry.find other =
      if other = workerId then none else state.registry.find other := by
  rw [after_unregister]
  exact Table.find_delete state.registry workerId other

theorem channel_disconnect (reason : DisconnectionReason) :
    (state.handleDisconnect workerId reason).2.workerChannels.find other =
      if other = workerId then none else state.workerChannels.find other := by
  unfold handleDisconnect
  cases state.registry.find workerId with
  | some worker => exact Table.find_delete _ _ _
  | none => exact Table.find_delete _ _ _

theorem length_disconnect (reason : DisconnectionReason) :
    (state.handleDisconnect workerId reason).2.registry.rows.length =
      state.registry.rows.length := by
  unfold handleDisconnect
  cases state.registry.find workerId with
  | some worker => exact List.length_map _
  | none => rfl

theorem timeouts_disconnect (reason : DisconnectionReason) :
    (state.handleDisconnect workerId reason).2.timeoutsCount = state.timeoutsCount := by
  unfold handleDisconnect
  cases state.registry.find workerId with
  | some worker => rfl
  | none => rfl

theorem find_heartbeat (now : Time) :
    (state.handleHeartbeat workerId now).2.registry.find other =
      if other = workerId then (state.registry.find other).map (beating now)
      else state.registry.find other := by
  unfold handleHeartbeat
  cases found : state.registry.find workerId with
  | some worker => exact find_updateWorker (beating now) _
  | none =>
      split_ifs with same
      · rw [same, found]
        rfl
      · rfl

theorem find_set_channel (sender : Nat) :
    (state.handleSetChannel workerId sender).2.registry.find other =
      if other = workerId then (state.registry.find other).map ready
      else state.registry.find other := by
  unfold handleSetChannel
  cases found : state.registry.find workerId with
  | some worker => exact find_updateWorker ready fun _ => rfl
  | none =>
      split_ifs with same
      · rw [same, found]
        rfl
      · rfl

/-- What a check makes of each worker, in whatever order it goes through them. -/
theorem disconnected_all (ids : List WorkerId) (state : ActorState) :
    let next := ids.foldl
      (fun state workerId => (state.handleDisconnect workerId .heartbeatTimeout).2) state
    (∀ other, next.registry.find other =
        if other ∈ ids then (state.registry.find other).map terminated
        else state.registry.find other) ∧
      (∀ other, next.workerChannels.find other =
        if other ∈ ids then none else state.workerChannels.find other) ∧
      next.registry.rows.length = state.registry.rows.length ∧
      next.timeoutsCount = state.timeoutsCount := by
  induction ids generalizing state with
  | nil => exact ⟨fun _ => rfl, fun _ => rfl, rfl, rfl⟩
  | cons first rest ih =>
      obtain ⟨found, channels, length, timeouts⟩ :=
        ih (state.handleDisconnect first .heartbeatTimeout).2
      refine ⟨?_, ?_, length.trans (length_disconnect _), timeouts.trans (timeouts_disconnect _)⟩
      · intro other
        rw [List.foldl_cons, found, find_disconnect]
        by_cases same : other = first
        · subst same
          have twice : (state.registry.find other).map (terminated ∘ terminated) =
              (state.registry.find other).map terminated := rfl
          simp [twice]
        · simp [same]
      · intro other
        rw [List.foldl_cons, channels, channel_disconnect]
        by_cases same : other = first
        · simp [same]
        · simp [same]

/-- A worker with a channel is registered, and a terminated one has none. -/
def Wired (state : ActorState) (workerId : WorkerId) : Prop :=
  (state.workerChannels.find workerId ≠ none → state.registry.find workerId ≠ none) ∧
    ((state.registry.find workerId).map WorkerActorState.status = some .terminated →
      state.workerChannels.find workerId = none)

theorem wired_register (wired : state.Wired other) (providerId : ProviderId)
    (handle : WorkerHandle) (spec : WorkerSpec) (sessionId : String) (now : Time) :
    (state.handleRegister workerId providerId handle spec sessionId now).2.Wired other := by
  unfold handleRegister
  cases found : state.registry.find workerId with
  | some worker => exact wired
  | none =>
      by_cases same : workerId = other
      · subst same
        have closed : state.workerChannels.find workerId = none := by
          by_contra isOpen
          exact wired.1 isOpen found
        exact ⟨fun isOpen => absurd closed isOpen, fun _ => closed⟩
      · unfold Wired
        dsimp only
        rw [Table.find_upsert_other _ _ same]
        exact wired

theorem wired_unregister (wired : state.Wired other) :
    (state.handleUnregister workerId).2.Wired other := by
  unfold Wired
  rw [after_unregister]
  dsimp only
  rw [Table.find_delete, Table.find_delete]
  split_ifs
  · exact ⟨fun isOpen => absurd rfl isOpen, fun _ => rfl⟩
  · exact wired

theorem wired_disconnect (wired : state.Wired other) (reason : DisconnectionReason) :
    (state.handleDisconnect workerId reason).2.Wired other := by
  unfold Wired
  rw [channel_disconnect, find_disconnect]
  split_ifs
  · exact ⟨fun isOpen => absurd rfl isOpen, fun _ => rfl⟩
  · exact wired

/-- A change that makes a worker ready. -/
theorem ready_map_ne {change : WorkerActorState → WorkerActorState}
    (isReady : ∀ worker, (change worker).status = .ready) (found : Option WorkerActorState) :
    (found.map change).map WorkerActorState.status ≠ some .terminated := by
  cases found with
  | none => exact fun none => by cases none
  | some worker =>
      intro isTerminated
      rw [Option.map_some, Option.map_some, isReady] at isTerminated
      cases isTerminated

theorem wired_heartbeat (wired : state.Wired other) (now : Time) :
    (state.handleHeartbeat workerId now).2.Wired other := by
  have sameChannels : (state.handleHeartbeat workerId now).2.workerChannels =
      state.workerChannels := by
    unfold handleHeartbeat
    cases state.registry.find workerId <;> rfl
  unfold Wired
  rw [sameChannels, find_heartbeat]
  split_ifs
  · refine ⟨?_, fun isTerminated => absurd isTerminated (ready_map_ne (fun _ => rfl) _)⟩
    exact fun isOpen => (Option.map_eq_none_iff.not).mpr (wired.1 isOpen)
  · exact wired

theorem wired_set_channel (wired : state.Wired other) (sender : Nat) :
    (state.handleSetChannel workerId sender).2.Wired other := by
  cases found : state.registry.find workerId with
  | none =>
      unfold handleSetChannel
      rw [found]
      exact wired
  | some worker =>
      have channels : (state.handleSetChannel workerId sender).2.workerChannels =
          state.workerChannels.upsert ⟨workerId, sender⟩ := by
        unfold handleSetChannel
        rw [found]
      unfold Wired
      rw [channels, find_set_channel]
      by_cases same : other = workerId
      · rw [if_pos same, same, found]
        refine ⟨fun _ => Option.some_ne_none _, ?_⟩
        exact fun isTerminated => absurd isTerminated (ready_map_ne (fun _ => rfl) (some worker))
      · rw [if_neg same, Table.find_upsert_other _ _ (Ne.symm same)]
        exact wired

/-- The state in which a message is handled. -/
abbrev counted (state : ActorState) : ActorState :=
  { state with messagesProcessed := (state.messagesProcessed + 1) % 2 ^ 64 }

theorem wired_message (wired : ∀ workerId, state.Wired workerId) (message : SupervisorMsg)
    (sessionId : String) (delivered : Bool) (now : Time) (workerId : WorkerId) :
    (state.handleMessage message sessionId delivered now).2.Wired workerId := by
  have still : state.counted.Wired workerId := wired workerId
  cases message with
  | register id providerId handle spec => exact wired_register still providerId handle spec _ _
  | unregister id => exact wired_unregister still
  | workerDisconnected id reason => exact wired_disconnect still reason
  | heartbeat id => exact wired_heartbeat still now
  | sendToWorker id message => exact still
  | getWorker id => exact still
  | listWorkers filter => exact still
  | getWorkerStats => exact still
  | setWorkerChannel id sender => exact wired_set_channel still sender
  | shutdown => exact ⟨fun isOpen => absurd rfl isOpen, fun _ => rfl⟩

/-- What a check makes of each worker. -/
theorem disconnected_by_check (state : ActorState) (config : WorkerSupervisorConfig)
    (now : Time) :
    let next := state.checkHeartbeatTimeouts config now
    let silent := state.timedOutWorkers config now
    (∀ other, next.registry.find other =
        if other ∈ silent then (state.registry.find other).map terminated
        else state.registry.find other) ∧
      (∀ other, next.workerChannels.find other =
        if other ∈ silent then none else state.workerChannels.find other) ∧
      next.registry.rows.length = state.registry.rows.length ∧
      next.timeoutsCount = (state.timeoutsCount + silent.length) % 2 ^ 64 :=
  disconnected_all (state.timedOutWorkers config now) _

theorem wired_check (wired : state.Wired workerId) (now : Time) :
    (state.checkHeartbeatTimeouts config now).Wired workerId := by
  obtain ⟨found, channels, _⟩ := disconnected_by_check state config now
  unfold Wired
  rw [channels, found]
  split_ifs
  · exact ⟨fun isOpen => absurd rfl isOpen, fun _ => rfl⟩
  · exact wired

/-! ## What a message leaves of the heartbeats and the counters -/

theorem timeouts_message (state : ActorState) (message : SupervisorMsg) (sessionId : String)
    (delivered : Bool) (now : Time) :
    (state.handleMessage message sessionId delivered now).2.timeoutsCount =
      state.timeoutsCount := by
  cases message with
  | register id providerId handle spec =>
      show (state.counted.handleRegister id providerId handle spec sessionId now).2.timeoutsCount = _
      unfold handleRegister
      cases state.counted.registry.find id <;> rfl
  | unregister id =>
      show (state.counted.handleUnregister id).2.timeoutsCount = _
      rw [after_unregister]
  | workerDisconnected id reason => exact @timeouts_disconnect state.counted id reason
  | heartbeat id =>
      show (state.counted.handleHeartbeat id now).2.timeoutsCount = _
      unfold handleHeartbeat
      cases state.counted.registry.find id <;> rfl
  | setWorkerChannel id sender =>
      show (state.counted.handleSetChannel id sender).2.timeoutsCount = _
      unfold handleSetChannel
      cases state.counted.registry.find id <;> rfl
  | sendToWorker | getWorker | listWorkers | getWorkerStats | shutdown => rfl

def heartbeatOf (state : ActorState) (workerId : WorkerId) : Option Time :=
  (state.registry.find workerId).bind WorkerActorState.lastHeartbeat

theorem heartbeat_of_map (change : WorkerActorState → WorkerActorState)
    (keeps : ∀ worker, (change worker).lastHeartbeat = worker.lastHeartbeat)
    (found : Option WorkerActorState) :
    (found.map change).bind WorkerActorState.lastHeartbeat =
      found.bind WorkerActorState.lastHeartbeat := by
  cases found with
  | none => rfl
  | some worker => exact keeps worker

/-- Of a worker that is still silent the last heartbeat stays. -/
theorem heartbeat_message {silent : List WorkerId} {message : SupervisorMsg} (sessionId : String)
    (delivered : Bool) (now : Time)
    (isSilent : other ∈ SupervisorRun.silentAfter silent message)
    (registered : state.registry.find other ≠ none) :
    (state.handleMessage message sessionId delivered now).2.heartbeatOf other =
      state.heartbeatOf other := by
  have notTarget : ∀ {id : WorkerId}, other ∈ silent.filter (fun one => decide (one ≠ id)) →
      other ≠ id := fun isIn => of_decide_eq_true (List.mem_filter.mp isIn).2
  unfold heartbeatOf
  cases message with
  | register id providerId handle spec =>
      show (Table.find (state.counted.handleRegister id providerId handle spec sessionId now).2.registry
        other).bind _ = _
      unfold handleRegister
      cases found : state.counted.registry.find id with
      | some worker => rfl
      | none =>
          have different : id ≠ other := fun same => registered (same ▸ found)
          dsimp only
          rw [Table.find_upsert_other _ _ different]
  | unregister id =>
      show (Table.find (state.counted.handleUnregister id).2.registry other).bind _ = _
      rw [find_unregister, if_neg (notTarget isSilent)]
  | workerDisconnected id reason =>
      show (Table.find (state.counted.handleDisconnect id reason).2.registry other).bind _ = _
      rw [find_disconnect]
      split_ifs
      · exact heartbeat_of_map terminated (fun _ => rfl) _
      · rfl
  | heartbeat id =>
      show (Table.find (state.counted.handleHeartbeat id now).2.registry other).bind _ = _
      rw [find_heartbeat, if_neg (notTarget isSilent)]
  | setWorkerChannel id sender =>
      show (Table.find (state.counted.handleSetChannel id sender).2.registry other).bind _ = _
      rw [find_set_channel]
      split_ifs
      · exact heartbeat_of_map ready (fun _ => rfl) _
      · rfl
  | shutdown => exact absurd isSilent List.not_mem_nil
  | sendToWorker | getWorker | listWorkers | getWorkerStats => rfl

/-- Nothing but a registration makes the registry larger. -/
theorem length_message_le {message : SupervisorMsg}
    (notNew : ∀ id providerId handle spec, message = .register id providerId handle spec →
      state.registry.find id ≠ none) (sessionId : String) (delivered : Bool) (now : Time) :
    (state.handleMessage message sessionId delivered now).2.registry.rows.length ≤
      state.registry.rows.length := by
  cases message with
  | register id providerId handle spec =>
      obtain ⟨worker, found⟩ :=
        Option.ne_none_iff_exists'.mp (notNew id providerId handle spec rfl)
      have known : state.counted.registry.find id = some worker := found
      show (state.counted.handleRegister id providerId handle spec sessionId
        now).2.registry.rows.length ≤ _
      unfold handleRegister
      rw [known]
  | unregister id =>
      show (state.counted.handleUnregister id).2.registry.rows.length ≤ _
      rw [after_unregister]
      exact List.length_filter_le _ _
  | workerDisconnected id reason => exact (@length_disconnect state.counted id reason).le
  | heartbeat id =>
      show (state.counted.handleHeartbeat id now).2.registry.rows.length ≤ _
      unfold handleHeartbeat
      cases state.counted.registry.find id with
      | some worker => exact (List.length_map _).le
      | none => exact le_refl _
  | setWorkerChannel id sender =>
      show (state.counted.handleSetChannel id sender).2.registry.rows.length ≤ _
      unfold handleSetChannel
      cases state.counted.registry.find id with
      | some worker => exact (List.length_map _).le
      | none => exact le_refl _
  | shutdown => exact Nat.zero_le _
  | sendToWorker | getWorker | listWorkers | getWorkerStats => exact le_refl _

theorem length_register {id : WorkerId} (isNew : state.registry.find id = none)
    (providerId : ProviderId) (handle : WorkerHandle) (spec : WorkerSpec) (sessionId : String)
    (delivered : Bool) (now : Time) :
    (state.handleMessage (.register id providerId handle spec) sessionId delivered
      now).2.registry.rows.length = state.registry.rows.length + 1 := by
  have unknown : state.counted.registry.find id = none := isNew
  show (state.counted.handleRegister id providerId handle spec sessionId now).2.registry.rows.length = _
  unfold handleRegister
  rw [unknown]
  dsimp only
  rw [Table.rows_upsert_of_absent _ _ ((Table.find_none_iff _ _).mp unknown), List.length_append]
  rfl

theorem mem_timed_out_iff : other ∈ state.timedOutWorkers config now ↔
    ∃ last, state.heartbeatOf other = some last ∧ now - last > timeoutOf config := by
  unfold timedOutWorkers heartbeatOf
  rw [List.mem_map]
  constructor
  · rintro ⟨worker, isTimedOut, rfl⟩
    obtain ⟨isIn, late⟩ := List.mem_filter.mp isTimedOut
    rw [Table.find_of_mem isIn, Option.bind_some]
    unfold timedOut at late
    cases beat : worker.lastHeartbeat with
    | none =>
        rw [beat] at late
        cases late
    | some last =>
        rw [beat] at late
        exact ⟨last, rfl, of_decide_eq_true late⟩
  · rintro ⟨last, beat, late⟩
    obtain ⟨worker, found, beats⟩ := Option.bind_eq_some_iff.mp beat
    refine ⟨worker, List.mem_filter.mpr ⟨List.mem_of_find?_eq_some found, ?_⟩,
      Table.find_some_key found⟩
    unfold timedOut
    rw [beats]
    exact decide_eq_true late

end ActorState

/-! ## What holds along a run -/

namespace SupervisorRun

open ActorState (Wired)

variable {run : SupervisorRun} {workerId : WorkerId}

/-- Who is silent is so for longer than the timeout, and is there once. -/
structure SilentTooLong (run : SupervisorRun) : Prop where
  late : ∀ workerId ∈ run.silent, ∃ last, run.state.heartbeatOf workerId = some last ∧
    run.clock - last > ActorState.timeoutOf run.config
  once : run.silent.Nodup

theorem connected_step (run : SupervisorRun) (move : SupervisorMove) (connected : run.Connected) :
    (run.step move).Connected := by
  have wired : ∀ workerId, run.state.Wired workerId := connected
  cases move with
  | message waited message sessionId delivered =>
      exact ActorState.wired_message wired message sessionId delivered _
  | check waited => exact fun workerId => ActorState.wired_check (wired workerId) _

theorem connected_start (config : WorkerSupervisorConfig) (now : Time) :
    (start config now).Connected :=
  fun _ => ⟨fun isOpen => absurd rfl isOpen, fun _ => rfl⟩

theorem still_late {clock last timeout : Int} (waited : Nat) (late : clock - last > timeout) :
    clock + waited - last > timeout := by omega

theorem timed_out_nodup (state : ActorState) (config : WorkerSupervisorConfig) (now : Time) :
    (state.timedOutWorkers config now).Nodup :=
  state.registry.unique.sublist (List.filter_sublist.map _)

theorem silent_once_step (run : SupervisorRun) (move : SupervisorMove)
    (once : run.silent.Nodup) : (run.step move).silent.Nodup := by
  cases move with
  | message waited message sessionId delivered =>
      show (silentAfter run.silent message).Nodup
      unfold silentAfter
      split
      · exact once.filter _
      · exact once.filter _
      · exact List.nodup_nil
      · exact once
  | check waited =>
      refine List.nodup_append.mpr ⟨once, (timed_out_nodup _ _ _).filter _, ?_⟩
      rintro workerId before _ now rfl
      exact of_decide_eq_true (List.mem_filter.mp now).2 before

theorem silent_late_step (run : SupervisorRun) (move : SupervisorMove)
    (silent : run.SilentTooLong) :
    ∀ workerId ∈ (run.step move).silent, ∃ last,
      (run.step move).state.heartbeatOf workerId = some last ∧
        (run.step move).clock - last > ActorState.timeoutOf (run.step move).config := by
  cases move with
  | message waited message sessionId delivered =>
      intro workerId isSilent
      have was : workerId ∈ run.silent := by
        cases message with
        | unregister id => exact (List.mem_filter.mp isSilent).1
        | heartbeat id => exact (List.mem_filter.mp isSilent).1
        | shutdown => exact absurd isSilent List.not_mem_nil
        | register | workerDisconnected | sendToWorker | getWorker | listWorkers
          | getWorkerStats | setWorkerChannel => exact isSilent
      obtain ⟨last, beat, late⟩ := silent.late workerId was
      have registered : run.state.registry.find workerId ≠ none := by
        intro none
        rw [ActorState.heartbeatOf, none] at beat
        cases beat
      refine ⟨last, ?_, ?_⟩
      · exact (ActorState.heartbeat_message sessionId delivered _ isSilent registered).trans beat
      · have later := still_late waited late
        exact later
  | check waited =>
      intro workerId isSilent
      have sameBeat : (run.step (.check waited)).state.heartbeatOf workerId =
          run.state.heartbeatOf workerId := by
        unfold ActorState.heartbeatOf
        show (Table.find (run.state.checkHeartbeatTimeouts run.config _).registry workerId).bind _ =
          _
        rw [(ActorState.disconnected_by_check ..).1]
        split_ifs
        · exact ActorState.heartbeat_of_map ActorState.terminated (fun _ => rfl) _
        · rfl
      rw [sameBeat]
      rcases List.mem_append.mp isSilent with before | now
      · obtain ⟨last, beat, late⟩ := silent.late workerId before
        have later := still_late waited late
        exact ⟨last, beat, later⟩
      · exact ActorState.mem_timed_out_iff.mp (List.mem_filter.mp now).1

theorem silent_step (run : SupervisorRun) (move : SupervisorMove) (silent : run.SilentTooLong) :
    (run.step move).SilentTooLong :=
  ⟨silent_late_step run move silent, silent_once_step run move silent.once⟩

/-- Every worker that is silent is found again. -/
theorem length_silent (silent : run.SilentTooLong) (waited : Nat) :
    (run.state.timedOutWorkers run.config (run.clock + waited)).length =
      ((run.state.timedOutWorkers run.config (run.clock + waited)).filter
        (· ∉ run.silent)).length + run.silent.length := by
  let found := run.state.timedOutWorkers run.config (run.clock + waited)
  have again : (found.filter (· ∈ run.silent)).Perm run.silent := by
    apply (List.perm_ext_iff_of_nodup ((timed_out_nodup _ _ _).filter _) silent.once).mpr
    intro workerId
    rw [List.mem_filter, decide_eq_true_iff]
    refine ⟨And.right, fun isSilent => ⟨?_, isSilent⟩⟩
    obtain ⟨last, beat, late⟩ := silent.late workerId isSilent
    have later := still_late waited late
    exact ActorState.mem_timed_out_iff.mpr ⟨last, beat, later⟩
  have split := List.length_eq_length_filter_add (l := found) (· ∈ run.silent)
  rw [again.length_eq] at split
  rw [Nat.add_comm]
  simpa only [decide_not] using split

theorem add_mod_eq_iff (before found extra : Nat) :
    (before % 2 ^ 64 + (found + extra)) % 2 ^ 64 = (before + found) % 2 ^ 64 ↔
      2 ^ 64 ∣ extra := by
  omega

/-! ## When each part holds -/

theorem status_of_map {change : WorkerActorState → WorkerActorState}
    {found : Option WorkerActorState} (status : WorkerState)
    (gives : ∀ worker, (change worker).status = status) (registered : found ≠ none) :
    (found.map change).map WorkerActorState.status = some status := by
  obtain ⟨worker, rfl⟩ := Option.ne_none_iff_exists'.mp registered
  exact congrArg some (gives worker)

theorem registered_of_status {found : Option WorkerActorState}
    (isTerminated : found.map WorkerActorState.status = some .terminated) : found ≠ none := by
  rintro rfl
  cases isTerminated

/-- Whatever else a message does, it leaves a terminated worker as it is. -/
theorem stays_of_other_message {state : ActorState} {message : SupervisorMsg} (waited : Nat)
    (sessionId : String) (delivered : Bool) (now : Time)
    (isTerminated : (state.registry.find workerId).map WorkerActorState.status = some .terminated)
    (kept : ¬Releases workerId (.message waited message sessionId delivered))
    (silent : message ≠ .heartbeat workerId) :
    (Table.find (state.handleMessage message sessionId delivered now).2.registry workerId).map
      WorkerActorState.status = some .terminated := by
  cases message with
  | register id providerId handle spec =>
      show (Table.find (state.counted.handleRegister id providerId handle spec sessionId now).2.registry
        workerId).map _ = _
      unfold ActorState.handleRegister
      cases found : state.counted.registry.find id with
      | some worker => exact isTerminated
      | none =>
          have different : id ≠ workerId :=
            fun same => registered_of_status isTerminated (same ▸ found)
          dsimp only
          rw [Table.find_upsert_other _ _ different]
          exact isTerminated
  | unregister id =>
      have different : workerId ≠ id := fun same => kept same.symm
      show (Table.find (state.counted.handleUnregister id).2.registry workerId).map _ = _
      rw [ActorState.find_unregister, if_neg different]
      exact isTerminated
  | workerDisconnected id reason =>
      show (Table.find (state.counted.handleDisconnect id reason).2.registry workerId).map _ = _
      rw [ActorState.find_disconnect]
      split_ifs
      · exact status_of_map .terminated (fun _ => rfl) (registered_of_status isTerminated)
      · exact isTerminated
  | heartbeat id =>
      have different : workerId ≠ id := fun same => silent (congrArg _ same.symm)
      show (Table.find (state.counted.handleHeartbeat id now).2.registry workerId).map _ = _
      rw [ActorState.find_heartbeat, if_neg different]
      exact isTerminated
  | setWorkerChannel id sender =>
      have different : workerId ≠ id := fun same => kept same.symm
      show (Table.find (state.counted.handleSetChannel id sender).2.registry workerId).map _ = _
      rw [ActorState.find_set_channel, if_neg different]
      exact isTerminated
  | shutdown => exact absurd trivial kept
  | sendToWorker | getWorker | listWorkers | getWorkerStats => exact isTerminated

theorem stays_of_check {state : ActorState} (config : WorkerSupervisorConfig) (now : Time)
    (isTerminated :
      (state.registry.find workerId).map WorkerActorState.status = some .terminated) :
    (Table.find (state.checkHeartbeatTimeouts config now).registry workerId).map
      WorkerActorState.status = some .terminated := by
  rw [(ActorState.disconnected_by_check ..).1]
  split_ifs
  · exact status_of_map .terminated (fun _ => rfl) (registered_of_status isTerminated)
  · exact isTerminated

theorem stays_terminated_iff (run : SupervisorRun) (move : SupervisorMove) :
    run.StaysTerminated move ↔ run.BeatsLive move := by
  cases move with
  | check waited =>
      exact iff_of_true (fun _ isTerminated _ => stays_of_check _ _ isTerminated) trivial
  | message waited message sessionId delivered =>
      by_cases beats : ∃ id, message = .heartbeat id
      · obtain ⟨id, rfl⟩ := beats
        constructor
        · intro stays isTerminated
          have after := stays id isTerminated not_false
          have isReady : (run.step (.message waited (.heartbeat id) sessionId
              delivered)).statusOf id = some .ready := by
            show (Table.find (ActorState.handleHeartbeat _ id _).2.registry id).map _ = _
            rw [ActorState.find_heartbeat, if_pos rfl]
            exact status_of_map .ready (fun _ => rfl) (registered_of_status isTerminated)
          cases after.symm.trans isReady
        · intro live workerId isTerminated kept
          refine stays_of_other_message waited sessionId delivered _ isTerminated kept ?_
          rintro ⟨⟩
          exact live isTerminated
      · refine iff_of_true ?_ ?_
        · intro workerId isTerminated kept
          exact stays_of_other_message waited sessionId delivered _ isTerminated kept
            fun same => beats ⟨workerId, same⟩
        · cases message with
          | heartbeat id => exact absurd ⟨id, rfl⟩ beats
          | _ => trivial

theorem counts_silences_iff (silent : run.SilentTooLong) (counts : run.CountsSilences)
    (move : SupervisorMove) : (run.step move).CountsSilences ↔ run.ChecksOnce move := by
  cases move with
  | message waited message sessionId delivered =>
      exact iff_of_true ((ActorState.timeouts_message ..).trans counts) trivial
  | check waited =>
      show (run.state.checkHeartbeatTimeouts run.config (run.clock + waited)).timeoutsCount =
        (run.silences + _) % 2 ^ 64 ↔ 2 ^ 64 ∣ run.silent.length
      rw [(ActorState.disconnected_by_check ..).2.2.2, counts, length_silent silent waited]
      exact add_mod_eq_iff _ _ _

theorem bounded_iff (bounded : run.Bounded) (move : SupervisorMove) :
    (run.step move).Bounded ↔ run.FindsRoom move := by
  cases move with
  | check waited =>
      exact iff_of_true ((ActorState.disconnected_by_check ..).2.2.1.trans_le bounded) trivial
  | message waited message sessionId delivered =>
      by_cases isNew : ∃ id providerId handle spec,
          message = .register id providerId handle spec ∧ run.state.registry.find id = none
      · obtain ⟨id, providerId, handle, spec, rfl, unknown⟩ := isNew
        have length : (run.step (.message waited (.register id providerId handle spec) sessionId
            delivered)).state.registry.rows.length = run.state.registry.rows.length + 1 :=
          ActorState.length_register unknown providerId handle spec sessionId delivered _
        unfold Bounded
        rw [length]
        exact (imp_iff_right unknown).symm
      · have known : ∀ id providerId handle spec, message = .register id providerId handle spec →
            run.state.registry.find id ≠ none :=
          fun id providerId handle spec same unknown =>
            isNew ⟨id, providerId, handle, spec, same, unknown⟩
        refine iff_of_true ((ActorState.length_message_le known ..).trans bounded) ?_
        cases message with
        | register id providerId handle spec =>
            exact fun unknown => absurd unknown (known id providerId handle spec rfl)
        | _ => trivial

/-! ## Whole runs -/

theorem silent_start (config : WorkerSupervisorConfig) (now : Time) :
    (start config now).SilentTooLong :=
  ⟨fun _ isSilent => absurd isSilent List.not_mem_nil, List.nodup_nil⟩

/-- Channels and registrations go together in every run. The rest is kept exactly by the runs in
which no heartbeat comes from a terminated worker, no check finds a worker that was counted and is
silent still, and every registration finds room. -/
theorem supervisor_keeps_iff_each_meets (config : WorkerSupervisorConfig) (now : Time)
    (moves : List SupervisorMove) :
    Always step Connected (start config now) moves ∧
      (EachMove step StaysTerminated (start config now) moves ↔
        EachMove step BeatsLive (start config now) moves) ∧
      (Always step CountsSilences (start config now) moves ↔
        EachMove step ChecksOnce (start config now) moves) ∧
      (Always step Bounded (start config now) moves ↔
        EachMove step FindsRoom (start config now) moves) ∧
      (Keeps (start config now) moves ↔ EachMove step Meets (start config now) moves) := by
  have connected := always_of_preserved step Connected connected_step moves _
    (connected_start config now)
  have terminated := each_move_congr step stays_terminated_iff moves (start config now)
  have counted := always_iff_each_move_within step SilentTooLong CountsSilences ChecksOnce
    silent_step (fun _ move silent counts => counts_silences_iff silent counts move) moves
    (start config now) (silent_start config now) rfl
  have bounded := always_iff_each_move step Bounded FindsRoom
    (fun _ move bounded => bounded_iff bounded move) moves (start config now) (Nat.zero_le _)
  refine ⟨connected, terminated, counted, bounded, ?_⟩
  unfold Meets
  rw [each_move_and_iff, each_move_and_iff, ← terminated, ← counted, ← bounded]
  constructor
  · exact fun keeps => ⟨keeps.terminated, keeps.counted, keeps.bounded⟩
  · exact fun ⟨terminated, counted, bounded⟩ => ⟨connected, terminated, counted, bounded⟩

/-! Runs in which a check follows every message. -/

/-- The messages with the time that passes until the check. -/
def eachChecked (messages : List (SupervisorMsg × Nat)) : List SupervisorMove :=
  messages.flatMap fun message => [.message 0 message.1 "" true, .check message.2]

def registration (number : Nat) : SupervisorMsg :=
  .register ⟨number⟩ ⟨0⟩ ⟨⟨number⟩, "", .docker, ⟨0⟩⟩ ⟨⟨number⟩, "", "", ⟨[], List.nodup_nil⟩⟩

def oneWorker : WorkerSupervisorConfig := ⟨1, ⟨30⟩⟩

def lateHeartbeat : List SupervisorMove :=
  eachChecked [(registration 1, 0), (.workerDisconnected ⟨1⟩ .networkError, 0),
    (.heartbeat ⟨1⟩, 0)]

def twoQueries : List SupervisorMove :=
  eachChecked [(registration 1, 0), (.heartbeat ⟨1⟩, 0), (.getWorkerStats, 31),
    (.getWorkerStats, 0)]

def twoWorkers : List SupervisorMove := eachChecked [(registration 1, 0), (registration 2, 0)]

theorem supervisor_breaks_its_word :
    ¬EachMove step StaysTerminated (start oneWorker 0) lateHeartbeat ∧
    ¬Always step CountsSilences (start oneWorker 0) twoQueries ∧
    ¬Always step Bounded (start oneWorker 0) twoWorkers := by
  refine ⟨?_, ?_, ?_⟩
  · rintro ⟨_, _, _, _, stays, _⟩
    have still := stays ⟨1⟩ rfl not_false
    cases still
  · intro always
    have counts : 2 = 1 := always_final step twoQueries _ always
    cases counts
  · intro always
    have bounded : 2 ≤ 1 := always_final step twoWorkers _ always
    exact absurd bounded (by decide)

end SupervisorRun

end HodeiJobs.Supervision
