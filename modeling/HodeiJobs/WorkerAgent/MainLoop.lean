import Mathlib.Algebra.Group.Nat.Defs
import HodeiJobs.Library.Runs
import HodeiJobs.Library.Table

/-!
# The main loop of the worker agent

The state that `main` of `worker/bin/src/main.rs` keeps across connections, and
its events: the branches of the inner loop, the reconnection, and the await
points of the spawned job tasks. A branch that receives a result and sends it on
is one event, as is the delivery of the pending results. Handling `RunJob` is
two, since the task may run before its handle is registered, and so is a tick
that terminates the agent: the `if let` keeps the guard of `auto_terminate_state`
over its body, which locks that mutex again and waits for itself for ever. Logs,
metrics and the contents of heartbeats are left out.
-/

namespace HodeiJobs.WorkerAgent

open HodeiJobs.Library

/-- `Instant`, in nanoseconds. -/
abbrev Instant := Nat

structure PendingJobResult where
  jobId : String
  exitCode : Int
  success : Bool
  errorMessage : String
  deriving DecidableEq

/-! ## Auto-termination -/

structure AutoTerminateState where
  enabled : Bool
  lastJobId : Option String
  idleSince : Option Instant
  expectedCleanupMs : Nat
  deriving DecidableEq

namespace AutoTerminateState

def new (cleanupTimeoutMs : Nat) (now : Instant) : AutoTerminateState where
  enabled := decide (0 < cleanupTimeoutMs)
  lastJobId := none
  idleSince := some now
  expectedCleanupMs := cleanupTimeoutMs

def onJobCompleted (state : AutoTerminateState) (jobId : String) (now : Instant) :
    AutoTerminateState :=
  { state with lastJobId := some jobId, idleSince := some now }

def onJobStarted (state : AutoTerminateState) : AutoTerminateState :=
  { state with idleSince := none }

/-- The time waited in milliseconds, if the worker should terminate. `elapsed` of
an instant that is not yet past is zero. -/
def shouldTerminate (state : AutoTerminateState) (now : Instant) (isBusy : Bool) : Option Nat :=
  if !state.enabled || isBusy then none
  else
    match state.idleSince with
    | some idleAt =>
        if state.expectedCleanupMs * 1000000 ≤ now - idleAt then
          some ((now - idleAt) / 1000000 % 2 ^ 64)
        else none
    | none => none

/-- The worker terminates only while it is not busy and its idle timer runs. -/
theorem idle_of_should_terminate {state : AutoTerminateState} {now : Instant} {isBusy : Bool}
    {waited : Nat} (terminates : state.shouldTerminate now isBusy = some waited) :
    isBusy = false ∧ state.idleSince ≠ none := by
  unfold shouldTerminate at terminates
  split_ifs at terminates with stays
  rw [Bool.or_eq_true, not_or] at stays
  refine ⟨Bool.eq_false_iff.mpr stays.2, ?_⟩
  intro notIdle
  rw [notIdle] at terminates
  cases terminates

end AutoTerminateState

/-! ## Job tasks -/

/-- Where a spawned task is. It removes its entry when the job has returned, and
then queues the result. -/
inductive TaskPhase where
  | running
  | finishing (result : PendingJobResult)
  | queued (result : PendingJobResult)
  | aborted
  deriving DecidableEq

structure Task where
  jobId : String
  phase : TaskPhase
  deriving DecidableEq

/-- The task still runs or has its result in hand. -/
def Task.Live (task : Task) : Prop :=
  match task.phase with
  | .running | .finishing _ => True
  | .queued _ | .aborted => False

instance (task : Task) : Decidable task.Live := by
  unfold Task.Live
  split <;> infer_instance

/-- `JoinHandle::abort`; a task that has ended is not affected. -/
def Task.abort (task : Task) : Task :=
  match task.phase with
  | .queued _ => task
  | _ => { task with phase := .aborted }

/-- What the task reports for the outcome of `execute_from_command`. -/
def reportedResult (jobId : String) : Except String Int → PendingJobResult
  | .ok code => ⟨jobId, code, decide (code = 0), ""⟩
  | .error message => ⟨jobId, -1, false, message⟩

/-! ## The loop -/

/-- An entry of `running_jobs`. A handle is the number of its task. -/
structure RunningJob where
  jobId : String
  handle : Nat
  deriving DecidableEq

/-- A result together with the number of the task that it comes from. -/
abbrev TaskResult := Nat × PendingJobResult

inductive LoopState where
  /-- Registering, or trying to establish a stream. -/
  | disconnected
  /-- In the `select!` of the inner loop. -/
  | waiting
  /-- A job task was spawned, and its handle is about to be registered. -/
  | registering (jobId : String) (handle : Nat)
  /-- In the body of the tick's `if let`, before its first lock. -/
  | terminating
  /-- The loop was left by auto-termination. -/
  | terminated
  deriving DecidableEq

structure Agent where
  loop : LoopState
  autoTerminate : AutoTerminateState
  /-- A guard of the mutex of `autoTerminate` is alive between two events. -/
  stateLocked : Bool
  runningJobs : Table RunningJob.jobId
  tasks : List Task
  resultChannel : List TaskResult
  pendingResults : List TaskResult
  /-- What a `tx.send` that returned `Ok` has taken over. -/
  delivered : List TaskResult

inductive AgentMove where
  /-- The stream is established and the pending results are sent; `sent` says which
  sends return `Ok`. -/
  | reconnect (sent : Nat → Bool)
  | runJob (jobId : String)
  | registerHandle
  | cancel (jobId : String)
  | forwardResult (sent : Bool) (now : Instant)
  | tick (now : Instant)
  | terminate
  | heartbeat (sent : Bool)
  | streamEnds
  | taskReturns (handle : Nat) (outcome : Except String Int)
  | taskQueues (handle : Nat)

namespace Agent

def channelCapacity : Nat := 100

def start (cleanupTimeoutMs : Nat) (now : Instant) : Agent where
  loop := .disconnected
  autoTerminate := .new cleanupTimeoutMs now
  stateLocked := false
  runningJobs := ⟨[], List.nodup_nil⟩
  tasks := []
  resultChannel := []
  pendingResults := []
  delivered := []

/-- The results whose send returns `Ok`, counted from `index`. -/
def sentResults (sent : Nat → Bool) : Nat → List TaskResult → List TaskResult
  | _, [] => []
  | index, result :: rest =>
      if sent index then result :: sentResults sent (index + 1) rest
      else sentResults sent (index + 1) rest

/-- `pending.drain(..)`: the list is empty afterwards, whatever became of the sends. -/
def drainPending (agent : Agent) (sent : Nat → Bool) : Agent :=
  { agent with
    loop := .waiting
    pendingResults := []
    delivered := agent.delivered ++ sentResults sent 0 agent.pendingResults }

def spawnJob (agent : Agent) (jobId : String) : Agent :=
  { agent with
    loop := .registering jobId agent.tasks.length
    autoTerminate := agent.autoTerminate.onJobStarted
    tasks := agent.tasks ++ [⟨jobId, .running⟩] }

def cancelJob (agent : Agent) (jobId : String) : Agent :=
  match agent.runningJobs.find jobId with
  | some entry =>
      { agent with
        runningJobs := agent.runningJobs.delete jobId
        tasks := agent.tasks.modify entry.handle Task.abort }
  | none => agent

def forward (agent : Agent) (sent : Bool) (now : Instant) : Agent :=
  match agent.resultChannel with
  | [] => agent
  | result :: rest =>
      if sent then
        { agent with
          resultChannel := rest
          delivered := agent.delivered ++ [result]
          autoTerminate := agent.autoTerminate.onJobCompleted result.2.jobId now }
      else
        { agent with
          loop := .disconnected
          resultChannel := rest
          pendingResults := agent.pendingResults ++ [result] }

/-- The guard that `should_terminate` was called on lives to the end of the `if let`. -/
def checkAutoTermination (agent : Agent) (now : Instant) : Agent :=
  let isBusy := !agent.runningJobs.rows.isEmpty
  match agent.autoTerminate.shouldTerminate now isBusy with
  | some _ => { agent with loop := .terminating, stateLocked := true }
  | none => agent

/-- The body waits for the mutex to read `last_job_id`. The message to the server is
then sent at best effort. -/
def terminate (agent : Agent) : Agent :=
  if agent.stateLocked then agent else { agent with loop := .terminated }

/-- The job has returned, and the task removes the entry of its job. -/
def finishTask (agent : Agent) (handle : Nat) (outcome : Except String Int) : Agent :=
  match agent.tasks[handle]? with
  | some ⟨jobId, .running⟩ =>
      { agent with
        runningJobs := agent.runningJobs.delete jobId
        tasks := agent.tasks.set handle ⟨jobId, .finishing (reportedResult jobId outcome)⟩ }
  | _ => agent

/-- The send into the result channel waits while the channel is full. -/
def queueResult (agent : Agent) (handle : Nat) : Agent :=
  match agent.tasks[handle]? with
  | some ⟨jobId, .finishing result⟩ =>
      if agent.resultChannel.length < channelCapacity then
        { agent with
          tasks := agent.tasks.set handle ⟨jobId, .queued result⟩
          resultChannel := agent.resultChannel ++ [(handle, result)] }
      else agent
  | _ => agent

/-- An event that cannot happen where the loop is leaves the agent as it is. -/
def step (agent : Agent) (move : AgentMove) : Agent :=
  match move, agent.loop with
  | .reconnect sent, .disconnected => agent.drainPending sent
  | .runJob jobId, .waiting => agent.spawnJob jobId
  | .registerHandle, .registering jobId handle =>
      { agent with
        loop := .waiting
        runningJobs := agent.runningJobs.upsert ⟨jobId, handle⟩ }
  | .cancel jobId, .waiting => agent.cancelJob jobId
  | .forwardResult sent now, .waiting => agent.forward sent now
  | .tick now, .waiting => agent.checkAutoTermination now
  | .terminate, .terminating => agent.terminate
  | .heartbeat false, .waiting => { agent with loop := .disconnected }
  | .streamEnds, .waiting => { agent with loop := .disconnected }
  | .taskReturns handle outcome, _ => agent.finishTask handle outcome
  | .taskQueues handle, _ => agent.queueResult handle
  | _, _ => agent

/-! ## What an event can do -/

/-- The agent after an event, with the place where it can happen. -/
inductive Effect (agent : Agent) : AgentMove → Agent → Prop where
  | nothing (move : AgentMove) : Effect agent move agent
  | reconnects (sent : Nat → Bool) (place : agent.loop = .disconnected) :
      Effect agent (.reconnect sent) (agent.drainPending sent)
  | spawns (jobId : String) (place : agent.loop = .waiting) :
      Effect agent (.runJob jobId) (agent.spawnJob jobId)
  | registers (jobId : String) (handle : Nat) (place : agent.loop = .registering jobId handle) :
      Effect agent .registerHandle
        { agent with
          loop := .waiting
          runningJobs := agent.runningJobs.upsert ⟨jobId, handle⟩ }
  | cancels (jobId : String) (entry : RunningJob) (place : agent.loop = .waiting)
      (found : agent.runningJobs.find jobId = some entry) :
      Effect agent (.cancel jobId)
        { agent with
          runningJobs := agent.runningJobs.delete jobId
          tasks := agent.tasks.modify entry.handle Task.abort }
  | delivers (now : Instant) (result : TaskResult) (rest : List TaskResult)
      (place : agent.loop = .waiting) (first : agent.resultChannel = result :: rest) :
      Effect agent (.forwardResult true now)
        { agent with
          resultChannel := rest
          delivered := agent.delivered ++ [result]
          autoTerminate := agent.autoTerminate.onJobCompleted result.2.jobId now }
  | postpones (now : Instant) (result : TaskResult) (rest : List TaskResult)
      (place : agent.loop = .waiting) (first : agent.resultChannel = result :: rest) :
      Effect agent (.forwardResult false now)
        { agent with
          loop := .disconnected
          resultChannel := rest
          pendingResults := agent.pendingResults ++ [result] }
  | fires (now : Instant) (place : agent.loop = .waiting)
      (notBusy : agent.runningJobs.rows = []) (idle : agent.autoTerminate.idleSince ≠ none) :
      Effect agent (.tick now) { agent with loop := .terminating, stateLocked := true }
  | terminates (place : agent.loop = .terminating) (free : agent.stateLocked = false) :
      Effect agent .terminate { agent with loop := .terminated }
  | disconnects (move : AgentMove) (place : agent.loop = .waiting) :
      Effect agent move { agent with loop := .disconnected }
  | finishes (handle : Nat) (outcome : Except String Int) (jobId : String)
      (found : agent.tasks[handle]? = some ⟨jobId, .running⟩) :
      Effect agent (.taskReturns handle outcome)
        { agent with
          runningJobs := agent.runningJobs.delete jobId
          tasks := agent.tasks.set handle ⟨jobId, .finishing (reportedResult jobId outcome)⟩ }
  | queues (handle : Nat) (jobId : String) (result : PendingJobResult)
      (found : agent.tasks[handle]? = some ⟨jobId, .finishing result⟩) :
      Effect agent (.taskQueues handle)
        { agent with
          tasks := agent.tasks.set handle ⟨jobId, .queued result⟩
          resultChannel := agent.resultChannel ++ [(handle, result)] }

theorem effect_of_step (agent : Agent) (move : AgentMove) :
    Effect agent move (agent.step move) := by
  unfold step
  split
  case h_1 sent place => exact .reconnects sent place
  case h_2 jobId place => exact .spawns jobId place
  case h_3 jobId handle place => exact .registers jobId handle place
  case h_4 jobId place =>
      unfold cancelJob
      cases found : agent.runningJobs.find jobId with
      | none => exact .nothing _
      | some entry => exact .cancels jobId entry place found
  case h_5 sent now place =>
      unfold forward
      cases first : agent.resultChannel with
      | nil => exact .nothing _
      | cons result rest =>
          cases sent with
          | false => exact .postpones now result rest place first
          | true => exact .delivers now result rest place first
  case h_6 now place =>
      unfold checkAutoTermination
      dsimp only
      split
      next waited terminates =>
          obtain ⟨notBusy, idle⟩ := AutoTerminateState.idle_of_should_terminate terminates
          refine .fires now place ?_ idle
          rwa [Bool.not_eq_false', List.isEmpty_iff] at notBusy
      next => exact .nothing _
  case h_7 place =>
      unfold terminate
      split_ifs with locked
      · exact .nothing _
      · exact .terminates place (Bool.eq_false_iff.mpr locked)
  case h_8 place => exact .disconnects _ place
  case h_9 place => exact .disconnects _ place
  case h_10 handle outcome =>
      unfold finishTask
      split
      next jobId found => exact .finishes handle outcome jobId found
      next => exact .nothing _
  case h_11 handle =>
      unfold queueResult
      split
      next jobId result found =>
          split_ifs
          · exact .queues handle jobId result found
          · exact .nothing _
      next => exact .nothing _
  case h_12 => exact .nothing _

/-- Auto-termination fires only where the loop waits, with no job in the map and the
idle timer running. -/
theorem fires_waiting {agent : Agent} {move : AgentMove} (running : agent.loop ≠ .terminating)
    (fired : (agent.step move).loop = .terminating) :
    agent.loop = .waiting ∧ agent.runningJobs.rows = [] ∧
      agent.autoTerminate.idleSince ≠ none := by
  have effect := effect_of_step agent move
  generalize agent.step move = after at effect fired
  cases effect with
  | nothing | cancels | delivers | finishes | queues => exact absurd fired running
  | reconnects | spawns | registers | postpones | terminates | disconnects => cases fired
  | fires now place notBusy idle => exact ⟨place, notBusy, idle⟩

/-! ## The tick that waits for itself -/

/-- The loop has not ended, and in the body of the tick the mutex is locked. -/
def LockedInBody (agent : Agent) : Prop :=
  agent.loop ≠ .terminated ∧ (agent.loop = .terminating → agent.stateLocked = true)

theorem locked_in_body_start (cleanupTimeoutMs : Nat) (now : Instant) :
    LockedInBody (start cleanupTimeoutMs now) :=
  ⟨LoopState.noConfusion, LoopState.noConfusion⟩

theorem locked_in_body_step (agent : Agent) (move : AgentMove) (locked : agent.LockedInBody) :
    (agent.step move).LockedInBody := by
  have effect := effect_of_step agent move
  generalize agent.step move = after at effect ⊢
  cases effect with
  | nothing | cancels | delivers | finishes | queues => exact locked
  | reconnects | spawns | registers | postpones | disconnects =>
      exact ⟨LoopState.noConfusion, LoopState.noConfusion⟩
  | fires => exact ⟨LoopState.noConfusion, fun _ => rfl⟩
  | terminates place free =>
      rw [locked.2 place] at free
      cases free

/-- No run of the loop ends by auto-termination. -/
theorem never_terminates (moves : List AgentMove) (agent : Agent) (locked : agent.LockedInBody) :
    (moves.foldl step agent).loop ≠ .terminated := by
  induction moves generalizing agent with
  | nil => exact locked.1
  | cons move rest ih => exact ih (agent.step move) (locked_in_body_step agent move locked)

end Agent

end HodeiJobs.WorkerAgent
