import HodeiJobs.Lifecycle.JobStates
import HodeiJobs.Lifecycle.Sagas

/-!
# The state of a worker under concurrent writers

Any number of the operations that write a worker's row, interleaved call by
call: the handlers, the plain updates of the registry, and the timeout and
cancellation sagas with all their steps and compensations.
-/

namespace HodeiJobs.Lifecycle

open HodeiJobs.Library HodeiJobs.Library.Program HodeiJobs.Shared HodeiJobs.Execution
open HodeiJobs.Sagas (Json SagaContext)

/-! ## Writers -/

inductive LifecycleSaga where
  | timeout (saga : TimeoutSaga)
  | cancellation (jobId : JobId)

def LifecycleSaga.steps (text : RustText) : LifecycleSaga → List SagaStep
  | .timeout saga => saga.steps text
  | .cancellation jobId => cancellationSteps text jobId

inductive WorkerWriter where
  | assignWorker (command : AssignWorkerCommand)
  | completeJob (command : CompleteJobCommand)
  | releaseWorker (workerId : WorkerId)
  | assignToJob (workerId : WorkerId) (jobId : JobId)
  | markBusy (workerId : WorkerId) (jobId : Option JobId)
  | releaseFromJob (workerId : WorkerId)
  /-- A whole run of a saga, which starts without metadata. -/
  | wholeSaga (saga : LifecycleSaga) (context : SagaContext)
  /-- One step of a saga, as a resumed saga executes it. -/
  | sagaStep (saga : LifecycleSaga) (number : Nat) (context : SagaContext)
  | sagaCompensation (saga : LifecycleSaga) (number : Nat) (context : SagaContext)

/-- The calls of code that is no whole saga. -/
def callsOnly {Failure Result : Type} (program : CallM Failure Result) :
    Program Op Op.Reply (Option SagaContext) :=
  program.run >>= fun _ => pure none

/-- Step number `number`, if the saga has that many. -/
def LifecycleSaga.execute (text : RustText) (saga : LifecycleSaga) (number : Nat)
    (context : SagaContext) : StepM SagaContext :=
  match (saga.steps text)[number]? with
  | some step => step.execute context
  | none => return context

def LifecycleSaga.compensate (text : RustText) (saga : LifecycleSaga) (number : Nat)
    (context : SagaContext) : StepM Unit :=
  match (saga.steps text)[number]? with
  | some step => step.compensate context
  | none => return ()

def WorkerWriter.program (text : RustText) : WorkerWriter → Program Op Op.Reply (Option SagaContext)
  | .assignWorker command => callsOnly (assignWorkerHandler command)
  | .completeJob command => callsOnly (completeJobHandler command)
  | .releaseWorker workerId => callsOnly (releaseWorkerHandler workerId)
  | .assignToJob workerId jobId =>
      callsOnly (call (.markBusy .registryAssignToJob workerId (some jobId)) : StepM _)
  | .markBusy workerId jobId =>
      callsOnly (call (.markBusy .registryMarkBusy workerId jobId) : StepM _)
  | .releaseFromJob workerId =>
      callsOnly (call (.releaseFromJob .registryReleaseFromJob workerId) : StepM _)
  | .wholeSaga saga context => runSaga (saga.steps text) { context with metadata := [] }
  | .sagaStep saga number context => callsOnly (saga.execute text number context)
  | .sagaCompensation saga number context => callsOnly (saga.compensate text number context)

/-- What a writer has seen: the row of the worker that it read last, and the
workers that it terminated or found terminated. -/
structure WorkerMemory where
  read : Option Worker
  terminated : List WorkerId

/-- What `update_state` writes at each call site. One of them follows a check of
the row that was read. -/
def WorkerUpdateFollows (read : Option Worker) (state : WorkerState) : CallSite → Prop
  | .assignUpdateWorker =>
      state = .busy ∧ ∃ old, read = some old ∧ (old.state = .ready ∨ old.state = .busy)
  | .completeUpdateWorker => state = .terminated
  | .releaseUpdateWorker => state = .ready
  | .terminateUpdateWorker => state = .terminated
  | .undoTerminateUpdateWorker => state = .busy
  | .undoReleaseUpdateWorker => state = .terminated
  | _ => False

/-- `find` answers with workers in the state asked for, and a termination is
answered at all. -/
def workerProtocol : Protocol Op Op.Reply WorkerMemory where
  answers
    | .findWorkers _ filter, reply => filter.states = some [.ready] →
        ∀ workers, reply = Except.ok workers → ∀ worker ∈ workers, worker.state = .ready
    | .findWorker .terminateFindWorker _, reply => ∃ found, reply = Except.ok found
    | .updateWorkerState .terminateUpdateWorker _ _, reply => reply = Except.ok ()
    | _, _ => True
  allows
    | memory, .updateWorkerState site _ state => WorkerUpdateFollows memory.read state site
    | _, .unregister _ _ => False
    | _, _ => True
  remember
    | memory, .findWorker .terminateFindWorker workerId, Except.ok found =>
        { read := found
          terminated := if found.all fun worker => decide (worker.state = .terminated) then
            workerId :: memory.terminated else memory.terminated }
    | memory, .findWorker _ _, Except.ok found => { memory with read := found }
    | memory, .findWorkers _ _, Except.ok found => { memory with read := found.head? }
    | memory, .updateWorkerState .terminateUpdateWorker workerId _, Except.ok () =>
        { memory with terminated := workerId :: memory.terminated }
    | memory, _, _ => memory

abbrev WorkerWriters := Pool Op Op.Reply WorkerMemory (Option SagaContext) Tables

namespace WorkerWriters

def start (text : RustText) (writers : List WorkerWriter) (tables : Tables) : WorkerWriters :=
  ⟨writers.map fun writer => ⟨⟨none, []⟩, writer.program text⟩, tables⟩

def step (system : WorkerWriters) (move : Nat × Env) : WorkerWriters :=
  Pool.step workerProtocol handle system move

end WorkerWriters

/-! ## The law and the condition -/

def storedWorkerState (tables : Tables) (workerId : WorkerId) : Option WorkerState :=
  (tables.workers.find workerId).map Worker.state

def isTerminated (state : WorkerState) : Bool := decide (state = .terminated)

/-- Every change that the move makes to the state of a worker is a transition. -/
def WorkersChangeByTransition (system : WorkerWriters) (move : Nat × Env) : Prop :=
  ∀ workerId, ByTransition WorkerState.canTransitionTo (storedWorkerState system.world workerId)
    (storedWorkerState (system.step move).world workerId)

/-- A timeout saga that executed all its steps leaves the worker it found for its
job terminated. -/
def TimedOutIsTerminated (text : RustText) (system : WorkerWriters) : Prop :=
  ∀ client ∈ system.clients, ∀ context, client.program = .done (some context) →
    ∀ workerId, timedOutWorker text context = some workerId →
      ∀ state ∈ storedWorkerState system.world workerId, state = .terminated

def FreshWorker (tables : Tables) (workerId : WorkerId) (read : Option Worker) : Prop :=
  storedWorkerState tables workerId = read.map Worker.state

instance (tables : Tables) (workerId : WorkerId) (read : Option Worker) :
    Decidable (FreshWorker tables workerId read) :=
  inferInstanceAs (Decidable (_ = _))

def mayBeBusy : List WorkerState := [.ready, .busy]

def mayBeReady : List WorkerState := [.creating, .ready]

/-- What each writer needs of the stored state for its update to be a transition. -/
def WorkerUpdateIsSafe (tables : Tables) (read : Option Worker) (workerId : WorkerId) :
    CallSite → Prop
  | .assignUpdateWorker => FreshWorker tables workerId read
  | .releaseUpdateWorker =>
      FreshWorker tables workerId read ∧ ∀ worker ∈ read, worker.state ∈ mayBeReady
  | .undoTerminateUpdateWorker => ∀ stored ∈ storedWorkerState tables workerId, stored ∈ mayBeBusy
  | _ => True

instance (tables : Tables) (read : Option Worker) (workerId : WorkerId) (site : CallSite) :
    Decidable (WorkerUpdateIsSafe tables read workerId site) := by
  unfold WorkerUpdateIsSafe
  split <;> infer_instance

/-- A write to a worker is safe; the calls that terminate the worker of a timed-out
job succeed. -/
def WorkerCallIsSafe (env : Env) (tables : Tables) (read : Option Worker) : Op → Prop
  | .updateWorkerState site workerId _ =>
      WorkerUpdateIsSafe tables read workerId site ∧
        (site = .terminateUpdateWorker → env.fault .terminateUpdateWorker = none)
  | .markBusy _ workerId _ => ∀ stored ∈ storedWorkerState tables workerId, stored ∈ mayBeBusy
  | .findWorker site _ => site = .terminateFindWorker → env.fault .terminateFindWorker = none
  | _ => True

instance (env : Env) (tables : Tables) (read : Option Worker) (op : Op) :
    Decidable (WorkerCallIsSafe env tables read op) := by
  unfold WorkerCallIsSafe
  split <;> infer_instance

def WorkerWritesSafely (system : WorkerWriters) (move : Nat × Env) : Prop :=
  ∀ call ∈ system.moveCall move, WorkerCallIsSafe move.2 system.world call.1.read call.2

instance (system : WorkerWriters) (move : Nat × Env) : Decidable (WorkerWritesSafely system move) :=
  inferInstanceAs (Decidable (∀ call ∈ system.moveCall move, _))

/-! ## One move -/

theorem stored_update_worker_state (tables : Tables) (env : Env) (wanted workerId : WorkerId)
    (state : WorkerState) :
    storedWorkerState (tables.updateWorkerState env.now wanted state) workerId =
      if workerId = wanted then (storedWorkerState tables workerId).map fun _ => state
      else storedWorkerState tables workerId := by
  unfold storedWorkerState
  rw [Tables.find_worker_update_state]
  split_ifs
  · rw [Option.map_map, Option.map_map]
    rfl
  · rfl

theorem stored_mark_busy (tables : Tables) (env : Env) (wanted workerId : WorkerId)
    (jobId : Option JobId) :
    storedWorkerState (tables.markBusy env.now wanted jobId) workerId =
      if workerId = wanted then (storedWorkerState tables workerId).map fun _ => .busy
      else storedWorkerState tables workerId := by
  unfold storedWorkerState
  rw [Tables.find_worker_mark_busy]
  split_ifs
  · rw [Option.map_map, Option.map_map]
    rfl
  · rfl

theorem stored_release_from_job (tables : Tables) (env : Env) (wanted workerId : WorkerId) :
    storedWorkerState (tables.releaseFromJob env.now wanted) workerId =
      if workerId = wanted then (storedWorkerState tables workerId).map fun _ => .terminated
      else storedWorkerState tables workerId := by
  unfold storedWorkerState
  rw [Tables.find_worker_release_from_job]
  split_ifs
  · rw [Option.map_map, Option.map_map]
    rfl
  · rfl

/-- Every worker may be terminated. -/
theorem terminated_cases (state : WorkerState) :
    state = .terminated ∨ state.canTransitionTo .terminated = true := by
  cases state <;> decide

theorem may_be_busy_cases {state : WorkerState} (member : state ∈ mayBeBusy) :
    state = .busy ∨ state.canTransitionTo .busy = true := by
  revert state
  decide

theorem may_be_ready_cases {state : WorkerState} (member : state ∈ mayBeReady) :
    state = .ready ∨ state.canTransitionTo .ready = true := by
  revert state
  decide

section Move

variable {env : Env} {tables : Tables} {memory : WorkerMemory} {op : Op}

theorem stored_of_fresh_worker {read : Option Worker} {workerId : WorkerId}
    {holds : WorkerState → Prop} (fresh : FreshWorker tables workerId read)
    (known : ∀ worker ∈ read, holds worker.state) :
    ∀ state ∈ storedWorkerState tables workerId, holds state := by
  intro state stored
  rw [fresh] at stored
  obtain ⟨worker, found, rfl⟩ := Option.map_eq_some_iff.mp stored
  exact known worker found

theorem worker_update_is_safe {site : CallSite} {workerId : WorkerId} {state : WorkerState}
    (follows : WorkerUpdateFollows memory.read state site)
    (safe : WorkerUpdateIsSafe tables memory.read workerId site) :
    ∀ old ∈ storedWorkerState tables workerId, old = state ∨ old.canTransitionTo state = true := by
  unfold WorkerUpdateFollows at follows
  split at follows
  · obtain ⟨rfl, worker, found, usable⟩ := follows
    refine stored_of_fresh_worker safe ?_
    intro old read
    rw [found] at read
    cases read
    apply may_be_busy_cases
    unfold mayBeBusy
    simpa using usable
  · subst follows
    exact fun old _ => terminated_cases old
  · subst follows
    exact stored_of_fresh_worker safe.1 fun worker read => may_be_ready_cases (safe.2 worker read)
  · subst follows
    exact fun old _ => terminated_cases old
  · subst follows
    exact fun old stored => may_be_busy_cases (safe old stored)
  · subst follows
    exact fun old _ => terminated_cases old
  · exact follows.elim

theorem worker_call_keeps_or_moves (allowed : workerProtocol.allows memory op)
    (safe : WorkerCallIsSafe env tables memory.read op) (workerId : WorkerId) :
    KeptOrMoved WorkerState.canTransitionTo (storedWorkerState tables workerId)
      (storedWorkerState (handle env op tables).2 workerId) := by
  rcases handle_workers_cases env op tables with
    same | ⟨site, wanted, state, rfl, updated⟩ | ⟨site, wanted, jobId, rfl, updated⟩ |
      ⟨site, wanted, rfl, updated⟩ | ⟨site, wanted, rfl⟩
  · left
    unfold storedWorkerState
    rw [same]
  · rw [updated, stored_update_worker_state]
    split_ifs with own
    · subst own
      exact kept_or_moved_write (worker_update_is_safe allowed safe.1)
    · exact .inl rfl
  · rw [updated, stored_mark_busy]
    split_ifs with own
    · subst own
      exact kept_or_moved_write fun old stored => may_be_busy_cases (safe old stored)
    · exact .inl rfl
  · rw [updated, stored_release_from_job]
    split_ifs
    · exact kept_or_moved_write fun old _ => terminated_cases old
    · exact .inl rfl
  · exact allowed.elim

/-- Whatever a writer has terminated is stored so, or not at all. -/
def IsTerminated (tables : Tables) (workerId : WorkerId) : Prop :=
  ∀ state ∈ storedWorkerState tables workerId, state = .terminated

theorem is_terminated_of_kept {after : Tables} {workerId : WorkerId}
    (kept : KeptOrMoved WorkerState.canTransitionTo (storedWorkerState tables workerId)
      (storedWorkerState after workerId)) (terminated : IsTerminated tables workerId) :
    IsTerminated after workerId := by
  intro state stored
  rcases kept with same | ⟨old, new, wasOld, -, moves⟩
  · rw [same] at stored
    exact terminated state stored
  · have ended := terminated old wasOld
    subst ended
    cases new <;> cases moves

theorem terminated_of_remember (allowed : workerProtocol.allows memory op) {workerId : WorkerId}
    (known : workerId ∈ (workerProtocol.remember memory op (handle env op tables).1).terminated) :
    workerId ∈ memory.terminated ∨ IsTerminated (handle env op tables).2 workerId := by
  generalize answered : (handle env op tables).1 = reply at known
  simp only [workerProtocol] at known
  split at known
  case h_1 wanted found =>
      dsimp only at known
      split_ifs at known with ended
      · rcases List.mem_cons.mp known with rfl | before
        · right
          have read := answer_ok answered
          intro state stored
          have unchanged : storedWorkerState (handle env (.findWorker .terminateFindWorker workerId)
              tables).2 workerId = storedWorkerState tables workerId := by
            unfold storedWorkerState
            rw [show (handle env (.findWorker .terminateFindWorker workerId) tables).2.workers =
              tables.workers from answer_workers env _ _ rfl]
          rw [unchanged] at stored
          unfold storedWorkerState at stored
          rw [← read] at stored
          obtain ⟨worker, present, rfl⟩ := Option.map_eq_some_iff.mp stored
          rw [present] at ended
          exact of_decide_eq_true ended
        · exact .inl before
      · exact .inl known
  case h_2 => exact .inl known
  case h_3 => exact .inl known
  case h_4 wanted state =>
      rcases List.mem_cons.mp known with rfl | before
      · right
        have ended : state = .terminated := allowed
        subst ended
        intro state stored
        have updated : (handle env (.updateWorkerState .terminateUpdateWorker workerId .terminated)
            tables).2 = tables.updateWorkerState env.now workerId .terminated :=
          answer_ok_after answered
        rw [updated, stored_update_worker_state, if_pos rfl] at stored
        obtain ⟨_, _, same⟩ := Option.map_eq_some_iff.mp stored
        exact same.symm
      · exact .inl before
  case h_5 => exact .inl known

theorem terminated_grows (memory : WorkerMemory) (op : Op) (reply : Op.Reply op) :
    memory.terminated ⊆ (workerProtocol.remember memory op reply).terminated := by
  simp only [workerProtocol]
  split
  · dsimp only
    split_ifs
    · exact List.subset_cons_self _ _
    · exact List.Subset.refl _
  · exact List.Subset.refl _
  · exact List.Subset.refl _
  · exact List.subset_cons_self _ _
  · exact List.Subset.refl _

end Move

/-! ## Every writer obeys -/

section Obeys

variable {Failure Result : Type} {memory : WorkerMemory}

/-- The worker that the context names as timed out has been terminated. -/
def Known (text : RustText) (memory : WorkerMemory) (context : SagaContext) : Prop :=
  ∀ workerId, timedOutWorker text context = some workerId → workerId ∈ memory.terminated

def workerEnds (text : RustText) (memory : WorkerMemory) (result : Option SagaContext) : Prop :=
  ∀ context, result = some context → Known text memory context

/-- A program whose calls the protocol allows. -/
def WorkerAllowed (program : CallM Failure Result) : Prop :=
  ∀ memory, Returns workerProtocol (fun _ _ => True) program memory

theorem obeys_calls_only (text : RustText) {program : CallM Failure Result}
    (allowed : WorkerAllowed program) :
    Program.Obeys workerProtocol (workerEnds text) (callsOnly program) memory := by
  unfold callsOnly
  rw [obeys_bind]
  apply obeys_imp workerProtocol _ _ _ (allowed memory)
  intro last outcome _ context same
  cases same

theorem worker_allowed_call {op : Op} (allowed : ∀ memory, workerProtocol.allows memory op) :
    WorkerAllowed (call op : CallM Failure (Op.Reply op)) :=
  fun memory => returns_request (allowed memory) fun _ _ => trivial

theorem worker_allowed_select_worker (command : AssignWorkerCommand) :
    Returns workerProtocol
      (fun memory result => ∀ workerId, result = some workerId →
        ∃ old, memory.read = some old ∧ (old.state = .ready ∨ old.state = .busy))
      (selectWorker command) memory := by
  unfold selectWorker
  cases command.workerId with
  | some preAssignedId =>
      refine returns_lookup (returns_request trivial ?_)
      rintro reply - worker rfl
      by_cases refused : worker.state ≠ .ready ∧ worker.state ≠ .busy
      · rw [if_pos refused]
        exact returns_throw _ _ _
      · rw [if_neg refused]
        apply returns_pure
        intro workerId _
        refine ⟨worker, rfl, ?_⟩
        tauto
  | none =>
      refine returns_seq (returns_call_or (returns_request trivial ?_))
      intro reply ready available same
      subst same
      apply returns_pure
      intro workerId first
      obtain ⟨worker, head, -⟩ := Option.map_eq_some_iff.mp first
      exact ⟨worker, head, .inl (ready rfl available rfl worker (List.mem_of_mem_head? head))⟩

theorem worker_allowed_assign_worker (command : AssignWorkerCommand) :
    WorkerAllowed (assignWorkerHandler command) := by
  intro memory
  refine returns_bind (worker_allowed_select_worker command) ?_
  intro memory selection chosen
  cases selection with
  | none => exact returns_pure trivial
  | some workerId =>
      have usable := chosen workerId rfl
      refine returns_lookup (returns_request trivial ?_)
      rintro reply - job rfl
      cases job.setState .assigned with
      | error error => exact returns_throw _ _ _
      | ok assigned =>
          refine returns_seq (returns_call_or (returns_request trivial ?_))
          rintro reply - saved rfl
          refine returns_seq (returns_call_or (returns_request ⟨rfl, usable⟩ ?_))
          rintro reply - busy rfl
          refine returns_lookup (returns_request trivial ?_)
          rintro reply - worker rfl
          exact returns_pure trivial

theorem worker_allowed_complete_job (command : CompleteJobCommand) :
    WorkerAllowed (completeJobHandler command) := by
  intro memory
  unfold completeJobHandler
  refine returns_lookup (returns_request trivial ?_)
  rintro reply - job rfl
  split_ifs
  · refine returns_seq (returns_call_or (returns_request trivial ?_))
    rintro reply - updated rfl
    refine returns_seq ?_
    unfold releaseWorker
    split_ifs
    · refine returns_seq (returns_request trivial ?_)
      intro reply _
      split
      · refine returns_call_or (returns_request rfl ?_)
        intro _ _ _ _
        exact returns_pure trivial
      · exact returns_pure (returns_pure trivial)
    · exact returns_pure (returns_pure trivial)
  · exact returns_throw _ _ _

theorem worker_allowed_release_worker (workerId : WorkerId) :
    WorkerAllowed (releaseWorkerHandler workerId) := by
  intro memory
  unfold releaseWorkerHandler
  refine returns_lookup (returns_request trivial ?_)
  rintro reply - worker rfl
  refine returns_seq (returns_call_or (returns_request rfl ?_))
  rintro reply - updated rfl
  exact returns_pure trivial

/-- With the calls of the handler answered, the worker is known to be terminated at
its end. -/
theorem obeys_terminate_worker (workerId : WorkerId) :
    Program.Obeys workerProtocol (fun memory _ => workerId ∈ memory.terminated)
      (terminateWorkerHandler workerId).run memory := by
  refine And.intro trivial ?_
  rintro reply ⟨found, rfl⟩
  cases found with
  | none => exact List.mem_cons_self
  | some worker =>
      show Program.Obeys workerProtocol _
        (ExceptT.run (if worker.state = .terminated then _ else _)) _
      by_cases ended : worker.state = .terminated
      · rw [if_pos ended]
        show workerId ∈ ite _ (workerId :: memory.terminated) memory.terminated
        rw [Option.all_some, if_pos (decide_eq_true ended)]
        exact List.mem_cons_self
      · rw [if_neg ended]
        refine And.intro rfl ?_
        rintro reply rfl
        exact List.mem_cons_self

theorem returns_dispatch_logged {post : WorkerMemory → Unit → Prop}
    {handler : CallM Failure Result}
    (obeys : Program.Obeys workerProtocol (fun memory _ => post memory ()) handler.run memory) :
    Returns workerProtocol post (dispatchLogged handler) memory := by
  refine returns_seq (returns_lift ?_)
  apply obeys_imp workerProtocol _ _ _ obeys
  intro last _ held
  exact returns_pure held

theorem returns_dispatch_allowed {handler : CallM Failure Result}
    (allowed : WorkerAllowed handler) :
    Returns workerProtocol (fun _ _ => True) (dispatchLogged handler) memory := by
  apply returns_dispatch_logged
  exact obeys_imp workerProtocol (fun _ _ _ => trivial) _ _ (allowed memory)

theorem worker_allowed_mark_job_timed_out (jobId : JobId) :
    WorkerAllowed (markJobTimedOutHandler jobId) := by
  intro memory
  unfold markJobTimedOutHandler
  refine returns_seq (returns_call_or (returns_request trivial ?_))
  rintro reply - found rfl
  cases found with
  | none => exact returns_pure trivial
  | some job =>
      dsimp only
      split_ifs
      · exact returns_pure trivial
      · refine returns_seq (returns_call_or (returns_request trivial ?_))
        rintro reply - updated rfl
        exact returns_pure trivial

theorem worker_allowed_update_job_state (command : UpdateJobStateCommand) :
    WorkerAllowed (updateJobStateHandler command) := by
  intro memory
  unfold updateJobStateHandler
  refine returns_seq (returns_call_or (returns_request trivial ?_))
  rintro reply - found rfl
  split_ifs
  · exact returns_pure trivial
  · refine returns_seq (returns_call_or (returns_request trivial ?_))
    rintro reply - updated rfl
    exact returns_pure trivial

/-- A step names no other timed-out worker than before, unless it has just
terminated it. -/
def StepPost (text : RustText) (before : SagaContext) (memory : WorkerMemory)
    (after : SagaContext) : Prop :=
  textMetadata after "timed_out_worker_id" = textMetadata before "timed_out_worker_id" ∨
    ∃ workerId : WorkerId,
      textMetadata after "timed_out_worker_id" = some (text.display workerId.uuid) ∧
        workerId ∈ memory.terminated

theorem text_metadata_set_other (context : SagaContext) {key other : String} (value : Json)
    (different : other ≠ key) :
    textMetadata (context.setMetadata key value) other = textMetadata context other := by
  unfold textMetadata
  rw [get_metadata_set_other context value different]

section Steps

variable {text : RustText} {context : SagaContext}

theorem step_post_same : StepPost text context memory context := .inl rfl

theorem step_post_set {before : SagaContext} {key : String} (value : Json)
    (different : "timed_out_worker_id" ≠ key) (post : StepPost text before memory context) :
    StepPost text before memory (context.setMetadata key value) := by
  unfold StepPost
  rw [text_metadata_set_other context value different]
  exact post

theorem returns_require_job_repository (step : String) :
    Returns workerProtocol (fun _ _ => True) (requireJobRepository step context) memory := by
  unfold requireJobRepository
  exact returns_require Sagas.SagaServices.hasJobRepository _ _

theorem returns_require_command_bus (step : String) (willCompensate : Bool) :
    Returns workerProtocol (fun _ _ => True) (requireCommandBus step willCompensate context)
      memory := by
  unfold requireCommandBus
  exact returns_require Sagas.SagaServices.hasCommandBus _ _

theorem returns_require_cancellation_bus (step : String) (willCompensate : Bool) :
    Returns workerProtocol (fun _ _ => True) (requireCancellationBus step willCompensate context)
      memory := by
  unfold requireCancellationBus
  exact returns_require Sagas.SagaServices.hasCommandBus _ _

theorem returns_validate_timeout (saga : TimeoutSaga) :
    Returns workerProtocol (StepPost text context) (validateTimeoutStep text saga context)
      memory := by
  unfold validateTimeoutStep
  refine returns_bind (returns_require_job_repository _) ?_
  intro memory _ _
  split_ifs
  · exact returns_pure step_post_same
  · refine returns_lookup (returns_request trivial ?_)
    rintro reply - job rfl
    split_ifs
    · exact returns_pure (step_post_set _ (by decide) step_post_same)
    · apply returns_pure
      exact step_post_set _ (by decide) (step_post_set _ (by decide)
        (step_post_set _ (by decide) step_post_same))

theorem returns_terminate_worker (jobId : JobId) :
    Returns workerProtocol (StepPost text context) (terminateWorkerStep text jobId context)
      memory := by
  unfold terminateWorkerStep
  refine returns_bind (returns_require_command_bus _ _) ?_
  intro memory _ _
  split_ifs
  · exact returns_pure step_post_same
  · exact returns_pure step_post_same
  · refine returns_seq (returns_call_or (returns_request trivial ?_))
    rintro reply - found rfl
    cases found with
    | none => exact returns_pure step_post_same
    | some worker =>
        refine returns_seq (returns_dispatch_logged ?_)
        apply obeys_imp workerProtocol _ _ _ (obeys_terminate_worker worker.id)
        intro last _ ended
        apply returns_pure
        apply step_post_set _ (by decide)
        right
        refine ⟨worker.id, ?_, ended⟩
        unfold textMetadata
        rw [get_metadata_set_self]

theorem returns_mark_job_failed (jobId : JobId) :
    Returns workerProtocol (StepPost text context) (markJobFailedStep jobId context) memory := by
  unfold markJobFailedStep
  refine returns_bind (returns_require_command_bus _ _) ?_
  intro memory _ _
  split_ifs
  · exact returns_pure step_post_same
  · exact returns_pure step_post_same
  · refine returns_bind (returns_dispatch_allowed (worker_allowed_mark_job_timed_out jobId)) ?_
    intro memory _ _
    exact returns_pure (step_post_set _ (by decide) step_post_same)

theorem returns_release_timed_out_worker (jobId : JobId) :
    Returns workerProtocol (StepPost text context) (releaseTimedOutWorkerStep text jobId context)
      memory := by
  unfold releaseTimedOutWorkerStep
  refine returns_bind (returns_require_command_bus _ _) ?_
  intro memory _ _
  split_ifs
  · exact returns_pure step_post_same
  · exact returns_pure step_post_same
  · have named : Returns workerProtocol (fun _ _ => True) (releasedWorkerId text jobId context)
        memory := by
      unfold releasedWorkerId
      split
      · exact returns_pure trivial
      · exact returns_pure trivial
      · refine returns_seq (returns_call_or (returns_request trivial ?_))
        rintro reply - found rfl
        exact returns_pure trivial
    refine returns_bind named ?_
    intro memory name _
    split
    · exact returns_pure step_post_same
    · refine returns_bind (returns_dispatch_allowed (worker_allowed_release_worker _)) ?_
      intro memory _ _
      exact returns_pure (step_post_set _ (by decide) step_post_same)

theorem returns_validate_cancellation (jobId : JobId) :
    Returns workerProtocol (StepPost text context) (validateCancellationStep text jobId context)
      memory := by
  unfold validateCancellationStep
  refine returns_bind (returns_require_job_repository _) ?_
  intro memory _ _
  split_ifs
  · exact returns_pure step_post_same
  · refine returns_lookup (returns_request trivial ?_)
    rintro reply - job rfl
    split_ifs
    · apply returns_pure
      exact step_post_set _ (by decide) (step_post_set _ (by decide) step_post_same)
    · exact returns_throw _ _ _

theorem returns_notify_worker (jobId : JobId) :
    Returns workerProtocol (StepPost text context) (notifyWorkerStep text jobId context)
      memory := by
  unfold notifyWorkerStep
  refine returns_bind (returns_require_cancellation_bus _ _) ?_
  intro memory _ _
  split_ifs
  · exact returns_pure step_post_same
  · refine returns_seq (returns_call_or (returns_request trivial ?_))
    rintro reply - found rfl
    apply returns_pure
    apply step_post_set _ (by decide)
    cases found with
    | none => exact step_post_same
    | some worker => exact step_post_set _ (by decide) step_post_same

theorem returns_update_job_state (jobId : JobId) :
    Returns workerProtocol (StepPost text context) (updateJobStateStep text jobId context)
      memory := by
  unfold updateJobStateStep
  refine returns_bind (returns_require_cancellation_bus _ _) ?_
  intro memory _ _
  split_ifs
  · exact returns_pure step_post_same
  · refine returns_bind (returns_adapt _ (worker_allowed_update_job_state _ memory)) ?_
    intro memory result _
    have updated : ∀ memory, StepPost text context memory
        (context.setMetadata "job_state_updated" (.bool true)) :=
      fun _ => step_post_set _ (by decide) step_post_same
    split_ifs
    · exact returns_pure (updated memory)
    · refine returns_seq (returns_call_or (returns_request trivial ?_))
      rintro reply - published rfl
      exact returns_pure (updated _)

theorem returns_release_cancelled_worker :
    Returns workerProtocol (StepPost text context) (releaseCancelledWorkerStep text context)
      memory := by
  unfold releaseCancelledWorkerStep
  refine returns_bind (returns_require_cancellation_bus _ _) ?_
  intro memory _ _
  split_ifs
  · exact returns_pure step_post_same
  · dsimp only
    split_ifs
    · split
      · exact returns_throw _ _ _
      · refine returns_bind (returns_dispatch_allowed (worker_allowed_release_worker _)) ?_
        intro memory _ _
        exact returns_pure (step_post_set _ (by decide) step_post_same)
    · exact returns_pure step_post_same

theorem worker_allowed_restore_worker (site : CallSite) (step message : String)
    (state : WorkerState) (follows : ∀ read, WorkerUpdateFollows read state site) :
    WorkerAllowed (restoreWorker text site step message state context) := by
  intro memory
  unfold restoreWorker
  split
  · exact returns_pure trivial
  · refine returns_seq (returns_ok_or ?_)
    intro services _
    refine returns_call_or (returns_request (follows memory.read) ?_)
    intro _ _ _ _
    trivial

theorem worker_allowed_mark_job_failed_compensate :
    WorkerAllowed (markJobFailedCompensate context) := by
  intro memory
  refine returns_seq (returns_ok_or ?_)
  intro services _
  exact returns_pure trivial

theorem worker_allowed_update_job_state_compensate (jobId : JobId) :
    WorkerAllowed (updateJobStateCompensate text jobId context) := by
  intro memory
  unfold updateJobStateCompensate
  refine returns_seq (returns_ok_or ?_)
  intro services _
  split_ifs
  · refine returns_bind (returns_adapt _ (worker_allowed_update_job_state _ memory)) ?_
    intro memory _ _
    exact returns_pure trivial
  · exact returns_throw _ _ _

/-- What is needed of a step to run it in a saga. -/
structure StepObeys (text : RustText) (step : SagaStep) : Prop where
  executes : ∀ context memory,
    Returns workerProtocol (StepPost text context) (step.execute context) memory
  compensates : ∀ context, WorkerAllowed (step.compensate context)

theorem step_obeys (saga : LifecycleSaga) : ∀ step ∈ saga.steps text, StepObeys text step := by
  have nothing : ∀ _ : SagaContext, WorkerAllowed (return () : StepM Unit) :=
    fun _ _ => returns_pure trivial
  cases saga with
  | timeout saga =>
      simp only [LifecycleSaga.steps, TimeoutSaga.steps, List.forall_mem_cons]
      refine ⟨⟨?_, nothing⟩, ⟨?_, ?_⟩, ⟨?_, ?_⟩, ⟨?_, ?_⟩, ?_⟩
      · exact fun context memory => returns_validate_timeout saga
      · exact fun context memory => returns_terminate_worker saga.jobId
      · exact fun context => worker_allowed_restore_worker _ _ _ _ fun _ => rfl
      · exact fun context memory => returns_mark_job_failed saga.jobId
      · exact fun context => worker_allowed_mark_job_failed_compensate
      · exact fun context memory => returns_release_timed_out_worker saga.jobId
      · exact fun context => worker_allowed_restore_worker _ _ _ _ fun _ => rfl
      · exact List.forall_mem_nil _
  | cancellation jobId =>
      simp only [LifecycleSaga.steps, cancellationSteps, List.forall_mem_cons]
      refine ⟨⟨?_, nothing⟩, ⟨?_, nothing⟩, ⟨?_, ?_⟩, ⟨?_, nothing⟩, ?_⟩
      · exact fun context memory => returns_validate_cancellation jobId
      · exact fun context memory => returns_notify_worker jobId
      · exact fun context memory => returns_update_job_state jobId
      · exact fun context => worker_allowed_update_job_state_compensate jobId
      · exact fun context memory => returns_release_cancelled_worker
      · exact List.forall_mem_nil _

/-- A step keeps the context and what is known of the timed-out worker together. -/
theorem known_of_step {after : SagaContext} {last : WorkerMemory}
    (known : Known text memory context)
    (grown : memory.terminated ⊆ last.terminated) (post : StepPost text context last after) :
    Known text last after := by
  intro workerId named
  unfold timedOutWorker at named
  rcases post with same | ⟨ended, named', member⟩
  · rw [same] at named
    exact grown (known workerId named)
  · rw [named', Option.bind_some, text.parse_display, Option.map_some] at named
    cases named
    exact member

theorem obeys_execute_until_failure (steps completed : List SagaStep)
    (each : ∀ step ∈ steps ++ completed, StepObeys text step) (known : Known text memory context) :
    Program.Obeys workerProtocol
      (fun memory attempt => Known text memory attempt.context ∧
        ∀ step ∈ attempt.completed, StepObeys text step)
      (executeUntilFailure steps completed context) memory := by
  induction steps generalizing completed context memory with
  | nil => exact ⟨known, each⟩
  | cons step rest ih =>
      unfold executeUntilFailure
      rw [obeys_bind]
      have executes := (each step List.mem_cons_self).executes context memory
      have grown := obeys_grow workerProtocol
        (fun first second : WorkerMemory => first.terminated ⊆ second.terminated)
        (fun _ => List.Subset.refl _) (fun _ _ _ => List.Subset.trans) terminated_grows _ _ executes
      apply obeys_imp workerProtocol _ _ _ grown
      intro last outcome held
      have others : ∀ other ∈ rest ++ completed, StepObeys text other :=
        fun other member => each other (List.mem_cons_of_mem _ member)
      cases outcome with
      | ok next =>
          apply ih (step :: completed)
          · intro other member
            rcases List.mem_append.mp member with later | earlier
            · exact others other (List.mem_append_left _ later)
            · rcases List.mem_cons.mp earlier with rfl | earlier
              · exact each other List.mem_cons_self
              · exact others other (List.mem_append_right _ earlier)
          · exact known_of_step known held.2 (held.1 next rfl)
      | error failure =>
          refine ⟨known_of_step known held.2 step_post_same, ?_⟩
          exact fun other member => others other (List.mem_append_right _ member)

theorem worker_allowed_compensate_all (completed : List SagaStep)
    (each : ∀ step ∈ completed, StepObeys text step) :
    WorkerAllowed (compensateAll context completed) := by
  induction completed with
  | nil => exact fun memory => returns_pure trivial
  | cons step rest ih =>
      intro memory
      have later := ih fun other member => each other (List.mem_cons_of_mem _ member)
      unfold compensateAll
      split_ifs
      · refine returns_bind ((each step List.mem_cons_self).compensates context memory) ?_
        intro memory _ _
        exact later memory
      · exact later memory

theorem obeys_run_saga (saga : LifecycleSaga) (known : Known text memory context) :
    Program.Obeys workerProtocol (workerEnds text) (runSaga (saga.steps text) context) memory := by
  unfold runSaga
  rw [obeys_bind]
  have runs := obeys_execute_until_failure (saga.steps text) []
    (by rw [List.append_nil]; exact step_obeys saga) known
  apply obeys_imp workerProtocol _ _ _ runs
  intro last attempt ⟨reached, completed⟩
  cases attempt.failure with
  | none =>
      rintro _ ⟨rfl⟩
      exact reached
  | some failure =>
      dsimp only
      rw [obeys_bind]
      apply obeys_imp workerProtocol _ _ _ (worker_allowed_compensate_all _ completed last)
      intro _ _ _ _ same
      cases same

end Steps

theorem obeys_worker_writer (text : RustText) (writer : WorkerWriter) :
    Program.Obeys workerProtocol (workerEnds text) (writer.program text) ⟨none, []⟩ := by
  cases writer with
  | assignWorker command => exact obeys_calls_only text (worker_allowed_assign_worker command)
  | completeJob command => exact obeys_calls_only text (worker_allowed_complete_job command)
  | releaseWorker workerId => exact obeys_calls_only text (worker_allowed_release_worker workerId)
  | assignToJob workerId jobId =>
      exact obeys_calls_only text (worker_allowed_call fun _ => trivial)
  | markBusy workerId jobId => exact obeys_calls_only text (worker_allowed_call fun _ => trivial)
  | releaseFromJob workerId => exact obeys_calls_only text (worker_allowed_call fun _ => trivial)
  | wholeSaga saga context =>
      apply obeys_run_saga saga
      intro workerId named
      cases named
  | sagaStep saga number context =>
      apply obeys_calls_only text
      intro memory
      unfold LifecycleSaga.execute
      cases found : (saga.steps text)[number]? with
      | none => exact returns_pure trivial
      | some step =>
          have member := List.mem_of_getElem? found
          have executes := (step_obeys saga step member).executes context memory
          exact returns_imp (fun _ _ _ => trivial) executes
  | sagaCompensation saga number context =>
      apply obeys_calls_only text
      intro memory
      unfold LifecycleSaga.compensate
      cases found : (saga.steps text)[number]? with
      | none => exact returns_pure trivial
      | some step =>
          exact (step_obeys saga step (List.mem_of_getElem? found)).compensates context memory

end Obeys

/-! ## Every interleaving -/

/-- Every writer obeys, and what it has terminated is still so. -/
structure WorkersConsistent (text : RustText) (system : WorkerWriters) : Prop where
  obey : system.Obey workerProtocol (workerEnds text)
  terminated : ∀ client ∈ system.clients, ∀ workerId ∈ client.memory.terminated,
    IsTerminated system.world workerId

theorem workers_consistent_start (text : RustText) (writers : List WorkerWriter)
    (tables : Tables) : WorkersConsistent text (WorkerWriters.start text writers tables) := by
  constructor
  · intro client member
    obtain ⟨writer, -, rfl⟩ := List.mem_map.mp member
    exact obeys_worker_writer text writer
  · intro client member workerId known
    obtain ⟨writer, -, rfl⟩ := List.mem_map.mp member
    cases known

section Step

variable {text : RustText} {system : WorkerWriters} {move : Nat × Env}

theorem worker_answers (safe : WorkerWritesSafely system move) {memory : WorkerMemory} {op : Op}
    (called : system.moveCall move = some (memory, op)) :
    workerProtocol.answers op (handle move.2 op system.world).1 := by
  have callSafe := safe _ called
  generalize answered : (handle move.2 op system.world).1 = reply
  simp only [workerProtocol]
  split
  case h_1 site filter reply =>
      rintro asked workers rfl worker member
      rw [answer_ok answered] at member
      exact Tables.state_of_find_workers asked member
  case h_2 workerId reply =>
      have clean : move.2.fault .terminateFindWorker = none := callSafe rfl
      rw [← answered]
      simp only [handle, Env.answer, clean]
      exact ⟨_, rfl⟩
  case h_3 workerId state reply =>
      have clean : move.2.fault .terminateUpdateWorker = none := callSafe.2 rfl
      rw [← answered]
      simp only [handle, Env.answer, clean]
      rfl
  case h_4 => trivial

theorem step_worker_keeps_or_moves (obey : system.Obey workerProtocol (workerEnds text))
    (safe : WorkerWritesSafely system move) (workerId : WorkerId) :
    KeptOrMoved WorkerState.canTransitionTo (storedWorkerState system.world workerId)
      (storedWorkerState (system.step move).world workerId) := by
  unfold WorkerWriters.step
  rw [Pool.step_world]
  cases called : system.moveCall move with
  | none => exact .inl rfl
  | some call =>
      exact worker_call_keeps_or_moves (Pool.allowed_of_obey obey called) (safe call called)
        workerId

theorem workers_consistent_step (consistent : WorkersConsistent text system)
    (safe : WorkerWritesSafely system move) : WorkersConsistent text (system.step move) := by
  constructor
  · exact Pool.obey_step consistent.obey move fun _ _ called => worker_answers safe called
  · intro client member workerId known
    have stays : ∀ other, IsTerminated system.world other →
        IsTerminated (system.step move).world other :=
      fun other => is_terminated_of_kept (step_worker_keeps_or_moves consistent.obey safe other)
    rcases Pool.mem_step member with before | ⟨memory, op, called, ⟨before, held, rfl⟩, learned⟩
    · exact stays workerId (consistent.terminated client before workerId known)
    · rw [learned] at known
      rcases terminated_of_remember (Pool.allowed_of_obey consistent.obey called) known with
        earlier | now
      · exact stays workerId (consistent.terminated before held workerId earlier)
      · unfold WorkerWriters.step
        rw [Pool.step_world, called]
        exact now

theorem timed_out_is_terminated (consistent : WorkersConsistent text system) :
    TimedOutIsTerminated text system := by
  intro client member context finished workerId named
  have ends := consistent.obey client member
  unfold Client.Obeys at ends
  rw [finished] at ends
  exact consistent.terminated client member workerId (ends context rfl workerId named)

end Step

/-- In every interleaving in which each write is safe, every change of a worker's
state is a transition, a terminated worker stays so, and a timeout saga that
executed all its steps leaves its worker terminated. -/
theorem worker_states_change_by_transition (text : RustText) (writers : List WorkerWriter)
    (tables : Tables) (moves : List (Nat × Env))
    (safe : EachMove WorkerWriters.step WorkerWritesSafely
      (WorkerWriters.start text writers tables) moves) :
    EachMove WorkerWriters.step WorkersChangeByTransition
        (WorkerWriters.start text writers tables) moves ∧
      (∀ workerId, Settled WorkerWriters.step
        (fun system => storedWorkerState system.world workerId) (IsFinal isTerminated)
        (WorkerWriters.start text writers tables) moves) ∧
      Always WorkerWriters.step (TimedOutIsTerminated text)
        (WorkerWriters.start text writers tables) moves := by
  obtain ⟨always, each⟩ := always_within WorkerWriters.step (WorkersConsistent text)
    (fun system move consistent writes => workers_consistent_step consistent writes)
    (fun system move consistent writes workerId =>
      step_worker_keeps_or_moves consistent.obey writes workerId) moves _
    (workers_consistent_start text writers tables) safe
  refine ⟨?_, ?_, ?_⟩
  · apply each_move_imp _ _ moves _ each
    intro system move all workerId
    exact by_transition_of_kept_or_moved (all workerId)
  · intro workerId
    rw [settled_iff_each_move]
    apply each_move_imp _ _ moves _ each
    intro system move all
    apply same_of_final _ (all workerId)
    intro old new ended
    have terminated := of_decide_eq_true ended
    subst terminated
    cases new <;> rfl
  · exact always_imp _ (fun _ => timed_out_is_terminated) moves _ always

/-! ## One timeout -/

def busyTables : Tables :=
  sampleTables (sampleJob .running) { sampleWorker (some ⟨1⟩) with state := .busy }

def sampleTimeout : WorkerWriter := .wholeSaga (.timeout ⟨⟨1⟩, .fromSecs 300, "t"⟩) sampleContext

/-- The saga up to its release, a release by the registry, and a release by the saga
that does not find the worker. -/
def refusedRelease : List (Nat × Env) :=
  List.replicate 6 (0, quietEnv) ++ [(1, quietEnv), (0, failingAt .releaseFindWorker)]

theorem refused_release_keeps_terminated :
    storedWorkerState (refusedRelease.foldl WorkerWriters.step (WorkerWriters.start sampleText
        [sampleTimeout, .releaseFromJob ⟨2⟩] busyTables)).world ⟨2⟩ = some .terminated ∧
      Always WorkerWriters.step (TimedOutIsTerminated sampleText) (WorkerWriters.start sampleText
        [sampleTimeout, .releaseFromJob ⟨2⟩] busyTables) refusedRelease :=
  ⟨by decide, (worker_states_change_by_transition sampleText
    [sampleTimeout, .releaseFromJob ⟨2⟩] busyTables refusedRelease (by decide)).2.2⟩

/-- A timeout saga that executes all its steps makes the worker it terminated ready
again. -/
theorem timed_out_worker_is_ready_again :
    ¬∀ (text : RustText) (writers : List WorkerWriter) (tables : Tables)
      (moves : List (Nat × Env)),
      EachMove WorkerWriters.step WorkersChangeByTransition
          (WorkerWriters.start text writers tables) moves ∧
        (∀ workerId, Settled WorkerWriters.step
          (fun system => storedWorkerState system.world workerId) (IsFinal isTerminated)
          (WorkerWriters.start text writers tables) moves) ∧
        Always WorkerWriters.step (TimedOutIsTerminated text)
          (WorkerWriters.start text writers tables) moves := by
  intro claim
  obtain ⟨-, -, always⟩ := claim sampleText [sampleTimeout] busyTables
    (List.replicate 8 (0, quietEnv))
  have final := always_final WorkerWriters.step _ _ always
  have finished : ∃ client ∈ ((List.replicate 8 (0, quietEnv)).foldl WorkerWriters.step
      (WorkerWriters.start sampleText [sampleTimeout] busyTables)).clients, ∃ context,
        client.program = .done (some context) ∧
          timedOutWorker sampleText context = some ⟨2⟩ := by
    refine ⟨_, List.mem_cons_self, _, rfl, ?_⟩
    decide
  obtain ⟨client, member, context, done, named⟩ := finished
  have terminated := final client member context done ⟨2⟩ named .ready (by decide)
  cases terminated

end HodeiJobs.Lifecycle
