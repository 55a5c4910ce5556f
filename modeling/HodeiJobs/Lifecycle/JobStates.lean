import HodeiJobs.Library.Transitions
import HodeiJobs.Execution.Exclusive
import HodeiJobs.Lifecycle.Commands

/-!
# The state of a job under concurrent writers

Any number of the handlers and compensations that write a job's state,
interleaved call by call. Two of them check the transition, on the row that they
read in an earlier call; the others write whatever state they find. The update
itself is unconditional.
-/

namespace HodeiJobs.Lifecycle

open HodeiJobs.Library HodeiJobs.Library.Program HodeiJobs.Shared HodeiJobs.Execution
open HodeiJobs.Sagas (SagaContext)

/-! ## Writers -/

inductive JobWriter where
  | completeJob (command : CompleteJobCommand)
  | assignWorker (command : AssignWorkerCommand)
  | updateJobState (command : UpdateJobStateCommand)
  | markJobTimedOut (jobId : JobId)
  | markJobForRecovery (jobId : JobId)
  | transferJob (command : TransferJobCommand)
  | transferJobCompensate (jobId : JobId) (context : SagaContext)
  | resetOrphanedJobsCompensate (dryRun : Bool) (context : SagaContext)

/-- The calls alone. -/
def calls {Failure Result : Type} (program : CallM Failure Result) : Program Op Op.Reply Unit :=
  program.run >>= fun _ => pure ()

def JobWriter.program (text : RustText) (uuidError : String → String) :
    JobWriter → Program Op Op.Reply Unit
  | .completeJob command => calls (completeJobHandler command)
  | .assignWorker command => calls (assignWorkerHandler command)
  | .updateJobState command => calls (updateJobStateHandler command)
  | .markJobTimedOut jobId => calls (markJobTimedOutHandler jobId)
  | .markJobForRecovery jobId => calls (markJobForRecoveryHandler jobId)
  | .transferJob command => calls (transferJobHandler command)
  | .transferJobCompensate jobId context =>
      calls (Lifecycle.transferJobCompensate text jobId context)
  | .resetOrphanedJobsCompensate dryRun context =>
      calls (Lifecycle.resetOrphanedJobsCompensate text uuidError dryRun context)

/-- What `update_state` writes at each call site. One of them follows a check of
the row that was read. -/
def UpdateFollows (read : Option Job) (state : JobState) : CallSite → Prop
  | .completeUpdateJob => ∃ old, read = some old ∧ old.state.canTransitionTo state = true
  | .stateUpdateJob => True
  | .timedOutUpdateJob => state = .failed
  | .recoveryUpdateJob => state = .pending
  | .transferUpdateJob => state = .running
  | .undoTransferUpdateJob => state = .failed
  | .undoResetUpdateJob => state = .running
  | _ => False

/-- A writer remembers the row of the job that it read last. -/
def jobProtocol : Protocol Op Op.Reply (Option Job) where
  answers _ _ := True
  allows
    | read, .updateJob _ job => ∃ old, read = some old ∧ old.state.canTransitionTo job.state = true
    | read, .updateJobState site _ state => UpdateFollows read state site
    | _, _ => True
  remember
    | _, .findJob _ _, Except.ok found => found
    | read, _, _ => read

abbrev JobWriters := Pool Op Op.Reply (Option Job) Unit Tables

namespace JobWriters

def start (text : RustText) (uuidError : String → String) (writers : List JobWriter)
    (tables : Tables) : JobWriters :=
  ⟨writers.map fun writer => ⟨none, writer.program text uuidError⟩, tables⟩

def step (system : JobWriters) (move : Nat × Env) : JobWriters :=
  Pool.step jobProtocol handle system move

end JobWriters

/-! ## The law and the condition -/

def storedState (tables : Tables) (jobId : JobId) : Option JobState :=
  (tables.jobs.find jobId).map Job.state

/-- Every change that the move makes to the state of a job is a transition. -/
def ChangesByTransition (system : JobWriters) (move : Nat × Env) : Prop :=
  ∀ jobId, ByTransition JobState.canTransitionTo (storedState system.world jobId)
    (storedState (system.step move).world jobId)

/-- The row that the writer read still has the state that is stored. -/
def Fresh (tables : Tables) (jobId : JobId) (read : Option Job) : Prop :=
  storedState tables jobId = read.map Job.state

instance (tables : Tables) (jobId : JobId) (read : Option Job) :
    Decidable (Fresh tables jobId read) :=
  inferInstanceAs (Decidable (_ = _))

/-- The states from which a job may still fail, besides `Failed` itself. -/
def mayFail : List JobState :=
  [.pending, .assigned, .scheduled, .running, .manualInterventionRequired, .failed]

def mayRun : List JobState := [.assigned, .scheduled, .running]

def mayPend : List JobState := [.manualInterventionRequired, .pending]

/-- What each writer needs of the stored state for its update to be a transition. -/
def UpdateIsSafe (tables : Tables) (read : Option Job) (jobId : JobId) (state : JobState) :
    CallSite → Prop
  | .completeUpdateJob => Fresh tables jobId read
  | .stateUpdateJob =>
      Fresh tables jobId read ∧ ∀ job ∈ read, job.state.canTransitionTo state = true
  | .timedOutUpdateJob => Fresh tables jobId read ∧ ∀ job ∈ read, job.state ∈ mayFail
  | .recoveryUpdateJob => Fresh tables jobId read ∧ ∀ job ∈ read, job.state ∈ mayPend
  | .transferUpdateJob => Fresh tables jobId read ∧ ∀ job ∈ read, job.state ∈ mayRun
  | .undoTransferUpdateJob => ∀ stored ∈ storedState tables jobId, stored ∈ mayFail
  | .undoResetUpdateJob => ∀ stored ∈ storedState tables jobId, stored ∈ mayRun
  | _ => True

instance (tables : Tables) (read : Option Job) (jobId : JobId) (state : JobState)
    (site : CallSite) : Decidable (UpdateIsSafe tables read jobId state site) := by
  unfold UpdateIsSafe
  split <;> infer_instance

def WriteIsSafe (tables : Tables) (read : Option Job) : Op → Prop
  | .updateJob _ job => Fresh tables job.id read
  | .updateJobState site jobId state => UpdateIsSafe tables read jobId state site
  | _ => True

instance (tables : Tables) (read : Option Job) (op : Op) :
    Decidable (WriteIsSafe tables read op) := by
  unfold WriteIsSafe
  split <;> infer_instance

def WritesSafely (system : JobWriters) (move : Nat × Env) : Prop :=
  ∀ call ∈ system.moveCall move, WriteIsSafe system.world call.1 call.2

instance (system : JobWriters) (move : Nat × Env) : Decidable (WritesSafely system move) :=
  inferInstanceAs (Decidable (∀ call ∈ system.moveCall move, _))

/-! ## One move -/

theorem stored_save_job (tables : Tables) (job : Job) (jobId : JobId) :
    storedState (tables.saveJob job) jobId =
      if jobId = job.id then some job.state else storedState tables jobId := by
  unfold storedState
  split_ifs with same
  · rw [same, Tables.find_job_save]
    rfl
  · unfold Tables.saveJob
    rw [Table.find_upsert_other tables.jobs job (Ne.symm same)]

theorem stored_update_job_state (tables : Tables) (wanted : JobId) (state : JobState)
    (jobId : JobId) :
    storedState (tables.updateJobState wanted state) jobId =
      if jobId = wanted then (storedState tables jobId).map fun _ => state
      else storedState tables jobId := by
  unfold storedState Tables.updateJobState
  rw [Table.find_update]
  split_ifs
  · rw [Option.map_map, Option.map_map]
    rfl
  · rfl

theorem may_fail_cases {state : JobState} (member : state ∈ mayFail) :
    state = .failed ∨ state.canTransitionTo .failed = true := by
  revert state
  decide

theorem may_run_cases {state : JobState} (member : state ∈ mayRun) :
    state = .running ∨ state.canTransitionTo .running = true := by
  revert state
  decide

theorem may_pend_cases {state : JobState} (member : state ∈ mayPend) :
    state = .pending ∨ state.canTransitionTo .pending = true := by
  revert state
  decide

section Move

variable {tables : Tables} {read : Option Job}

/-- A fresh reading says all about the stored state. -/
theorem stored_of_fresh {jobId : JobId} {holds : JobState → Prop} (fresh : Fresh tables jobId read)
    (known : ∀ job ∈ read, holds job.state) : ∀ state ∈ storedState tables jobId, holds state := by
  intro state stored
  rw [fresh] at stored
  obtain ⟨job, found, rfl⟩ := Option.map_eq_some_iff.mp stored
  exact known job found

theorem update_is_safe {site : CallSite} {jobId : JobId} {state : JobState}
    (follows : UpdateFollows read state site) (safe : UpdateIsSafe tables read jobId state site) :
    ∀ old ∈ storedState tables jobId, old = state ∨ old.canTransitionTo state = true := by
  unfold UpdateFollows at follows
  split at follows
  · obtain ⟨old, rfl, moves⟩ := follows
    refine stored_of_fresh safe ?_
    rintro job ⟨rfl⟩
    exact .inr moves
  · exact stored_of_fresh safe.1 fun job found => .inr (safe.2 job found)
  · subst follows
    exact stored_of_fresh safe.1 fun job found => may_fail_cases (safe.2 job found)
  · subst follows
    exact stored_of_fresh safe.1 fun job found => may_pend_cases (safe.2 job found)
  · subst follows
    exact stored_of_fresh safe.1 fun job found => may_run_cases (safe.2 job found)
  · subst follows
    exact fun old stored => may_fail_cases (safe old stored)
  · subst follows
    exact fun old stored => may_run_cases (safe old stored)
  · exact follows.elim

theorem call_keeps_or_moves (env : Env) {op : Op} (allowed : jobProtocol.allows read op)
    (safe : WriteIsSafe tables read op) (jobId : JobId) :
    KeptOrMoved JobState.canTransitionTo (storedState tables jobId)
      (storedState (handle env op tables).2 jobId) := by
  rcases handle_jobs_cases env op tables with
    same | ⟨site, job, rfl, saved⟩ | ⟨site, wanted, state, rfl, updated⟩
  · left
    unfold storedState
    rw [same]
  · rw [saved, stored_save_job]
    split_ifs with own
    · subst own
      obtain ⟨old, rfl, moves⟩ := allowed
      exact .inr ⟨old.state, job.state, safe, rfl, moves⟩
    · exact .inl rfl
  · rw [updated, stored_update_job_state]
    split_ifs with own
    · subst own
      exact kept_or_moved_write (update_is_safe allowed safe)
    · exact .inl rfl

end Move

theorem step_keeps_or_moves {system : JobWriters} {ends : Option Job → Unit → Prop}
    (obey : system.Obey jobProtocol ends) (move : Nat × Env) (safe : WritesSafely system move)
    (jobId : JobId) :
    KeptOrMoved JobState.canTransitionTo (storedState system.world jobId)
      (storedState (system.step move).world jobId) := by
  unfold JobWriters.step
  rw [Pool.step_world]
  cases called : system.moveCall move with
  | none => exact .inl rfl
  | some call =>
      exact call_keeps_or_moves move.2 (Pool.allowed_of_obey obey called) (safe call called) jobId

/-! ## Every writer obeys -/

section Obeys

variable {Failure Result : Type} {read : Option Job}

/-- A program whose calls the protocol allows. -/
def Allowed (read : Option Job) (program : CallM Failure Result) : Prop :=
  Returns jobProtocol (fun _ _ => True) program read

theorem obeys_calls {program : CallM Failure Result} (allowed : Allowed read program) :
    Program.Obeys jobProtocol (fun _ _ => True) (calls program) read := by
  unfold calls
  rw [obeys_bind]
  exact obeys_imp jobProtocol (fun _ _ _ => trivial) _ _ allowed

theorem allowed_release_worker (jobId : JobId) (finalState : JobState) :
    Allowed read (releaseWorker jobId finalState) := by
  unfold Allowed releaseWorker
  split_ifs
  · refine returns_seq (returns_request trivial ?_)
    intro reply _
    split
    · refine returns_call_or (returns_request trivial ?_)
      intro _ _ _ _
      trivial
    · exact returns_pure trivial
  · exact returns_pure trivial

theorem allowed_complete_job (command : CompleteJobCommand) :
    Allowed none (completeJobHandler command) := by
  unfold Allowed completeJobHandler
  refine returns_lookup (returns_request trivial ?_)
  rintro reply - job rfl
  by_cases moves : job.state.canTransitionTo command.finalState = true
  · rw [if_pos moves]
    refine returns_seq (returns_call_or (returns_request ⟨job, rfl, moves⟩ ?_))
    rintro reply - updated rfl
    refine returns_bind (allowed_release_worker _ _) ?_
    intro _ _ _
    exact returns_pure trivial
  · rw [if_neg moves]
    exact returns_throw _ _ _

theorem allowed_select_worker (command : AssignWorkerCommand) :
    Allowed read (selectWorker command) := by
  unfold Allowed selectWorker
  cases command.workerId with
  | some workerId =>
      refine returns_lookup (returns_request trivial ?_)
      rintro reply - worker rfl
      split_ifs
      · exact returns_throw _ _ _
      · exact returns_pure trivial
  | none =>
      refine returns_seq (returns_call_or (returns_request trivial ?_))
      rintro reply - found rfl
      exact returns_pure trivial

theorem transition_of_set_state {job moved : Job} {state : JobState}
    (set : job.setState state = .ok moved) : job.state.canTransitionTo moved.state = true := by
  unfold Job.setState at set
  split_ifs at set with moves
  cases set
  exact moves

theorem allowed_assign_worker (command : AssignWorkerCommand) :
    Allowed none (assignWorkerHandler command) := by
  refine returns_bind (allowed_select_worker command) ?_
  intro read selection _
  cases selection with
  | none => exact returns_pure trivial
  | some workerId =>
      refine returns_lookup (returns_request trivial ?_)
      rintro reply - job rfl
      cases set : job.setState .assigned with
      | error error => exact returns_throw _ _ _
      | ok assigned =>
          have moves := transition_of_set_state set
          refine returns_seq (returns_call_or (returns_request ⟨job, rfl, moves⟩ ?_))
          rintro reply - saved rfl
          refine returns_seq (returns_call_or (returns_request trivial ?_))
          rintro reply - busy rfl
          refine returns_lookup (returns_request trivial ?_)
          rintro reply - worker rfl
          exact returns_pure trivial

theorem allowed_update_job_state (command : UpdateJobStateCommand) :
    Allowed none (updateJobStateHandler command) := by
  unfold Allowed updateJobStateHandler
  refine returns_seq (returns_call_or (returns_request trivial ?_))
  rintro reply - found rfl
  split_ifs
  · exact returns_pure trivial
  · refine returns_seq (returns_call_or (returns_request trivial ?_))
    rintro reply - updated rfl
    exact returns_pure trivial

theorem allowed_mark_job_timed_out (jobId : JobId) :
    Allowed none (markJobTimedOutHandler jobId) := by
  unfold Allowed markJobTimedOutHandler
  refine returns_seq (returns_call_or (returns_request trivial ?_))
  rintro reply - found rfl
  cases found with
  | none => exact returns_pure trivial
  | some job =>
      dsimp only
      split_ifs
      · exact returns_pure trivial
      · refine returns_seq (returns_call_or (returns_request rfl ?_))
        rintro reply - updated rfl
        exact returns_pure trivial

theorem allowed_mark_job_for_recovery (jobId : JobId) :
    Allowed none (markJobForRecoveryHandler jobId) := by
  unfold Allowed markJobForRecoveryHandler
  refine returns_lookup (returns_request trivial ?_)
  rintro reply - job rfl
  refine returns_seq (returns_call_or (returns_request rfl ?_))
  rintro reply - updated rfl
  exact returns_pure trivial

theorem allowed_transfer_job (command : TransferJobCommand) :
    Allowed none (transferJobHandler command) := by
  unfold Allowed transferJobHandler
  refine returns_lookup (returns_request trivial ?_)
  rintro reply - job rfl
  refine returns_seq (returns_call_or (returns_request trivial ?_))
  rintro reply - busy rfl
  refine returns_seq (returns_call_or (returns_request rfl ?_))
  rintro reply - updated rfl
  exact returns_pure trivial

theorem allowed_transfer_job_compensate (text : RustText) (jobId : JobId) (context : SagaContext) :
    Allowed none (Lifecycle.transferJobCompensate text jobId context) := by
  unfold Allowed Lifecycle.transferJobCompensate
  split_ifs
  · cases context.services with
    | none => exact returns_pure trivial
    | some services =>
        dsimp only
        split_ifs
        · refine returns_call_or (returns_request rfl ?_)
          intro _ _ _ _
          trivial
        · exact returns_pure trivial
  · exact returns_pure trivial

theorem allowed_restore_jobs (text : RustText) (uuidError : String → String)
    (jobIds : List String) : Allowed read (restoreJobs text uuidError jobIds) := by
  induction jobIds generalizing read with
  | nil => exact returns_pure trivial
  | cons jobIdText rest ih =>
      unfold Allowed restoreJobs
      cases text.parse jobIdText with
      | none => exact returns_throw _ _ _
      | some uuid =>
          refine returns_seq (returns_request rfl ?_)
          intro reply _
          exact ih

theorem allowed_reset_orphaned_jobs_compensate (text : RustText) (uuidError : String → String)
    (dryRun : Bool) (context : SagaContext) :
    Allowed none (Lifecycle.resetOrphanedJobsCompensate text uuidError dryRun context) := by
  unfold Allowed Lifecycle.resetOrphanedJobsCompensate
  split_ifs
  · exact returns_pure trivial
  · refine returns_seq (returns_ok_or ?_)
    intro services _
    split_ifs
    · exact allowed_restore_jobs text uuidError _
    · exact returns_throw _ _ _

theorem obeys_writer (text : RustText) (uuidError : String → String) (writer : JobWriter) :
    Program.Obeys jobProtocol (fun _ _ => True) (writer.program text uuidError) none := by
  cases writer with
  | completeJob command => exact obeys_calls (allowed_complete_job command)
  | assignWorker command => exact obeys_calls (allowed_assign_worker command)
  | updateJobState command => exact obeys_calls (allowed_update_job_state command)
  | markJobTimedOut jobId => exact obeys_calls (allowed_mark_job_timed_out jobId)
  | markJobForRecovery jobId => exact obeys_calls (allowed_mark_job_for_recovery jobId)
  | transferJob command => exact obeys_calls (allowed_transfer_job command)
  | transferJobCompensate jobId context =>
      exact obeys_calls (allowed_transfer_job_compensate text jobId context)
  | resetOrphanedJobsCompensate dryRun context =>
      exact obeys_calls (allowed_reset_orphaned_jobs_compensate text uuidError dryRun context)

theorem obey_start (text : RustText) (uuidError : String → String) (writers : List JobWriter)
    (tables : Tables) :
    (JobWriters.start text uuidError writers tables).Obey jobProtocol fun _ _ => True := by
  intro client member
  obtain ⟨writer, -, rfl⟩ := List.mem_map.mp member
  exact obeys_writer text uuidError writer

end Obeys

/-! ## Every interleaving -/

/-- In every interleaving in which each write is safe, every change of a job's
state is a transition, and a final state stays. -/
theorem job_states_change_by_transition (text : RustText) (uuidError : String → String)
    (writers : List JobWriter) (tables : Tables) (moves : List (Nat × Env))
    (safe : EachMove JobWriters.step WritesSafely
      (JobWriters.start text uuidError writers tables) moves) :
    EachMove JobWriters.step ChangesByTransition
        (JobWriters.start text uuidError writers tables) moves ∧
      ∀ jobId, Settled JobWriters.step (fun system => storedState system.world jobId)
        (IsFinal JobState.isTerminal)
        (JobWriters.start text uuidError writers tables) moves := by
  have keeps : ∀ (system : JobWriters) (move : Nat × Env),
      system.Obey jobProtocol (fun _ _ => True) → WritesSafely system move →
        (system.step move).Obey jobProtocol fun _ _ => True := by
    intro system move obey _
    exact Pool.obey_step obey move fun _ _ _ => trivial
  obtain ⟨-, each⟩ := always_within JobWriters.step
    (fun system => system.Obey jobProtocol fun _ _ => True) keeps
    (fun system move obey writes jobId => step_keeps_or_moves obey move writes jobId) moves _
    (obey_start text uuidError writers tables) safe
  constructor
  · apply each_move_imp _ _ moves _ each
    intro system move all jobId
    exact by_transition_of_kept_or_moved (all jobId)
  · intro jobId
    rw [settled_iff_each_move]
    apply each_move_imp _ _ moves _ each
    intro system move all
    exact same_of_final (fun _ next terminal => JobState.not_transition_of_terminal terminal next)
      (all jobId)

/-! ## A finished job -/

/-- Two calls of each of two writers. -/
def twoWriters : List (Nat × Env) := [(0, quietEnv), (0, quietEnv), (1, quietEnv), (1, quietEnv)]

/-- The job is completed, and the timeout that comes too late reads it as failed. -/
theorem late_timeout_keeps_the_job :
    storedState (twoWriters.foldl JobWriters.step (JobWriters.start sampleText id
        [.completeJob ⟨⟨1⟩, .failed⟩, .markJobTimedOut ⟨1⟩]
        (sampleTables (sampleJob .running) (sampleWorker none)))).world ⟨1⟩ = some .failed ∧
      EachMove JobWriters.step ChangesByTransition (JobWriters.start sampleText id
        [.completeJob ⟨⟨1⟩, .failed⟩, .markJobTimedOut ⟨1⟩]
        (sampleTables (sampleJob .running) (sampleWorker none))) twoWriters :=
  ⟨rfl, (job_states_change_by_transition sampleText id
    [.completeJob ⟨⟨1⟩, .failed⟩, .markJobTimedOut ⟨1⟩]
    (sampleTables (sampleJob .running) (sampleWorker none)) twoWriters (by decide)).1⟩

/-- `MarkJobForRecoveryHandler` makes a succeeded job pending. -/
theorem recovery_reopens_a_job :
    ¬∀ (text : RustText) (uuidError : String → String) (writers : List JobWriter)
      (tables : Tables) (moves : List (Nat × Env)),
      EachMove JobWriters.step ChangesByTransition
          (JobWriters.start text uuidError writers tables) moves ∧
        ∀ jobId, Settled JobWriters.step (fun system => storedState system.world jobId)
        (IsFinal JobState.isTerminal)
          (JobWriters.start text uuidError writers tables) moves := by
  intro claim
  obtain ⟨⟨-, second, -⟩, -⟩ := claim sampleText id [.markJobForRecovery ⟨1⟩]
    (sampleTables (sampleJob .succeeded) (sampleWorker none)) [(0, quietEnv), (0, quietEnv)]
  have reopened := second ⟨1⟩ .succeeded .pending rfl rfl (by decide)
  revert reopened
  decide

end HodeiJobs.Lifecycle
