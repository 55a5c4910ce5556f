import HodeiJobs.Library.Runs
import HodeiJobs.Execution.Outcome

/-!
# Messages of a worker about its job

`on_job_acknowledged` and `on_job_result` of `WorkerAgentServiceImpl`, each on a
freshly read job, and runs of them in any order. Neither looks at which worker
the job is assigned to, and a result moves the job with a checked transition.
The events that both publish are left out: no error of theirs is returned.
-/

namespace HodeiJobs.Interface

open HodeiJobs.Library HodeiJobs.Library.Program HodeiJobs.Shared HodeiJobs.Execution
open HodeiJobs.Sagas (DateTime)

/-! ## The handlers -/

inductive Status where
  | internal (message : String)
  | notFound (message : String)
  | failedPrecondition (message : String)
  | invalidArgument (message : String)
  | deadlineExceeded (message : String)
  | unauthenticated (message : String)

structure JobOutcome where
  exitCode : Int
  success : Bool
  errorMessage : String
  deriving DecidableEq

structure JobResultMessage extends JobOutcome where
  jobId : String

namespace JobOutcome

def failureMessage (outcome : JobOutcome) : String :=
  if outcome.errorMessage = "" then "Worker reported failure" else outcome.errorMessage

/-- `msg.starts_with("TIMEOUT:")`. -/
def isTimeout (outcome : JobOutcome) : Bool :=
  "TIMEOUT:".toList.isPrefixOf outcome.failureMessage.toList

/-- The state that the outcome asks for. -/
def state (outcome : JobOutcome) : JobState :=
  if outcome.success then .succeeded else if outcome.isTimeout then .timeout else .failed

/-- The job with the outcome, if its state allows it. -/
def applyTo (outcome : JobOutcome) (job : Job) (now : DateTime) : Except DomainError Job :=
  if outcome.success then job.complete (.success outcome.exitCode "" "") now
  else if outcome.isTimeout then job.timeout now
  else job.fail outcome.failureMessage now

end JobOutcome

structure WorkerAgentService where
  hasWorkerRegistry : Bool
  hasJobRepository : Bool

def parseWorkerUuid (text : RustText) (workerId : String) : CallM Status WorkerId := do
  let uuid ← okOr (text.parse workerId) (.invalidArgument "worker_id must be a UUID")
  return ⟨uuid⟩

def parseJobUuid (text : RustText) (jobId : String) : CallM Status JobId := do
  let uuid ← okOr (text.parse jobId) (.invalidArgument "job_id must be a UUID")
  return ⟨uuid⟩

def internalError (text : RustText) (error : DomainError) : Status :=
  .internal (text.displayDomainError error)

/-- A pending job is first taken to running, which `mark_running` refuses. -/
def startIfPending (text : RustText) (job : Job) : CallM Status Job := do
  if job.state = .pending then do
    let now ← call .now
    match job.markRunning now with
    | .error error => throw (.failedPrecondition (text.displayDomainError error))
    | .ok job => do
        callOr (call (.updateJob .resultUpdateRunning job)) (internalError text)
        return job
  else return job

/-- `release_from_job` on the worker that sent the result. -/
def releaseReporter (text : RustText) (state : JobState) (workerId : WorkerId) :
    CallM Status Unit := do
  if state.isTerminal then
    match ← call (.findWorker .resultFindWorker workerId) with
    | .ok (some _) =>
        callOr (call (.releaseFromJob .resultReleaseWorker workerId)) (internalError text)
    | _ => return ()
  else return ()

def onJobResult (service : WorkerAgentService) (text : RustText) (workerId : String)
    (result : JobResultMessage) : CallM Status Unit := do
  if service.hasWorkerRegistry && service.hasJobRepository then do
    let workerId ← parseWorkerUuid text workerId
    let jobId ← parseJobUuid text result.jobId
    let found ← callOr (call (.findJob .resultFindJob jobId)) (internalError text)
    let job ← okOr found (.notFound "Job not found")
    let job ← startIfPending text job
    let now ← call .now
    match result.applyTo job now with
    | .error error => throw (.failedPrecondition (text.displayDomainError error))
    | .ok job => do
        callOr (call (.updateJob .resultUpdateJob job)) (internalError text)
        releaseReporter text job.state workerId
  else return ()

def onJobAcknowledged (service : WorkerAgentService) (text : RustText) (workerId jobId : String) :
    CallM Status Unit := do
  if service.hasJobRepository then do
    let _ ← parseWorkerUuid text workerId
    let jobId ← parseJobUuid text jobId
    let found ← callOr (call (.findJob .acknowledgedFindJob jobId)) (internalError text)
    let job ← okOr found (.notFound "Job not found")
    let now ← call .now
    match job.markRunning now with
    | .error error => throw (.failedPrecondition (text.displayDomainError error))
    | .ok job => callOr (call (.updateJob .acknowledgedUpdateJob job)) (internalError text)
  else return ()

/-! ## What each message does -/

/-- Every call succeeds, at one time. -/
def clock (now : DateTime) : Env := ⟨fun _ => none, now, 0⟩

theorem clock_quiet (now : DateTime) : Quiet (clock now) := fun _ => rfl

/-- The state machine alone decides whether an outcome is taken. -/
theorem apply_to_eq (outcome : JobOutcome) (job : Job) (now : DateTime) :
    (job.state.canTransitionTo outcome.state = true ∧
      ∃ finished, outcome.applyTo job now = .ok finished ∧ finished.id = job.id ∧
        finished.state = outcome.state) ∨
    (job.state.canTransitionTo outcome.state = false ∧
      ∃ error, outcome.applyTo job now = .error error) := by
  unfold JobOutcome.applyTo JobOutcome.state
  cases outcome.success with
  | true =>
      rw [if_pos rfl, if_pos rfl]
      unfold Job.complete JobResult.state
      cases allowed : job.state.canTransitionTo .succeeded with
      | true => exact .inl ⟨rfl, _, if_pos rfl, rfl, rfl⟩
      | false => exact .inr ⟨rfl, _, if_neg Bool.false_ne_true⟩
  | false =>
      rw [if_neg Bool.false_ne_true, if_neg Bool.false_ne_true]
      cases outcome.isTimeout with
      | true =>
          rw [if_pos rfl, if_pos rfl]
          unfold Job.timeout
          cases allowed : job.state.canTransitionTo .timeout with
          | true => exact .inl ⟨rfl, _, if_pos rfl, rfl, rfl⟩
          | false => exact .inr ⟨rfl, _, if_neg Bool.false_ne_true⟩
      | false =>
          rw [if_neg Bool.false_ne_true, if_neg Bool.false_ne_true]
          unfold Job.fail
          cases allowed : job.state.canTransitionTo .failed with
          | true => exact .inl ⟨rfl, _, if_pos rfl, rfl, rfl⟩
          | false => exact .inr ⟨rfl, _, if_neg Bool.false_ne_true⟩

section Handlers

variable (text : RustText) {tables : Tables} {job : Job} (now : DateTime)

theorem run_parse_worker (workerId : WorkerId) :
    exec (handle (clock now)) (parseWorkerUuid text (text.display workerId.uuid)) tables =
      (.ok workerId, tables) := by
  unfold parseWorkerUuid
  rw [exec_bind_ok _ _ _ (run_ok_or tables (text.parse_display workerId.uuid))]
  rfl

theorem run_parse_job (jobId : JobId) :
    exec (handle (clock now)) (parseJobUuid text (text.display jobId.uuid)) tables =
      (.ok jobId, tables) := by
  unfold parseJobUuid
  rw [exec_bind_ok _ _ _ (run_ok_or tables (text.parse_display jobId.uuid))]
  rfl

/-- A service with both repositories. -/
def configured : WorkerAgentService := ⟨true, true⟩

theorem run_now : exec (handle (clock now)) (call .now : CallM Status DateTime) tables =
    (.ok now, tables) := rfl

/-- An acknowledged job is saved as running if its state allows it. -/
theorem acknowledged_tables (stored : tables.jobs.find job.id = some job) (workerId : WorkerId) :
    (exec (handle (clock now)) (onJobAcknowledged configured text (text.display workerId.uuid)
        (text.display job.id.uuid)) tables).2 =
      if job.state.canTransitionTo .running then
        tables.saveJob { job with state := .running, startedAt := some now }
      else tables := by
  have repository : configured.hasJobRepository = true := rfl
  unfold onJobAcknowledged
  rw [if_pos repository, exec_bind_ok _ _ _ (run_parse_worker text now workerId),
    exec_bind_ok _ _ _ (run_parse_job text now job.id),
    exec_bind_ok _ _ _ (run_find_job (clock_quiet now _) _ tables job.id),
    exec_bind_ok _ _ _ (run_ok_or tables stored), exec_bind_ok _ _ _ (run_now now)]
  unfold Job.markRunning
  split_ifs
  · exact congrArg Prod.snd (run_update_job (clock_quiet now _) _ tables _)
  · rfl

/-- The sender of a result loses its job. -/
theorem release_reporter_tables {state : JobState} (terminal : state.isTerminal = true)
    (workerId : WorkerId) :
    (exec (handle (clock now)) (releaseReporter text state workerId) tables).2 =
      match tables.workers.find workerId with
      | some _ => tables.releaseFromJob now workerId
      | none => tables := by
  have asked : exec (handle (clock now)) (call (.findWorker .resultFindWorker workerId) :
      CallM Status (Except DomainError (Option Worker))) tables =
      (.ok (.ok (tables.workers.find workerId)), tables) := rfl
  unfold releaseReporter
  rw [if_pos terminal, exec_bind_ok _ _ _ asked]
  cases tables.workers.find workerId with
  | none => rfl
  | some worker => rfl

theorem outcome_state_terminal (outcome : JobOutcome) : outcome.state.isTerminal = true := by
  unfold JobOutcome.state
  split_ifs <;> rfl

/-- A result that the job does not accept changes nothing. -/
theorem refused_result_tables (stored : tables.jobs.find job.id = some job)
    (outcome : JobOutcome) (workerId : WorkerId)
    (refused : job.state = .pending ∨ job.state.canTransitionTo outcome.state = false) :
    (exec (handle (clock now)) (onJobResult configured text (text.display workerId.uuid)
      ⟨outcome, text.display job.id.uuid⟩) tables).2 = tables := by
  have repositories : (configured.hasWorkerRegistry && configured.hasJobRepository) = true := rfl
  unfold onJobResult
  rw [if_pos repositories, exec_bind_ok _ _ _ (run_parse_worker text now workerId),
    exec_bind_ok _ _ _ (run_parse_job text now job.id),
    exec_bind_ok _ _ _ (run_find_job (clock_quiet now _) _ tables job.id),
    exec_bind_ok _ _ _ (run_ok_or tables stored)]
  by_cases pending : job.state = .pending
  · have starts : exec (handle (clock now)) (startIfPending text job) tables =
        (.error (.failedPrecondition (text.displayDomainError
          (.invalidStateTransition job.id job.state .running))), tables) := by
      have unstartable : ¬job.state.canTransitionTo .running = true := by
        rw [pending]
        decide
      unfold startIfPending Job.markRunning
      rw [if_pos pending, exec_bind_ok _ _ _ (run_now now), if_neg unstartable]
      rfl
    rw [exec_bind_error _ _ _ starts]
  · have starts : exec (handle (clock now)) (startIfPending text job) tables =
        (.ok job, tables) := by
      unfold startIfPending
      rw [if_neg pending]
      rfl
    rw [exec_bind_ok _ _ _ starts, exec_bind_ok _ _ _ (run_now now)]
    rcases apply_to_eq outcome job now with ⟨allowed, -⟩ | ⟨-, error, fails⟩
    · rcases refused with absurdity | notAllowed
      · exact absurd absurdity pending
      · rw [notAllowed] at allowed
        cases allowed
    · rw [fails]
      rfl

/-- A result that the job accepts is stored, and its sender is released. -/
theorem accepted_result_tables (stored : tables.jobs.find job.id = some job)
    (outcome : JobOutcome) (workerId : WorkerId) (started : job.state ≠ .pending)
    (allowed : job.state.canTransitionTo outcome.state = true) :
    ∃ finished : Job, finished.id = job.id ∧ finished.state = outcome.state ∧
      (exec (handle (clock now)) (onJobResult configured text (text.display workerId.uuid)
        ⟨outcome, text.display job.id.uuid⟩) tables).2 =
        match tables.workers.find workerId with
        | some _ => (tables.saveJob finished).releaseFromJob now workerId
        | none => tables.saveJob finished := by
  have repositories : (configured.hasWorkerRegistry && configured.hasJobRepository) = true := rfl
  have starts : exec (handle (clock now)) (startIfPending text job) tables =
      (.ok job, tables) := by
    unfold startIfPending
    rw [if_neg started]
    rfl
  unfold onJobResult
  rw [if_pos repositories, exec_bind_ok _ _ _ (run_parse_worker text now workerId),
    exec_bind_ok _ _ _ (run_parse_job text now job.id),
    exec_bind_ok _ _ _ (run_find_job (clock_quiet now _) _ tables job.id),
    exec_bind_ok _ _ _ (run_ok_or tables stored), exec_bind_ok _ _ _ starts,
    exec_bind_ok _ _ _ (run_now now)]
  rcases apply_to_eq outcome job now with ⟨-, finished, succeeds, sameId, state⟩ | ⟨notAllowed, -⟩
  · refine ⟨finished, sameId, state, ?_⟩
    have terminal : finished.state.isTerminal = true := by
      rw [state]
      exact outcome_state_terminal outcome
    rw [succeeds]
    dsimp only
    rw [exec_bind_ok _ _ _ (run_update_job (clock_quiet now _) _ tables finished),
      release_reporter_tables text now terminal]
    rfl
  · rw [notAllowed] at allowed
    cases allowed

end Handlers

/-! ## Runs of messages -/

def activeStates : List JobState := [.pending, .assigned, .scheduled, .running]

/-- The tables, the worker that the job is assigned to, and whether that worker
has sent a result. -/
structure System where
  tables : Tables
  assignedTo : WorkerId
  answered : Bool

/-- A message about the job, or the job being recovered or transferred to another
worker in between. -/
inductive Move where
  | acknowledged (workerId : WorkerId) (now : DateTime)
  | result (workerId : WorkerId) (outcome : JobOutcome) (now : DateTime)
  | reassigned (workerId : WorkerId) (state : { state : JobState // state ∈ activeStates })

def step (text : RustText) (jobId : JobId) (system : System) : Move → System
  | .acknowledged workerId now =>
      { system with
        tables := (exec (handle (clock now)) (onJobAcknowledged configured text
          (text.display workerId.uuid) (text.display jobId.uuid)) system.tables).2 }
  | .result workerId outcome now =>
      { system with
        tables := (exec (handle (clock now)) (onJobResult configured text
          (text.display workerId.uuid) ⟨outcome, text.display jobId.uuid⟩) system.tables).2
        answered := system.answered || decide (workerId = system.assignedTo) }
  | .reassigned workerId state =>
      ⟨system.tables.updateJobState jobId state, workerId, false⟩

/-- What the messages are for: the first result of the assigned worker is stored
and releases it, and no other message changes the job once it is answered. -/
def MeetsContract (text : RustText) (jobId : JobId) (system : System) (move : Move) : Prop :=
  let after := (step text jobId system move).tables
  match move with
  | .acknowledged _ _ =>
      system.answered = true → after.jobs.find jobId = system.tables.jobs.find jobId
  | .result workerId outcome _ =>
      if system.answered = false ∧ workerId = system.assignedTo then
        (after.jobs.find jobId).map Job.state = some outcome.state ∧
          ∀ worker, after.workers.find workerId = some worker → worker.currentJobId = none
      else after.jobs.find jobId = system.tables.jobs.find jobId
  | .reassigned _ _ => True

/-- The stored job takes the outcome: it has been started, or the outcome is a
failure of a job that has a worker. -/
def Accepts (jobId : JobId) (tables : Tables) (outcome : JobOutcome) : Prop :=
  ∃ job, tables.jobs.find jobId = some job ∧ job.state ≠ .pending ∧
    job.state.canTransitionTo outcome.state = true

/-- Until a result has come, a result is accepted exactly if its sender is the
worker that the job is assigned to. -/
def ResultFits (jobId : JobId) (system : System) : Move → Prop
  | .result workerId outcome _ =>
      system.answered = false →
        (Accepts jobId system.tables outcome ↔ workerId = system.assignedTo)
  | _ => True

/-- The job is stored, active until it is answered and in a final state from then
on. -/
structure Consistent (jobId : JobId) (system : System) : Prop where
  stored : ∃ job, system.tables.jobs.find jobId = some job ∧
    (system.answered = false → job.state ∈ activeStates) ∧
    (system.answered = true → job.state.isTerminal = true)

section Runs

variable (text : RustText) {jobId : JobId} {system : System}

theorem terminal_refuses {state : JobState} (terminal : state.isTerminal = true)
    (target : JobState) : state.canTransitionTo target = false := by
  revert terminal
  cases state <;> cases target <;> decide

theorem outcome_state_inactive (outcome : JobOutcome) : outcome.state ∉ activeStates := by
  unfold JobOutcome.state
  split_ifs <;> decide

theorem can_transition_to_irreflexive (state : JobState) :
    state.canTransitionTo state = false := by
  cases state <;> rfl

theorem accepts_iff {job : Job} (stored : system.tables.jobs.find jobId = some job)
    (outcome : JobOutcome) :
    Accepts jobId system.tables outcome ↔
      job.state ≠ .pending ∧ job.state.canTransitionTo outcome.state = true := by
  unfold Accepts
  rw [stored]
  constructor
  · rintro ⟨other, same, accepts⟩
    cases same
    exact accepts
  · intro accepts
    exact ⟨job, rfl, accepts⟩

/-- A refused result leaves the tables alone. -/
theorem step_refused {outcome : JobOutcome} {job : Job}
    (stored : system.tables.jobs.find jobId = some job)
    (refused : ¬Accepts jobId system.tables outcome) (workerId : WorkerId) (now : DateTime) :
    (step text jobId system (.result workerId outcome now)).tables = system.tables := by
  have key : job.id = jobId := Table.find_some_key stored
  subst key
  apply refused_result_tables text now stored
  rw [accepts_iff stored] at refused
  by_cases pending : job.state = .pending
  · exact .inl pending
  · right
    cases allowed : job.state.canTransitionTo outcome.state with
    | false => rfl
    | true => exact absurd ⟨pending, allowed⟩ refused

/-- An accepted result is stored and its sender is left without a job. -/
theorem step_accepted {outcome : JobOutcome}
    (accepted : Accepts jobId system.tables outcome) (workerId : WorkerId) (now : DateTime) :
    ((step text jobId system (.result workerId outcome now)).tables.jobs.find jobId).map
        Job.state = some outcome.state ∧
      ∀ worker, (step text jobId system (.result workerId outcome now)).tables.workers.find
        workerId = some worker → worker.currentJobId = none := by
  obtain ⟨job, stored, started, allowed⟩ := accepted
  have key : job.id = jobId := Table.find_some_key stored
  subst key
  obtain ⟨finished, sameId, state, after⟩ :=
    accepted_result_tables text now stored outcome workerId started allowed
  have saved : (system.tables.saveJob finished).jobs.find job.id = some finished := by
    rw [← sameId]
    exact Tables.find_job_save system.tables finished
  unfold step
  dsimp only
  rw [after]
  cases registered : system.tables.workers.find workerId with
  | none =>
      constructor
      · rw [saved, Option.map_some, state]
      · intro worker found
        rw [Tables.save_job_workers, registered] at found
        cases found
  | some other =>
      constructor
      · have kept :
            ((system.tables.saveJob finished).releaseFromJob now workerId).jobs.find job.id =
              some finished := saved
        rw [kept, Option.map_some, state]
      · intro worker found
        unfold Tables.releaseFromJob at found
        rw [Table.find_update, if_pos rfl, Tables.save_job_workers, registered] at found
        cases found
        rfl

/-- In a consistent system a result meets the contract exactly if it fits. -/
theorem result_meets_contract_iff (consistent : Consistent jobId system) (workerId : WorkerId)
    (outcome : JobOutcome) (now : DateTime) :
    MeetsContract text jobId system (.result workerId outcome now) ↔
      ResultFits jobId system (.result workerId outcome now) := by
  obtain ⟨job, stored, active, terminal⟩ := consistent.stored
  unfold MeetsContract ResultFits
  dsimp only
  by_cases accepted : Accepts jobId system.tables outcome
  · have unanswered : system.answered = false := by
      by_contra answered
      have final := terminal (eq_true_of_ne_false answered)
      have refused := terminal_refuses final outcome.state
      rw [accepts_iff stored, refused] at accepted
      cases accepted.2
    have effect := step_accepted text accepted workerId now
    by_cases own : workerId = system.assignedTo
    · rw [if_pos ⟨unanswered, own⟩]
      exact iff_of_true effect fun _ => ⟨fun _ => own, fun _ => accepted⟩
    · rw [if_neg fun both => own both.2]
      apply iff_of_false
      · intro unchanged
        have changed := effect.1
        rw [unchanged, stored, Option.map_some] at changed
        have refused := can_transition_to_irreflexive job.state
        have allowed := ((accepts_iff stored outcome).mp accepted).2
        rw [← Option.some.inj changed, refused] at allowed
        cases allowed
      · intro fits
        exact own ((fits unanswered).mp accepted)
  · have unchanged := step_refused text stored accepted workerId now
    rw [unchanged]
    by_cases first : system.answered = false ∧ workerId = system.assignedTo
    · rw [if_pos first]
      apply iff_of_false
      · intro ⟨state, _⟩
        rw [stored, Option.map_some] at state
        have stillActive := active first.1
        rw [Option.some.inj state] at stillActive
        exact outcome_state_inactive outcome stillActive
      · intro fits
        exact accepted ((fits first.1).mpr first.2)
    · rw [if_neg first]
      apply iff_of_true rfl
      intro unanswered
      exact iff_of_false accepted fun own => first ⟨unanswered, own⟩

/-- An acknowledgement takes an assigned job to running and nothing else
anywhere. -/
theorem acknowledged_consistent (consistent : Consistent jobId system) (workerId : WorkerId)
    (now : DateTime) :
    MeetsContract text jobId system (.acknowledged workerId now) ∧
      Consistent jobId (step text jobId system (.acknowledged workerId now)) := by
  obtain ⟨job, stored, active, terminal⟩ := consistent.stored
  have key : job.id = jobId := Table.find_some_key stored
  subst key
  have after := acknowledged_tables text now stored workerId
  unfold MeetsContract
  dsimp only
  by_cases runs : job.state.canTransitionTo .running = true
  · rw [if_pos runs] at after
    have saved := Tables.find_job_save system.tables
      { job with state := .running, startedAt := some now }
    have unanswered : system.answered = false := by
      by_contra answered
      have refused := terminal_refuses (terminal (eq_true_of_ne_false answered)) .running
      rw [refused] at runs
      cases runs
    constructor
    · intro answered
      rw [unanswered] at answered
      cases answered
    · refine ⟨_, (congrArg (fun tables => tables.jobs.find job.id) after).trans saved, ?_, ?_⟩
      · intro _
        show JobState.running ∈ activeStates
        decide
      · intro answered
        have same : system.answered = true := answered
        rw [unanswered] at same
        cases same
  · rw [if_neg runs] at after
    have same : (step text job.id system (.acknowledged workerId now)).tables = system.tables :=
      after
    constructor
    · intro _
      rw [same]
    · refine ⟨job, ?_, active, terminal⟩
      rw [same]
      exact stored

theorem contract_keeps_consistent (consistent : Consistent jobId system) (move : Move)
    (meets : MeetsContract text jobId system move) :
    Consistent jobId (step text jobId system move) := by
  cases move with
  | acknowledged workerId now => exact (acknowledged_consistent text consistent workerId now).2
  | reassigned workerId state =>
      obtain ⟨job, stored, -, -⟩ := consistent.stored
      refine ⟨{ job with state := state }, ?_, fun _ => state.2, ?_⟩
      · unfold step
        dsimp only
        rw [Tables.find_job_update_state, stored]
        rfl
      · intro answered
        cases answered
  | result workerId outcome now =>
      obtain ⟨job, stored, active, terminal⟩ := consistent.stored
      unfold MeetsContract at meets
      dsimp only at meets
      by_cases first : system.answered = false ∧ workerId = system.assignedTo
      · rw [if_pos first] at meets
        obtain ⟨finished, found, state⟩ := Option.map_eq_some_iff.mp meets.1
        refine ⟨finished, found, ?_, ?_⟩
        · intro unanswered
          have answered : (system.answered || decide (workerId = system.assignedTo)) = false :=
            unanswered
          rw [first.2, decide_eq_true rfl, Bool.or_true] at answered
          cases answered
        · intro _
          rw [state]
          exact outcome_state_terminal outcome
      · rw [if_neg first] at meets
        have answered : (step text jobId system (.result workerId outcome now)).answered =
            system.answered := by
          show (system.answered || decide (workerId = system.assignedTo)) = system.answered
          cases known : system.answered with
          | true => rfl
          | false =>
              rw [Bool.false_or]
              exact decide_eq_false fun own => first ⟨known, own⟩
        refine ⟨job, meets.trans stored, ?_, ?_⟩
        · rw [answered]
          exact active
        · rw [answered]
          exact terminal

/-- In every run of messages and reassignments from an active job, the contract
holds throughout exactly if every result fits where it arrives. -/
theorem messages_meet_contract_iff (job : Job) {tables : Tables}
    (stored : tables.jobs.find job.id = some job) (active : job.state ∈ activeStates)
    (workerId : WorkerId) (moves : List Move) :
    EachMove (step text job.id) (MeetsContract text job.id) ⟨tables, workerId, false⟩ moves ↔
      EachMove (step text job.id) (ResultFits job.id) ⟨tables, workerId, false⟩ moves := by
  apply each_move_congr_within (step text job.id) (Consistent job.id)
  · intro system move consistent
    cases move with
    | acknowledged sender now =>
        exact iff_of_true (acknowledged_consistent text consistent sender now).1 trivial
    | result sender outcome now =>
        exact result_meets_contract_iff text consistent sender outcome now
    | reassigned sender state => exact iff_of_true trivial trivial
  · intro system move consistent meets
    exact contract_keeps_consistent text consistent move meets
  · refine ⟨job, stored, fun _ => active, ?_⟩
    intro answered
    cases answered

end Runs

/-! ## One job -/

def succeededOutcome : JobOutcome := ⟨0, true, ""⟩

/-- An assigned job, linked to its worker. -/
def assignedSystem : System :=
  ⟨sampleTables (sampleJob .assigned) (sampleWorker (some ⟨1⟩)), ⟨2⟩, false⟩

theorem acknowledged_result_is_stored :
    EachMove (step sampleText ⟨1⟩) (MeetsContract sampleText ⟨1⟩) assignedSystem
      [.acknowledged ⟨2⟩ 0, .result ⟨2⟩ succeededOutcome 1, .result ⟨2⟩ succeededOutcome 2,
        .acknowledged ⟨2⟩ 3] := by
  refine (messages_meet_contract_iff sampleText (sampleJob .assigned) rfl (by decide) ⟨2⟩ _).mpr ?_
  refine ⟨trivial, ?_, ?_, trivial, trivial⟩
  · intro _
    exact iff_of_true ⟨_, rfl, by decide, by decide⟩ rfl
  · intro answered
    cases answered

/-- The acknowledgement is lost: the result is refused and the job stays assigned. -/
theorem unacknowledged_result_is_lost :
    (step sampleText ⟨1⟩ assignedSystem (.result ⟨2⟩ succeededOutcome 0)).tables.jobs.find ⟨1⟩ =
      some (sampleJob .assigned) ∧
    ¬EachMove (step sampleText ⟨1⟩) (MeetsContract sampleText ⟨1⟩) assignedSystem
      [.result ⟨2⟩ succeededOutcome 0] := by
  have refused : ¬Accepts ⟨1⟩ assignedSystem.tables succeededOutcome := by
    rintro ⟨job, stored, -, allowed⟩
    cases stored
    exact absurd allowed (by decide)
  have stored : assignedSystem.tables.jobs.find ⟨1⟩ = some (sampleJob .assigned) := rfl
  have unchanged := step_refused sampleText stored refused ⟨2⟩ 0
  constructor
  · rw [unchanged]
    exact stored
  · rintro ⟨meets, -⟩
    unfold MeetsContract at meets
    dsimp only at meets
    rw [if_pos ⟨rfl, rfl⟩, unchanged, stored] at meets
    exact absurd meets.1 (by decide)

end HodeiJobs.Interface
