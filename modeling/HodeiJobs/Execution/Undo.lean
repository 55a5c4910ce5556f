import HodeiJobs.Library.Protocol
import HodeiJobs.Execution.Outcome

/-!
# What a failed execution leaves behind

A forward run that stops at any step, followed by the compensations of its
completed steps. The compensations put the job back with a checked transition
to `Pending`, which the state machine does not have, and pass over its refusal.
So a job that was once saved as assigned never comes back.
-/

namespace HodeiJobs.Execution

open HodeiJobs.Library HodeiJobs.Library.Program HodeiJobs.Shared
open HodeiJobs.Sagas (SagaContext SagaError SagaServices)

/-! ## A job that stays taken -/

/-- The states from which no compensation brings a job back to pending. -/
def takenStates : List JobState := [.assigned, .running, .succeeded]

def Taken (jobId : JobId) (tables : Tables) : Prop :=
  ∃ job, tables.jobs.find jobId = some job ∧ job.state ∈ takenStates

/-- A client that reads the job as taken and saves it as taken. -/
def takenProtocol (jobId : JobId) : Protocol Op Op.Reply Unit where
  answers
    | .findJob _ wanted, reply =>
        ∀ job, reply = Except.ok (some job) →
          job.id = wanted ∧ (wanted = jobId → job.state ∈ takenStates)
    | _, _ => True
  allows _
    | .updateJob _ job => job.id = jobId → job.state ∈ takenStates
    | .updateJobState _ wanted state => wanted = jobId → state ∈ takenStates
    | _ => True
  remember _ _ _ := ()

section Kept

variable {jobId : JobId} {tables : Tables}

theorem taken_of_jobs {after : Tables} (taken : Taken jobId tables)
    (same : after.jobs.find jobId = tables.jobs.find jobId) : Taken jobId after := by
  obtain ⟨job, found, state⟩ := taken
  exact ⟨job, same.trans found, state⟩

theorem taken_save_job {job : Job} (taken : Taken jobId tables)
    (allowed : job.id = jobId → job.state ∈ takenStates) : Taken jobId (tables.saveJob job) := by
  by_cases own : job.id = jobId
  · refine ⟨job, ?_, allowed own⟩
    rw [← own]
    exact Tables.find_job_save tables job
  · apply taken_of_jobs taken
    exact Table.find_upsert_other tables.jobs job own

theorem taken_update_job_state {wanted : JobId} {state : JobState} (taken : Taken jobId tables)
    (allowed : wanted = jobId → state ∈ takenStates) :
    Taken jobId (tables.updateJobState wanted state) := by
  by_cases own : wanted = jobId
  · obtain ⟨job, found, -⟩ := taken
    refine ⟨{ job with state := state }, ?_, allowed own⟩
    rw [own, Tables.find_job_update_state, found]
    rfl
  · apply taken_of_jobs taken
    unfold Tables.updateJobState
    rw [Table.find_update, if_neg (Ne.symm own)]

/-- Every call that the protocol allows keeps the job taken. -/
theorem taken_kept (env : Env) (op : Op) (taken : Taken jobId tables)
    (allowed : (takenProtocol jobId).allows () op) :
    (takenProtocol jobId).answers op (handle env op tables).1 ∧
      Taken jobId (handle env op tables).2 := by
  constructor
  · cases op with
    | findJob site wanted =>
        intro job read
        have found := (answer_ok read).symm
        refine ⟨Table.find_some_key found, ?_⟩
        rintro rfl
        obtain ⟨stored, same, state⟩ := taken
        rw [found] at same
        cases same
        exact state
    | _ => exact trivial
  · rcases handle_jobs_cases env op tables with
      same | ⟨site, job, rfl, after⟩ | ⟨site, wanted, state, rfl, after⟩
    · apply taken_of_jobs taken
      rw [same]
    · rw [after]
      exact taken_save_job taken allowed
    · rw [after]
      exact taken_update_job_state taken allowed

end Kept

/-! ## The programs that keep it -/

section Programs

variable {Memory Failure Value Result Services : Type} {protocol : Protocol Op Op.Reply Memory}
  {memory : Memory}

theorem returns_call_or {post : Memory → Value → Prop}
    {program : CallM Failure (Except DomainError Value)} {mapErr : DomainError → Failure}
    (asks : Returns protocol (fun memory reply => ∀ value, reply = .ok value → post memory value)
      program memory) :
    Returns protocol post (callOr program mapErr) memory := by
  apply returns_bind asks
  intro memory reply held
  cases reply with
  | ok value => exact returns_pure (held value rfl)
  | error error => exact returns_throw post (mapErr error) memory

theorem returns_ok_or {post : Memory → Value → Prop} {found : Option Value} {failure : Failure}
    (present : ∀ value, found = some value → post memory value) :
    Returns protocol post (okOr found failure : CallM Failure Value) memory := by
  cases found with
  | none => exact returns_throw post failure memory
  | some value => exact returns_pure (present value rfl)

/-- A lookup whose error and whose missing row both end the program. -/
theorem returns_lookup {post : Memory → Result → Prop}
    {program : CallM Failure (Except DomainError (Option Value))}
    {mapErr : DomainError → Failure} {failure : Failure} {next : Value → CallM Failure Result}
    (asks : Returns protocol
      (fun memory reply => ∀ value, reply = .ok (some value) →
        Returns protocol post (next value) memory)
      program memory) :
    Returns protocol post
      (do
        let found ← callOr program mapErr
        let value ← okOr found failure
        next value)
      memory := by
  apply returns_seq
  apply returns_call_or
  refine returns_imp ?_ asks
  intro memory reply held found same
  apply returns_seq
  apply returns_ok_or
  intro value present
  subst present
  exact held value same

/-- A service that the context of a step has to offer. -/
theorem returns_require {services : Option Services} (offered : Services → Bool)
    (missing refused : Failure) :
    Returns protocol (fun _ _ => True)
      (do
        let services ← okOr services missing
        if offered services then pure () else throw refused : CallM Failure Unit)
      memory := by
  apply returns_seq
  apply returns_ok_or
  intro services _
  split_ifs
  · exact returns_pure trivial
  · exact returns_throw _ _ _

end Programs

/-- The program never saves the job as anything but taken, given that it reads it
so. -/
def KeepsTaken {Failure Result : Type} (jobId : JobId) (program : CallM Failure Result) : Prop :=
  Returns (takenProtocol jobId) (fun _ _ => True) program ()

/-- Such a program keeps the job taken, however its calls are answered. -/
theorem taken_exec {Failure Result : Type} {jobId : JobId} (env : Env) {tables : Tables}
    {program : CallM Failure Result} (keeps : KeepsTaken jobId program)
    (taken : Taken jobId tables) : Taken jobId (exec (handle env) program tables).2 := by
  obtain ⟨last, -, kept⟩ := obeys_run (takenProtocol jobId) (handle env)
    (fun _ tables => Taken jobId tables)
    (fun _ op tables taken allowed => taken_kept env op taken allowed) program.run () tables keeps
    taken
  exact kept

section Keeps

variable {jobId : JobId} {Failure Result Other : Type}

theorem keeps_bind {program : CallM Failure Result} {next : Result → CallM Failure Other}
    (first : KeepsTaken jobId program) (rest : ∀ result, KeepsTaken jobId (next result)) :
    KeepsTaken jobId (program >>= next) :=
  returns_bind first fun _ result _ => rest result

theorem keeps_pure (result : Result) : KeepsTaken jobId (pure result : CallM Failure Result) :=
  returns_pure trivial

theorem keeps_throw (failure : Failure) :
    KeepsTaken jobId (throw failure : CallM Failure Result) :=
  returns_throw _ failure ()

theorem keeps_call {op : Op} (allowed : (takenProtocol jobId).allows () op) :
    KeepsTaken jobId (call op : CallM Failure (Op.Reply op)) :=
  returns_request allowed fun _ _ => trivial

theorem keeps_call_or {Value : Type} {program : CallM Failure (Except DomainError Value)}
    {mapErr : DomainError → Failure} (asks : KeepsTaken jobId program) :
    KeepsTaken jobId (callOr program mapErr) :=
  returns_call_or (returns_imp (fun _ _ _ _ _ => trivial) asks)

theorem keeps_ok_or {Value : Type} (found : Option Value) (failure : Failure) :
    KeepsTaken jobId (okOr found failure : CallM Failure Value) :=
  returns_ok_or fun _ _ => trivial

theorem keeps_require_command_bus (step : String) (willCompensate : Bool)
    (context : SagaContext) :
    KeepsTaken jobId (requireCommandBus step willCompensate context) := by
  unfold requireCommandBus
  exact returns_require SagaServices.hasCommandBus _ _

theorem keeps_dispatch {step command : String} {willCompensate : Bool} {debug : Failure → String}
    {handler : CallM Failure Result} (keeps : KeepsTaken jobId handler) :
    KeepsTaken jobId (dispatch step command willCompensate debug handler) :=
  returns_adapt _ keeps

/-- A job that was found is known to be taken. -/
theorem keeps_found_job {site : CallSite} {mapErr : DomainError → Failure} {failure : Failure}
    {next : Job → CallM Failure Result}
    (rest : ∀ job : Job, job.id = jobId → job.state ∈ takenStates → KeepsTaken jobId (next job)) :
    KeepsTaken jobId (do
      let found ← callOr (call (.findJob site jobId)) mapErr
      let job ← okOr found failure
      next job) := by
  have reads : Returns (takenProtocol jobId)
      (fun _ found => ∀ job, found = some job → job.id = jobId ∧ job.state ∈ takenStates)
      (callOr (call (.findJob site jobId)) mapErr : CallM Failure (Option Job)) () := by
    apply returns_call_or
    apply returns_request trivial
    intro reply answered found read job present
    obtain ⟨own, state⟩ := answered job (read.trans (congrArg Except.ok present))
    exact ⟨own, state rfl⟩
  apply returns_bind reads
  intro _ found taken
  have known : Returns (takenProtocol jobId)
      (fun _ job => job.id = jobId ∧ job.state ∈ takenStates)
      (okOr found failure : CallM Failure Job) () := returns_ok_or taken
  apply returns_bind known
  intro _ job known
  exact rest job known.1 known.2

theorem job_executor_impl_keeps_taken (workerId : WorkerId) :
    KeepsTaken jobId (jobExecutorImpl.executeJob jobId workerId) := by
  apply keeps_found_job
  intro job _ _
  refine keeps_bind (keeps_call_or (keeps_call trivial)) ?_
  intro _
  refine keeps_bind (keeps_call trivial) ?_
  intro now
  cases marked : job.markRunning now with
  | error error => exact keeps_throw _
  | ok running =>
      have state : running.state ∈ takenStates := by
        unfold Job.markRunning at marked
        split_ifs at marked
        cases marked
        show JobState.running ∈ takenStates
        decide
      refine keeps_bind (keeps_call_or (keeps_call fun _ => state)) ?_
      intro _
      exact keeps_call_or (keeps_call trivial)

theorem execute_job_handler_keeps_taken {jobExecutor : Option JobExecutor}
    (keeps : ∀ executor ∈ jobExecutor, ∀ workerId,
      KeepsTaken jobId (executor.executeJob jobId workerId)) (workerId : WorkerId) :
    KeepsTaken jobId (executeJobHandler jobExecutor ⟨jobId, workerId⟩) := by
  apply keeps_found_job
  intro job _ _
  refine keeps_bind (keeps_call_or (keeps_call trivial)) ?_
  intro found
  refine keeps_bind (keeps_ok_or _ _) ?_
  intro worker
  cases jobExecutor with
  | some executor => exact keeps_bind (keeps executor rfl workerId) fun _ => keeps_pure _
  | none =>
      refine keeps_bind (keeps_call_or (keeps_call fun _ => by decide)) ?_
      intro _
      exact keeps_pure _

theorem complete_job_handler_keeps_taken :
    KeepsTaken jobId (completeJobHandler ⟨jobId, .succeeded⟩) := by
  have succeeded : JobState.succeeded ∈ takenStates := by decide
  apply keeps_found_job
  intro job _ _
  split_ifs
  · refine keeps_bind (keeps_call_or (keeps_call fun _ => succeeded)) ?_
    intro _
    apply keeps_bind
    · refine keeps_bind (keeps_call trivial) ?_
      intro reply
      cases reply with
      | error error => exact keeps_pure ()
      | ok found =>
          cases found with
          | none => exact keeps_pure ()
          | some worker => exact keeps_call_or (keeps_call trivial)
    · intro _
      exact keeps_pure _
  · exact keeps_throw _

/-- Neither compensation has a transition to put the job back with. -/
theorem revert_job_keeps_taken {findSite updateSite : CallSite} {revertible : List JobState}
    {target : JobState} (refused : ∀ state ∈ revertible, state.canTransitionTo target = false)
    (taken : ∀ state ∈ revertible, state ∈ takenStates) :
    KeepsTaken jobId (revertJob findSite updateSite jobId revertible target) := by
  unfold revertJob
  refine keeps_bind (keeps_call trivial) ?_
  intro reply
  cases reply with
  | error error => exact keeps_pure ()
  | ok found =>
      cases found with
      | none => exact keeps_pure ()
      | some job =>
          dsimp only
          split_ifs with member
          · have unchanged : (job.setState target).toOption.getD job = job := by
              unfold Job.setState
              rw [refused job.state member, if_neg Bool.false_ne_true]
              rfl
            rw [unchanged]
            refine keeps_bind (keeps_call fun _ => taken job.state member) ?_
            intro _
            exact keeps_pure ()
          · exact keeps_pure ()

theorem assign_worker_compensate_keeps_taken (text : RustText) (context : SagaContext) :
    KeepsTaken jobId (assignWorkerCompensate text jobId context) := by
  unfold assignWorkerCompensate
  cases textMetadata context "execution_worker_id" with
  | none => exact keeps_pure ()
  | some workerIdText =>
      refine keeps_bind (keeps_ok_or _ _) ?_
      intro services
      cases text.parse workerIdText with
      | none => exact keeps_throw _
      | some uuid =>
          apply keeps_bind
          · refine keeps_bind (keeps_call trivial) ?_
            intro reply
            cases reply with
            | error error => exact keeps_pure ()
            | ok found =>
                cases found with
                | none => exact keeps_pure ()
                | some worker =>
                    dsimp only
                    split_ifs
                    · exact keeps_call_or (keeps_call trivial)
                    · exact keeps_pure ()
          · intro _
            split_ifs
            · exact revert_job_keeps_taken (by decide) (by decide)
            · exact keeps_pure ()

theorem execute_job_compensate_keeps_taken (context : SagaContext) :
    KeepsTaken jobId (executeJobCompensate jobId context) := by
  refine keeps_bind (keeps_ok_or _ _) ?_
  intro services
  split_ifs
  · exact revert_job_keeps_taken (by decide) (by decide)
  · exact keeps_pure ()

theorem execute_job_step_keeps_taken (text : RustText) {jobExecutor : Option JobExecutor}
    (keeps : ∀ executor ∈ jobExecutor, ∀ workerId,
      KeepsTaken jobId (executor.executeJob jobId workerId)) (context : SagaContext) :
    KeepsTaken jobId (executeJobStep text jobExecutor jobId context) := by
  refine keeps_bind (keeps_require_command_bus _ _ _) ?_
  intro _
  split_ifs
  · exact keeps_pure _
  · apply keeps_bind
    · unfold parseWorkerId
      cases text.parse _ with
      | some uuid => exact keeps_pure _
      | none => exact keeps_bind (keeps_call trivial) fun _ => keeps_pure _
    · intro workerId
      refine keeps_bind (keeps_dispatch (execute_job_handler_keeps_taken keeps workerId)) ?_
      intro _
      exact keeps_bind (keeps_call trivial) fun _ => keeps_pure _

theorem complete_job_step_keeps_taken (text : RustText) (context : SagaContext) :
    KeepsTaken jobId (completeJobStep text jobId context) := by
  refine keeps_bind (keeps_require_command_bus _ _ _) ?_
  intro _
  split_ifs
  · exact keeps_pure _
  · refine keeps_bind (keeps_dispatch complete_job_handler_keeps_taken) ?_
    intro _
    exact keeps_bind (keeps_call trivial) fun _ => keeps_pure _

end Keeps

/-! ## Running until a step fails -/

section Attempts

variable {env : Env} {tables : Tables} {jobId : JobId}

theorem run_until_failure_ok {step : SagaStep} {context next : SagaContext} {after : Tables}
    (executed : exec (handle env) (step.execute context) tables = (.ok next, after))
    (rest completed : List SagaStep) :
    run (handle env) (executeUntilFailure (step :: rest) completed context) tables =
      run (handle env) (executeUntilFailure rest (step :: completed) next) after := by
  unfold exec at executed
  rw [executeUntilFailure, run_bind, executed]

theorem run_until_failure_error {step : SagaStep} {context : SagaContext} {failure : SagaError}
    {after : Tables}
    (executed : exec (handle env) (step.execute context) tables = (.error failure, after))
    (rest completed : List SagaStep) :
    run (handle env) (executeUntilFailure (step :: rest) completed context) tables =
      (⟨completed, context, some failure⟩, after) := by
  unfold exec at executed
  rw [executeUntilFailure, run_bind, executed]
  rfl

/-- Only steps of the saga are reported as completed. -/
theorem completed_of_run (env : Env) (steps completed : List SagaStep) (context : SagaContext)
    (tables : Tables) :
    ∀ step ∈ (run (handle env) (executeUntilFailure steps completed context) tables).1.completed,
      step ∈ completed ∨ step ∈ steps := by
  induction steps generalizing completed context tables with
  | nil => exact fun step member => .inl member
  | cons head rest ih =>
      intro step member
      cases executed : exec (handle env) (head.execute context) tables with
      | mk outcome after =>
          cases outcome with
          | error failure =>
              rw [run_until_failure_error executed] at member
              exact .inl member
          | ok next =>
              rw [run_until_failure_ok executed] at member
              rcases ih (head :: completed) next after step member with before | later
              · rcases List.mem_cons.mp before with rfl | before
                · exact .inr List.mem_cons_self
                · exact .inl before
              · exact .inr (List.mem_cons_of_mem head later)

theorem taken_until_failure {steps : List SagaStep}
    (keeps : ∀ step ∈ steps, ∀ context, KeepsTaken jobId (step.execute context))
    (completed : List SagaStep) (context : SagaContext) (taken : Taken jobId tables) :
    Taken jobId (run (handle env) (executeUntilFailure steps completed context) tables).2 := by
  induction steps generalizing completed context tables with
  | nil => exact taken
  | cons head rest ih =>
      have kept := taken_exec env (keeps head List.mem_cons_self context) taken
      cases executed : exec (handle env) (head.execute context) tables with
      | mk outcome after =>
          rw [executed] at kept
          cases outcome with
          | error failure =>
              rw [run_until_failure_error executed]
              exact kept
          | ok next =>
              rw [run_until_failure_ok executed]
              exact ih (fun step member => keeps step (List.mem_cons_of_mem head member))
                (head :: completed) next kept

theorem compensate_all_keeps_taken {completed : List SagaStep} {context : SagaContext}
    (keeps : ∀ step ∈ completed, KeepsTaken jobId (step.compensate context)) :
    KeepsTaken jobId (compensateAll context completed) := by
  induction completed with
  | nil => exact keeps_pure ()
  | cons head rest ih =>
      have later := ih fun step member => keeps step (List.mem_cons_of_mem head member)
      unfold compensateAll
      split_ifs
      · exact keeps_bind (keeps head List.mem_cons_self) fun _ => later
      · exact keeps_bind (keeps_pure ()) fun _ => later

/-- Steps without a compensation are passed over. -/
theorem compensate_all_nothing {completed : List SagaStep} (context : SagaContext)
    (nothing : ∀ step ∈ completed, step.hasCompensation = false) (tables : Tables) :
    exec (handle env) (compensateAll context completed) tables = (.ok (), tables) := by
  induction completed with
  | nil => rfl
  | cons head rest ih =>
      unfold compensateAll
      rw [nothing head List.mem_cons_self, if_neg Bool.false_ne_true]
      exact ih fun step member => nothing step (List.mem_cons_of_mem head member)

end Attempts

/-! ## Undoing -/

/-- The job is pending again and its worker is again among the available. -/
def Undone (jobId : JobId) (workerId : WorkerId) (tables : Tables) : Prop :=
  (tables.jobs.find jobId).map Job.state = some .pending ∧
    workerId ∈ tables.findAvailable.map Worker.id

instance (jobId : JobId) (workerId : WorkerId) (tables : Tables) :
    Decidable (Undone jobId workerId tables) :=
  inferInstanceAs (Decidable (_ ∧ _))

/-- A forward run stops at a failing step, the compensations of the completed
steps all return `Ok`, and the tables are left as `undone`. -/
def FailsAndCompensates (env undoEnv : Env) (steps : List SagaStep) (context : SagaContext)
    (tables undone : Tables) : Prop :=
  ∃ attempt stopped failure,
    run (handle env) (executeUntilFailure steps [] context) tables = (attempt, stopped) ∧
    attempt.failure = some failure ∧
    exec (handle undoEnv) (compensateAll attempt.context attempt.completed) stopped =
      (.ok (), undone)

/-- A context in which no worker is marked as assigned, with the services
injected. -/
structure Unassigned (context : SagaContext) : Prop where
  services : context.services = some ⟨true, true⟩
  notAssigned : hasFlag context "worker_assignment_done" = false

/-- A context as the saga starts with: its first two steps are not marked done. -/
structure Unstarted (context : SagaContext) : Prop extends Unassigned context where
  notValidated : hasFlag context "job_validated" = false

/-- The calls up to and including the one that saves the job as assigned. -/
def untilAssigned : List CallSite :=
  [.validateFindJob, .assignFindWorker, .assignFindJob, .assignUpdateJob]

section Undo

variable {env : Env} {tables : Tables} {job : Job} {worker : Worker} {context : SagaContext}

theorem run_call_or_fault {Failure Value : Type} {site : CallSite} {error : DomainError}
    (fault : env.fault site = some error) {value : Value} {after : Tables}
    {program : CallM Failure (Except DomainError Value)}
    (asks : exec (handle env) program tables =
      (.ok (env.answer site value tables after).1, (env.answer site value tables after).2))
    (mapErr : DomainError → Failure) :
    exec (handle env) (callOr program mapErr) tables = (.error (mapErr error), tables) := by
  have answered : env.answer site value tables after = (.error error, tables) := by
    unfold Env.answer
    rw [fault]
  rw [answered] at asks
  unfold callOr
  rw [exec_bind_ok _ _ _ asks]
  rfl

theorem undone_of_available (assignable : Assignable tables job worker)
    (pending : job.state = .pending) (ready : worker.state = .ready)
    (unlinked : worker.currentJobId = none) :
    Undone job.id worker.id tables := by
  constructor
  · rw [assignable.stored, Option.map_some, pending]
  · apply List.mem_map_of_mem
    apply List.mem_filter.mpr
    exact ⟨List.mem_of_find?_eq_some assignable.registered, decide_eq_true ⟨ready, unlinked⟩⟩

theorem not_undone_of_taken (taken : Taken job.id tables) (workerId : WorkerId) :
    ¬Undone job.id workerId tables := by
  rintro ⟨pending, -⟩
  obtain ⟨stored, found, state⟩ := taken
  rw [found, Option.map_some] at pending
  rw [Option.some.inj pending] at state
  exact absurd state (by decide)

/-- A failed call before the job is saved stops the handler with nothing done. -/
theorem assign_worker_handler_stops (assignable : Assignable tables job worker)
    (pending : job.state = .pending)
    (faulty : ∃ site ∈ [CallSite.assignFindWorker, .assignFindJob, .assignUpdateJob],
      env.fault site ≠ none) :
    ∃ failure, exec (handle env) (assignWorkerHandler ⟨job.id, some worker.id⟩) tables =
      (.error failure, tables) := by
  unfold assignWorkerHandler
  cases findWorker : env.fault .assignFindWorker with
  | some error =>
      have selects : exec (handle env) (selectWorker ⟨job.id, some worker.id⟩) tables =
          (.error (.assignmentFailed job.id error), tables) := by
        unfold selectWorker
        exact exec_bind_error _ _ _ (run_call_or_fault findWorker rfl _)
      exact ⟨_, exec_bind_error _ _ _ selects⟩
  | none =>
      rw [exec_bind_ok _ _ _ (run_select_worker findWorker assignable)]
      dsimp only
      cases findJob : env.fault .assignFindJob with
      | some error => exact ⟨_, exec_bind_error _ _ _ (run_call_or_fault findJob rfl _)⟩
      | none =>
          rw [exec_bind_ok _ _ _ (run_find_job findJob _ tables job.id),
            exec_bind_ok _ _ _ (run_ok_or tables assignable.stored), set_state_assigned pending]
          dsimp only
          cases updateJob : env.fault .assignUpdateJob with
          | some error => exact ⟨_, exec_bind_error _ _ _ (run_call_or_fault updateJob rfl _)⟩
          | none =>
              obtain ⟨site, member, fault⟩ := faulty
              simp only [List.mem_cons, List.not_mem_nil, or_false] at member
              rcases member with rfl | rfl | rfl
              · exact absurd findWorker fault
              · exact absurd findJob fault
              · exact absurd updateJob fault

/-- Once the job is saved as assigned, it stays taken. -/
theorem assign_worker_handler_takes (assignable : Assignable tables job worker)
    (pending : job.state = .pending) (findWorker : env.fault .assignFindWorker = none)
    (findJob : env.fault .assignFindJob = none) (updateJob : env.fault .assignUpdateJob = none) :
    Taken job.id (exec (handle env) (assignWorkerHandler ⟨job.id, some worker.id⟩) tables).2 := by
  have taken : Taken job.id (tables.saveJob { job with state := .assigned }) := by
    refine ⟨{ job with state := .assigned }, ?_, List.mem_cons_self⟩
    exact Tables.find_job_save tables { job with state := .assigned }
  unfold assignWorkerHandler
  rw [exec_bind_ok _ _ _ (run_select_worker findWorker assignable)]
  dsimp only
  rw [exec_bind_ok _ _ _ (run_find_job findJob _ tables job.id),
    exec_bind_ok _ _ _ (run_ok_or tables assignable.stored), set_state_assigned pending]
  dsimp only
  rw [exec_bind_ok _ _ _ (run_update_job updateJob _ tables _)]
  apply taken_exec env ?_ taken
  refine keeps_bind (keeps_call_or (keeps_call trivial)) fun _ => ?_
  refine keeps_bind (keeps_call_or (keeps_call trivial)) fun found => ?_
  exact keeps_bind (keeps_ok_or _ _) fun worker => keeps_pure _

/-- The step does to the tables what its handler does. -/
theorem assign_worker_step_tables (env : Env) (tables : Tables) (text : RustText)
    (unassigned : Unassigned context) (command : AssignWorkerCommand) :
    (exec (handle env) (assignWorkerStep text command.jobId command.workerId context) tables).2 =
      (exec (handle env) (assignWorkerHandler command) tables).2 := by
  unfold assignWorkerStep
  rw [exec_bind_ok _ _ _ (run_require_command_bus unassigned.services _ _),
    unassigned.notAssigned, if_neg Bool.false_ne_true, exec_bind]
  unfold dispatch
  rw [exec_adapt]
  cases exec (handle env) (assignWorkerHandler command) tables with
  | mk outcome after =>
      cases outcome with
      | error failure => rfl
      | ok result =>
          rcases result with ⟨success, assigned, state, reason⟩
          cases assigned <;> rfl

theorem assign_worker_step_stops (text : RustText) (unassigned : Unassigned context)
    {command : AssignWorkerCommand} {failure : AssignWorkerError} {after : Tables}
    (stops : exec (handle env) (assignWorkerHandler command) tables = (.error failure, after)) :
    ∃ failure, exec (handle env) (assignWorkerStep text command.jobId command.workerId context)
      tables = (.error failure, after) := by
  unfold assignWorkerStep
  rw [exec_bind_ok _ _ _ (run_require_command_bus unassigned.services _ _),
    unassigned.notAssigned, if_neg Bool.false_ne_true, exec_bind]
  unfold dispatch
  rw [exec_adapt, stops]
  exact ⟨_, rfl⟩

theorem validate_job_step_stops (text : RustText) (unstarted : Unstarted context)
    {error : DomainError} (fault : env.fault .validateFindJob = some error) (jobId : JobId) :
    ∃ failure, exec (handle env) (validateJobStep text jobId context) tables =
      (.error failure, tables) := by
  have repository : (⟨true, true⟩ : SagaServices).hasJobRepository = true := rfl
  unfold validateJobStep
  rw [exec_bind_ok _ _ _ (run_ok_or tables unstarted.services), if_pos repository,
    unstarted.notValidated, if_neg Bool.false_ne_true]
  exact ⟨_, exec_bind_error _ _ _ (run_call_or_fault fault rfl _)⟩

theorem unassigned_mark_validated (text : RustText) (unassigned : Unassigned context)
    (jobId : JobId) (state : JobState) :
    Unassigned (markValidated text jobId state context) := by
  refine ⟨unassigned.services, ?_⟩
  unfold markValidated
  rw [has_flag_set_other _ _ (by decide), has_flag_set_other _ _ (by decide),
    has_flag_set_other _ _ (by decide), unassigned.notAssigned]

/-- A failed call before the job is saved leaves the tables as they were, and
nothing to compensate. -/
theorem attempt_stops_early (text : RustText) (jobExecutor : Option JobExecutor)
    (unstarted : Unstarted context) (assignable : Assignable tables job worker)
    (pending : job.state = .pending) (faulty : ∃ site ∈ untilAssigned, env.fault site ≠ none) :
    ∃ attempt : Attempt, run (handle env) (executeUntilFailure
        ((ExecutionSaga.withWorker job.id worker.id).steps text jobExecutor) [] context) tables =
        (attempt, tables) ∧
      ∀ step ∈ attempt.completed, step.hasCompensation = false := by
  cases findJob : env.fault .validateFindJob with
  | some error =>
      obtain ⟨failure, stops⟩ := validate_job_step_stops text unstarted findJob job.id
      refine ⟨_, run_until_failure_error stops _ _, ?_⟩
      exact fun step member => absurd member List.not_mem_nil
  | none =>
      have later : ∃ site ∈ [CallSite.assignFindWorker, .assignFindJob, .assignUpdateJob],
          env.fault site ≠ none := by
        obtain ⟨site, member, fault⟩ := faulty
        rcases List.mem_cons.mp member with rfl | rest
        · exact absurd findJob fault
        · exact ⟨site, rest, fault⟩
      have valid : job.state ∈ validStates := by
        rw [pending]
        decide
      have validates := run_validate_job_step text findJob unstarted.services
        unstarted.notValidated assignable.stored valid
      obtain ⟨refusal, handled⟩ := assign_worker_handler_stops assignable pending later
      obtain ⟨failure, stops⟩ := assign_worker_step_stops text
        (unassigned_mark_validated text unstarted.toUnassigned job.id job.state) handled
      refine ⟨_, (run_until_failure_ok validates _ _).trans (run_until_failure_error stops _ _), ?_⟩
      intro step member
      rw [List.mem_singleton.mp member]

/-- With no such failure the job is taken when the run stops, wherever that is. -/
theorem attempt_takes (text : RustText) {jobExecutor : Option JobExecutor}
    (keeps : ∀ executor ∈ jobExecutor, ∀ workerId,
      KeepsTaken job.id (executor.executeJob job.id workerId))
    (unstarted : Unstarted context) (assignable : Assignable tables job worker)
    (pending : job.state = .pending) (clean : ∀ site ∈ untilAssigned, env.fault site = none) :
    Taken job.id (run (handle env) (executeUntilFailure
      ((ExecutionSaga.withWorker job.id worker.id).steps text jobExecutor) [] context)
      tables).2 := by
  have valid : job.state ∈ validStates := by
    rw [pending]
    decide
  have validates := run_validate_job_step text (clean _ (by decide)) unstarted.services
    unstarted.notValidated assignable.stored valid
  have taken := assign_worker_handler_takes assignable pending (clean _ (by decide))
    (clean _ (by decide)) (clean _ (by decide))
  have assigns := assign_worker_step_tables env tables text
    (unassigned_mark_validated text unstarted.toUnassigned job.id job.state)
    ⟨job.id, some worker.id⟩
  rw [← assigns] at taken
  unfold ExecutionSaga.steps ExecutionSaga.withWorker
  rw [run_until_failure_ok validates]
  cases executed : exec (handle env) (assignWorkerStep text job.id (some worker.id)
      (markValidated text job.id job.state context)) tables with
  | mk outcome after =>
      rw [executed] at taken
      cases outcome with
      | error failure =>
          rw [run_until_failure_error executed]
          exact taken
      | ok next =>
          rw [run_until_failure_ok executed]
          apply taken_until_failure _ _ _ taken
          intro step member context
          simp only [List.mem_cons, List.not_mem_nil, or_false] at member
          rcases member with rfl | rfl
          · exact execute_job_step_keeps_taken text keeps context
          · exact complete_job_step_keeps_taken text context

theorem step_compensate_keeps_taken (text : RustText) (jobExecutor : Option JobExecutor)
    (saga : ExecutionSaga) (context : SagaContext) :
    ∀ step ∈ saga.steps text jobExecutor, KeepsTaken saga.jobId (step.compensate context) := by
  intro step member
  simp only [ExecutionSaga.steps, List.mem_cons, List.not_mem_nil, or_false] at member
  rcases member with rfl | rfl | rfl | rfl
  · exact keeps_pure ()
  · exact assign_worker_compensate_keeps_taken text context
  · exact execute_job_compensate_keeps_taken context
  · exact keeps_pure ()

/-- When a forward run has failed and every compensation of its completed steps
has returned `Ok`, the start is restored exactly if the failure came before the
job was saved as assigned. -/
theorem execution_saga_undone_iff (text : RustText) {jobExecutor : Option JobExecutor}
    (env undoEnv : Env) (job : Job) (worker : Worker)
    (keeps : ∀ executor ∈ jobExecutor, ∀ workerId,
      KeepsTaken job.id (executor.executeJob job.id workerId))
    (unstarted : Unstarted context) (stored : tables.jobs.find job.id = some job)
    (pending : job.state = .pending) (registered : tables.workers.find worker.id = some worker)
    (ready : worker.state = .ready) (unlinked : worker.currentJobId = none)
    {undone : Tables} (compensates : FailsAndCompensates env undoEnv
      ((ExecutionSaga.withWorker job.id worker.id).steps text jobExecutor) context tables undone) :
    Undone job.id worker.id undone ↔ ∃ site ∈ untilAssigned, env.fault site ≠ none := by
  obtain ⟨attempt, stopped, failure, attempted, -, compensated⟩ := compensates
  have assignable : Assignable tables job worker := ⟨stored, registered, .inl ready⟩
  constructor
  · intro restored
    by_contra clean
    push Not at clean
    have taken := attempt_takes text keeps unstarted assignable pending clean
    have known := completed_of_run env
      ((ExecutionSaga.withWorker job.id worker.id).steps text jobExecutor) [] context tables
    rw [attempted] at taken known
    have compensations : ∀ step ∈ attempt.completed,
        KeepsTaken job.id (step.compensate attempt.context) := by
      intro step member
      rcases known step member with before | own
      · exact absurd before List.not_mem_nil
      · exact step_compensate_keeps_taken text jobExecutor _ attempt.context step own
    have left := taken_exec undoEnv (compensate_all_keeps_taken compensations) taken
    rw [compensated] at left
    exact not_undone_of_taken left worker.id restored
  · intro faulty
    obtain ⟨early, stops, nothing⟩ := attempt_stops_early text jobExecutor unstarted assignable
      pending faulty
    rw [attempted] at stops
    obtain ⟨rfl, rfl⟩ := Prod.mk.inj stops
    rw [compensate_all_nothing attempt.context nothing] at compensated
    obtain rfl := (Prod.mk.inj compensated).2
    exact undone_of_available assignable pending ready unlinked

end Undo

/-! ## One failing call -/

/-- Every call succeeds but the one from `site`. -/
def failingAt (site : CallSite) : Env :=
  { quietEnv with
    fault := fun other => if other = site then some (.infrastructureError "timeout") else none }

theorem sample_context_unstarted : Unstarted sampleContext := ⟨⟨rfl, rfl⟩, rfl⟩

theorem sample_executor_keeps_taken :
    ∀ executor ∈ some jobExecutorImpl, ∀ workerId,
      KeepsTaken (sampleJob .pending).id
        (executor.executeJob (sampleJob .pending).id workerId) := by
  intro executor member workerId
  rw [← Option.mem_some_iff.mp member]
  exact job_executor_impl_keeps_taken workerId

/-- The worker cannot be read: nothing was done and nothing has to be undone. -/
theorem failed_selection_is_undone :
    ∃ undone, FailsAndCompensates (failingAt .assignFindWorker) quietEnv
        ((ExecutionSaga.withWorker ⟨1⟩ ⟨2⟩).steps sampleText (some jobExecutorImpl)) sampleContext
        (sampleTables (sampleJob .pending) (sampleWorker none)) undone ∧
      Undone ⟨1⟩ ⟨2⟩ undone := by
  have compensates : FailsAndCompensates (failingAt .assignFindWorker) quietEnv
      ((ExecutionSaga.withWorker ⟨1⟩ ⟨2⟩).steps sampleText (some jobExecutorImpl)) sampleContext
      (sampleTables (sampleJob .pending) (sampleWorker none))
      (sampleTables (sampleJob .pending) (sampleWorker none)) := ⟨_, _, _, rfl, rfl, rfl⟩
  refine ⟨_, compensates, ?_⟩
  exact (execution_saga_undone_iff sampleText (failingAt .assignFindWorker) quietEnv
    (sampleJob .pending) (sampleWorker none) sample_executor_keeps_taken sample_context_unstarted
    rfl rfl rfl rfl rfl compensates).mpr ⟨.assignFindWorker, by decide, by decide⟩

/-- The third step cannot read the job: the compensation of the second one
returns `Ok` and the job stays assigned. -/
theorem failed_execution_is_not_undone :
    ∃ undone, FailsAndCompensates (failingAt .executeFindJob) quietEnv
        ((ExecutionSaga.withWorker ⟨1⟩ ⟨2⟩).steps sampleText (some jobExecutorImpl)) sampleContext
        (sampleTables (sampleJob .pending) (sampleWorker none)) undone ∧
      (undone.jobs.find ⟨1⟩).map Job.state = some .assigned ∧ ¬Undone ⟨1⟩ ⟨2⟩ undone := by
  refine ⟨_, ⟨_, _, _, rfl, rfl, rfl⟩, ?_, ?_⟩
  · decide
  · decide

end HodeiJobs.Execution
