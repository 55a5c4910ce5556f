import HodeiJobs.Dispatch.RunProtocol

/-!
# The steps under the protocol

Every call that a step of the execution saga can come to is one that the protocol
allows. Up to the dispatch of `ExecuteJobCommand` a live call cannot fail; from
there on nothing is expected of it.
-/

namespace HodeiJobs.Dispatch

open HodeiJobs.Library HodeiJobs.Library.Program HodeiJobs.Execution
open HodeiJobs.Sagas (SagaContext)

/-! ## Calls to the repositories -/

section Calls

variable {view : View} {memory : Progress} {Failure Value Result : Type}

abbrev View.Visits (view : View) (post : Progress → Result → Prop) (program : CallM Failure Result)
    (memory : Progress) : Prop :=
  Settles repositoryCall view.protocol view.Fails post program memory

/-- Once the call may fail, it goes on as it likes. -/
abbrev View.Free (view : View) (program : CallM Failure Result) : Prop :=
  Maintains repositoryCall view.protocol view.Fails program

theorem fails_note (held : view.Fails memory) (call : Call) : view.Fails (memory.note call) := by
  intro live
  have before := held live
  cases call with
  | saga op =>
      cases op with
      | commit sagaId label statements => cases label <;> exact before
      | _ => exact before
  | repository op =>
      cases op with
      | findWorker site workerId => exact Bool.or_eq_true_iff.mpr (.inl before)
      | _ => exact before
  | stepTimer sagaId index => exact before

theorem visits_call {op : Op} {post : Progress → Op.Reply op → Prop}
    (allowed : view.protocol.allows memory (.repository op))
    (answered : ∀ reply, view.repositoryAnswers op reply →
      post (memory.note (.repository op)) reply) :
    view.Visits post (call op : CallM Failure _) memory :=
  settles_request ⟨allowed, answered⟩

theorem free_call {op : Op} (allowed : ∀ memory, view.protocol.allows memory (.repository op)) :
    view.Free (call op : CallM Failure _) :=
  fun memory held => visits_call (allowed memory) fun _ _ => fails_note held _

theorem visits_call_or {post : Progress → Value → Prop}
    {program : CallM Failure (Except DomainError Value)} {mapErr : DomainError → Failure}
    (asks : view.Visits (Ends view.Fails post) program memory) :
    view.Visits post (callOr program mapErr) memory := by
  apply settles_bind asks
  intro after reply held
  cases reply with
  | ok value => exact settles_pure held
  | error error => exact settles_throw post held

theorem visits_ok_or {post : Progress → Value → Prop} {found : Option Value} {failure : Failure}
    (present : view.live → found ≠ none)
    (next : ∀ value, found = some value → post memory value) :
    view.Visits post (okOr found failure : CallM Failure Value) memory := by
  cases found with
  | none =>
      apply settles_throw
      intro alive
      exact absurd rfl (present alive)
  | some value => exact settles_pure (next value rfl)

/-- What is known of the live call is what was read. -/
theorem eq_of_read {part : Job × Worker → Value} {found : Option Value} {value : Value}
    (known : ∀ entry ∈ view.known, found = some (part entry)) (same : found = some value) :
    ∀ entry ∈ view.known, part entry = value := by
  intro entry member
  have read := known entry member
  rw [same] at read
  exact (Option.some.inj read).symm

theorem free_call_or {program : CallM Failure (Except DomainError Value)}
    {mapErr : DomainError → Failure} (free : view.Free program) :
    view.Free (callOr program mapErr) := by
  apply maintains_bind free
  intro reply
  cases reply with
  | ok value => exact maintains_pure value
  | error error => exact maintains_throw (mapErr error)

theorem free_ok_or (found : Option Value) (failure : Failure) :
    view.Free (okOr found failure : CallM Failure Value) := by
  cases found with
  | none => exact maintains_throw failure
  | some value => exact maintains_pure value

/-- Reading the job of the call. -/
theorem visits_find_job {site : CallSite} {mapErr : DomainError → Failure}
    (early : site ∈ earlyReads → memory.written = false) :
    view.Visits
      (fun after found => after = memory ∧ (view.live → found ≠ none) ∧
        (site ∈ earlyReads → ∀ entry ∈ view.known, found = some entry.1))
      (callOr (call (.findJob site view.jobId)) mapErr) memory := by
  apply visits_call_or
  apply visits_call
  · exact early
  intro reply answered
  obtain ⟨live, known⟩ := answered rfl
  cases reply with
  | ok found =>
      refine ⟨rfl, ?_, fun early entry member => known early entry member found rfl⟩
      intro alive
      obtain ⟨job, same⟩ := live alive
      cases same
      exact Option.some_ne_none job
  | error error =>
      intro alive
      obtain ⟨job, same⟩ := live alive
      cases same

/-- Reading the worker of the call. -/
theorem visits_find_worker {site : CallSite} {mapErr : DomainError → Failure}
    (early : site = .assignFindWorker → memory.written = false)
    (other : site ≠ .executeFindWorker) :
    view.Visits
      (fun after found => after = memory ∧ (view.live → found ≠ none) ∧
        (site = .assignFindWorker → ∀ entry ∈ view.known, found = some entry.2))
      (callOr (call (.findWorker site view.workerId)) mapErr) memory := by
  have unnoted : memory.note (.repository (.findWorker site view.workerId)) = memory := by
    unfold Progress.note
    dsimp only
    rw [decide_eq_false other, Bool.or_false]
  apply visits_call_or
  apply visits_call
  · exact ⟨early, fun asks => absurd asks other⟩
  intro reply answered
  rw [unnoted]
  obtain ⟨live, known⟩ := answered rfl
  cases reply with
  | ok found =>
      refine ⟨rfl, ?_, fun early entry member => known early entry member found rfl⟩
      intro alive
      obtain ⟨worker, same⟩ := live alive
      cases same
      exact Option.some_ne_none worker
  | error error =>
      intro alive
      obtain ⟨worker, same⟩ := live alive
      cases same

theorem visits_update_job {site : CallSite} {job : Job} {mapErr : DomainError → Failure} :
    view.Visits (fun after _ => after = { memory with written := true })
      (callOr (call (.updateJob site job)) mapErr) memory := by
  apply visits_call_or
  apply visits_call
  · exact trivial
  intro reply answered
  cases reply with
  | ok found => exact rfl
  | error error =>
      intro alive
      cases answered alive

theorem visits_update_worker_state {site : CallSite} {workerId : WorkerId}
    {state : Shared.WorkerState} {mapErr : DomainError → Failure} :
    view.Visits (fun after _ => after = { memory with written := true })
      (callOr (call (.updateWorkerState site workerId state)) mapErr) memory := by
  apply visits_call_or
  apply visits_call
  · exact trivial
  intro reply answered
  cases reply with
  | ok found => exact rfl
  | error error =>
      intro alive
      cases answered alive

end Calls

/-! ## The steps -/

/-- The flags that tell the steps apart. -/
def stepFlags : List String := ["job_validated", "worker_assignment_done", "job_execution_started"]

/-- A context of the call, with the flags of the steps that were executed. -/
structure Marked (view : View) (done : List String) (context : SagaContext) : Prop where
  sagaId : context.sagaId = view.sagaId
  services : context.services = some ⟨true, true⟩
  flags : ∀ key ∈ stepFlags, hasFlag context key = decide (key ∈ done)

/-- A context that a completed step may be saved with. -/
def Validated (view : View) (context : SagaContext) : Prop :=
  context.sagaId = view.sagaId ∧ hasFlag context "job_validated" = true

section Steps

variable {Failure : Type} {view : View} {memory : Progress} {text : RustText}
  {context : SagaContext}

theorem has_flag_set_self (context : SagaContext) (key : String) :
    hasFlag (context.setMetadata key (.bool true)) key = true := by
  unfold hasFlag
  rw [get_metadata_set_self]

theorem marked_validated (marked : Marked view [] context) (state : Shared.JobState) :
    Marked view ["job_validated"] (markValidated text view.jobId state context) := by
  refine ⟨marked.sagaId, marked.services, ?_⟩
  intro key member
  have before := marked.flags key member
  have others : ∀ key ∈ stepFlags, key ≠ "execution_original_state" ∧ key ≠ "execution_job_id" := by
    decide
  unfold markValidated
  by_cases own : key = "job_validated"
  · rw [own, has_flag_set_self]
    rfl
  · rw [has_flag_set_other _ _ own, has_flag_set_other _ _ (others key member).2,
      has_flag_set_other _ _ (others key member).1, before]
    simp [own]

theorem marked_assigned (marked : Marked view ["job_validated"] context) (workerId : WorkerId) :
    Marked view ["job_validated", "worker_assignment_done"]
      (markAssigned text workerId context) := by
  refine ⟨marked.sagaId, marked.services, ?_⟩
  intro key member
  have before := marked.flags key member
  have other : ∀ key ∈ stepFlags, key ≠ "execution_worker_id" := by decide
  unfold markAssigned
  by_cases own : key = "worker_assignment_done"
  · rw [own, has_flag_set_self]
    rfl
  · rw [has_flag_set_other _ _ own, has_flag_set_other _ _ (other key member), before]
    simp [own]

theorem validated_of_marked {done : List String} (marked : Marked view done context)
    (first : "job_validated" ∈ done) : Validated view context := by
  refine ⟨marked.sagaId, ?_⟩
  rw [marked.flags _ (by decide)]
  exact decide_eq_true first

theorem visits_require_command_bus {step : String} {willCompensate : Bool}
    (services : context.services = some ⟨true, true⟩) :
    view.Visits (fun after _ => after = memory) (requireCommandBus step willCompensate context)
      memory := by
  unfold requireCommandBus
  rw [services]
  exact settles_pure rfl

theorem visits_validate (marked : Marked view [] context) (unwritten : memory.written = false) :
    view.Visits (fun after next => after = memory ∧ Marked view ["job_validated"] next)
      (validateJobStep text view.jobId context) memory := by
  have notValidated := marked.flags "job_validated" (by decide)
  unfold validateJobStep
  rw [marked.services]
  apply settles_seq
  apply settles_pure
  rw [if_pos rfl, notValidated, if_neg (by decide)]
  apply settles_bind (visits_find_job fun _ => unwritten)
  rintro after found ⟨rfl, live, known⟩
  apply settles_seq
  apply visits_ok_or live
  intro job same
  split_ifs with valid
  · exact settles_pure ⟨rfl, marked_validated marked job.state⟩
  · apply settles_throw
    intro alive
    obtain ⟨stored, worker, member, pending, -⟩ := view.ready alive
    have own := eq_of_read (known (by decide)) same _ member
    dsimp only at own
    rw [← own, pending] at valid
    exact absurd (by decide) valid

/-- The worker of the call is the one selected. -/
theorem visits_select_worker (unwritten : memory.written = false) :
    view.Visits
      (fun after selected => after = memory ∧ selected = some view.workerId ∧
        ∀ entry ∈ view.known, entry.2.state = .ready ∨ entry.2.state = .busy)
      (selectWorker ⟨view.jobId, some view.workerId⟩) memory := by
  unfold selectWorker
  apply settles_bind (visits_find_worker (fun _ => unwritten) (by decide))
  rintro after found ⟨rfl, live, known⟩
  apply settles_seq
  apply visits_ok_or live
  intro worker same
  have listed := eq_of_read (known rfl) same
  split_ifs with refused
  · apply settles_throw
    intro alive
    obtain ⟨job, stored, member, -, available⟩ := view.ready alive
    have own := listed _ member
    dsimp only at own
    rw [own] at available
    rcases available with ready | busy
    · exact absurd ready refused.1
    · exact absurd busy refused.2
  · refine settles_pure ⟨rfl, rfl, ?_⟩
    intro entry member
    rw [listed entry member]
    tauto

theorem visits_assign_handler (unwritten : memory.written = false) :
    view.Visits
      (fun after result => after = { memory with written := true } ∧
        result.workerId = some view.workerId ∧ view.Assignable)
      (assignWorkerHandler ⟨view.jobId, some view.workerId⟩) memory := by
  unfold assignWorkerHandler
  apply settles_bind (visits_select_worker unwritten)
  rintro after selected ⟨rfl, rfl, available⟩
  apply settles_bind (visits_find_job fun _ => unwritten)
  rintro after found ⟨rfl, live, known⟩
  apply settles_seq
  apply visits_ok_or live
  intro job same
  have listed := eq_of_read (known (by decide)) same
  unfold Job.setState
  split_ifs with pending
  · rw [Shared.JobState.can_transition_to_assigned_iff] at pending
    have assignable : view.Assignable := by
      intro stored worker member
      refine ⟨?_, available _ member⟩
      have own := listed _ member
      dsimp only at own
      rw [own, pending]
    apply settles_bind visits_update_job
    rintro after - rfl
    apply settles_bind visits_update_worker_state
    rintro after - rfl
    apply settles_bind (visits_find_worker (fun early => by cases early) (by decide))
    rintro after final ⟨rfl, final, -⟩
    apply settles_seq
    apply visits_ok_or final
    intro worker found
    exact settles_pure ⟨rfl, rfl, assignable⟩
  · apply settles_throw
    intro alive
    obtain ⟨stored, worker, member, waits, -⟩ := view.ready alive
    have own := listed _ member
    dsimp only at own
    rw [own] at waits
    rw [waits] at pending
    exact absurd rfl pending

theorem visits_assign (marked : Marked view ["job_validated"] context)
    (unwritten : memory.written = false) :
    view.Visits
      (fun after next => after = { memory with written := true } ∧
        Marked view ["job_validated", "worker_assignment_done"] next ∧
        textMetadata next "execution_worker_id" = some (text.display view.workerId.uuid) ∧
        view.Assignable)
      (assignWorkerStep text view.jobId (some view.workerId) context) memory := by
  have notAssigned := marked.flags "worker_assignment_done" (by decide)
  unfold assignWorkerStep
  apply settles_bind (visits_require_command_bus marked.services)
  rintro after - rfl
  rw [notAssigned, if_neg (by decide)]
  unfold dispatch
  apply settles_bind (settles_adapt _ (visits_assign_handler unwritten))
  rintro after result ⟨rfl, selected, assignable⟩
  rw [selected]
  exact settles_pure ⟨rfl, marked_assigned marked view.workerId,
    text_metadata_mark_assigned text view.workerId context, assignable⟩

/-- A call of none of the kinds that the protocol restricts. -/
theorem free_find_job {site : CallSite} (later : site ∉ earlyReads) (jobId : JobId) :
    view.Free (call (.findJob site jobId) : CallM Failure _) := by
  apply free_call
  intro memory early
  exact absurd early later

theorem free_job_executor_impl (jobId : JobId) (workerId : WorkerId) :
    view.Free (jobExecutorImpl.executeJob jobId workerId) := by
  unfold jobExecutorImpl
  apply maintains_bind (free_call_or (free_find_job (by decide) jobId))
  intro found
  apply maintains_bind (free_ok_or found _)
  intro job
  refine maintains_bind (free_call_or (free_call ?_)) ?_
  · exact fun _ => trivial
  intro _
  refine maintains_bind (free_call ?_) ?_
  · exact fun _ => trivial
  intro now
  cases job.markRunning now with
  | error error => exact maintains_throw _
  | ok running =>
      refine maintains_bind (free_call_or (free_call ?_)) ?_
      · exact fun _ => trivial
      intro _
      exact free_call_or (free_call fun _ => trivial)

theorem visits_execute_handler {jobExecutor : Option JobExecutor}
    (implemented : ∀ executor ∈ jobExecutor, executor = jobExecutorImpl)
    (assignable : view.Assignable) :
    view.Visits (fun after _ => view.Fails after)
      (executeJobHandler jobExecutor ⟨view.jobId, view.workerId⟩) memory := by
  unfold executeJobHandler
  apply settles_bind (visits_find_job fun early => absurd early (by decide))
  rintro after found ⟨rfl, live, -⟩
  apply settles_seq
  apply visits_ok_or live
  intro job same
  -- From here on the command is dispatched.
  have dispatched : view.Fails
      (after.note (.repository (.findWorker .executeFindWorker view.workerId))) :=
    fun _ => Bool.or_true _
  have looksUp : view.Visits (fun next _ => view.Fails next)
      (callOr (call (.findWorker .executeFindWorker view.workerId))
        fun _ => ExecuteJobError.workerNotFound view.workerId) after := by
    apply visits_call_or
    apply visits_call
    · exact ⟨fun early => absurd early (by decide), fun _ => ⟨rfl, assignable⟩⟩
    intro reply _
    cases reply with
    | ok found => exact dispatched
    | error error => exact dispatched
  apply settles_bind looksUp
  intro next worker held
  refine maintains_bind (free_ok_or worker _) ?_ next held
  intro _
  cases jobExecutor with
  | none =>
      refine maintains_bind (free_call_or (free_call ?_)) fun _ => maintains_pure _
      exact fun _ => trivial
  | some executor =>
      rw [implemented executor rfl]
      exact maintains_bind (free_job_executor_impl view.jobId view.workerId) fun _ =>
        maintains_pure _

theorem validated_set_metadata (validated : Validated view context) {key : String}
    (value : Sagas.Json) (other : "job_validated" ≠ key) :
    Validated view (context.setMetadata key value) :=
  ⟨validated.1, (has_flag_set_other context value other).trans validated.2⟩

theorem visits_execute {jobExecutor : Option JobExecutor}
    (implemented : ∀ executor ∈ jobExecutor, executor = jobExecutorImpl)
    (marked : Marked view ["job_validated", "worker_assignment_done"] context)
    (named : textMetadata context "execution_worker_id" = some (text.display view.workerId.uuid))
    (assignable : view.Assignable) :
    view.Visits (fun after next => view.Fails after ∧ Validated view next ∧
        next.services = some ⟨true, true⟩)
      (executeJobStep text jobExecutor view.jobId context) memory := by
  have notStarted := marked.flags "job_execution_started" (by decide)
  have validated := validated_of_marked marked (by decide)
  unfold executeJobStep
  apply settles_bind (visits_require_command_bus marked.services)
  rintro after - rfl
  rw [notStarted, if_neg (by decide), named, Option.getD_some]
  unfold parseWorkerId
  rw [text.parse_display]
  apply settles_seq
  apply settles_pure
  unfold dispatch
  apply settles_bind (settles_adapt _ (visits_execute_handler implemented assignable))
  intro after _ held
  apply settles_seq
  apply visits_call
  · exact trivial
  intro startedAt _
  refine settles_pure ⟨held, ?_, marked.services⟩
  unfold markStarted
  exact validated_set_metadata (validated_set_metadata validated _ (by decide)) _ (by decide)

theorem free_release_worker (jobId : JobId) (finalState : Shared.JobState) :
    view.Free (releaseWorker jobId finalState) := by
  unfold releaseWorker
  split_ifs
  · refine maintains_bind (free_call ?_) ?_
    · exact fun _ => trivial
    intro linked
    split
    · exact free_call_or (free_call fun _ => trivial)
    · exact maintains_pure ()
  · exact maintains_pure ()

theorem free_complete_handler (jobId : JobId) :
    view.Free (completeJobHandler ⟨jobId, .succeeded⟩) := by
  unfold completeJobHandler
  apply maintains_bind (free_call_or (free_find_job (by decide) jobId))
  intro found
  apply maintains_bind (free_ok_or found _)
  intro job
  split_ifs
  · refine maintains_bind (free_call_or (free_call ?_)) ?_
    · exact fun _ => trivial
    intro _
    exact maintains_bind (free_release_worker jobId _) fun _ => maintains_pure _
  · exact maintains_throw _

theorem visits_complete (validated : Validated view context)
    (services : context.services = some ⟨true, true⟩) (held : view.Fails memory) :
    view.Visits (fun after next => view.Fails after ∧ Validated view next)
      (completeJobStep text view.jobId context) memory := by
  unfold completeJobStep
  apply settles_bind (visits_require_command_bus services)
  rintro after - rfl
  split_ifs
  · exact settles_pure ⟨held, validated⟩
  unfold dispatch
  apply settles_bind (maintains_adapt _ (free_complete_handler view.jobId) _ held)
  intro after _ held
  apply settles_seq
  apply visits_call
  · exact trivial
  intro completedAt _
  refine settles_pure ⟨held, ?_⟩
  unfold markCompleted
  exact validated_set_metadata (validated_set_metadata (validated_set_metadata validated _
    (by decide)) _ (by decide)) _ (by decide)

theorem free_revert_job {findSite updateSite : CallSite} (later : findSite ∉ earlyReads)
    (jobId : JobId) (revertible : List Shared.JobState) (target : Shared.JobState) :
    view.Free (revertJob findSite updateSite jobId revertible target) := by
  unfold revertJob
  apply maintains_bind (free_find_job later jobId)
  intro found
  split
  · split_ifs
    · refine maintains_bind (free_call ?_) ?_
      · exact fun _ => trivial
      intro _
      exact maintains_pure ()
    · exact maintains_pure ()
  · exact maintains_pure ()

theorem free_find_undone_worker (workerId : WorkerId) :
    view.Free (call (.findWorker .undoAssignFindWorker workerId) : StepM _) := by
  apply free_call
  intro memory
  constructor
  · intro early
    cases early
  · intro looks
    cases looks

theorem free_assign_compensate (context : SagaContext) (jobId : JobId) :
    view.Free (assignWorkerCompensate text jobId context) := by
  unfold assignWorkerCompensate
  dsimp only
  split
  · exact maintains_pure ()
  · apply maintains_bind (free_ok_or context.services _)
    intro services
    split
    · exact maintains_throw _
    · apply maintains_bind
      · unfold revertWorker
        apply maintains_bind (free_find_undone_worker _)
        intro found
        split
        · split_ifs
          · exact free_call_or (free_call fun _ => trivial)
          · exact maintains_pure ()
        · exact maintains_pure ()
      · intro _
        split_ifs
        · exact free_revert_job (by decide) jobId _ _
        · exact maintains_pure ()

theorem free_execute_compensate (context : SagaContext) (jobId : JobId) :
    view.Free (executeJobCompensate jobId context) := by
  unfold executeJobCompensate
  apply maintains_bind (free_ok_or context.services _)
  intro services
  split_ifs
  · exact free_revert_job (by decide) jobId _ _
  · exact maintains_pure ()

end Steps

end HodeiJobs.Dispatch
