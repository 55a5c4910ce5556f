import HodeiJobs.Cleanup.CleanupSaga
import HodeiJobs.Execution.Outcome

/-!
# What a cleanup pass selects

A whole pass when every call succeeds. The step that looks for unhealthy
workers asks for the available ones only, and the step that looks for orphaned
jobs drops its threshold, so a pass is right exactly for stores in which neither
makes a difference.
-/

namespace HodeiJobs.Cleanup

open HodeiJobs.Library HodeiJobs.Library.Program HodeiJobs.Shared HodeiJobs.Execution
open HodeiJobs.Sagas (DateTime Duration SagaContext SagaServices)

variable {env : Env} {tables : Tables} {Failure : Type}

/-! ## Single commands -/

theorem run_find_available {site : CallSite} (clean : env.fault site = none)
    (mapErr : DomainError → Failure) (tables : Tables) :
    exec (handle env) (callOr (call (.findAvailable site)) mapErr) tables =
      (.ok tables.findAvailable, tables) :=
  run_call_or clean rfl mapErr

theorem run_find_jobs_by_state {site : CallSite} (clean : env.fault site = none)
    (mapErr : DomainError → Failure) (tables : Tables) (state : JobState) :
    exec (handle env) (callOr (call (.findJobsByState site state)) mapErr) tables =
      (.ok (tables.findJobsByState state), tables) :=
  run_call_or clean rfl mapErr

theorem run_unregister (quiet : Quiet env) (workerId : WorkerId) :
    exec (handle env) (unregisterWorkerHandler workerId) tables =
      (.ok (), tables.unregister workerId) :=
  run_call_or (quiet _) rfl _

theorem run_mark_job_failed (quiet : Quiet env) {job : Job}
    (stored : tables.jobs.find job.id = some job) (running : job.state = .running) :
    exec (handle env) (markJobFailedHandler job.id) tables =
      (.ok .running, tables.updateJobState job.id .failed) := by
  have active : ¬job.state.isTerminal = true := by
    rw [running]
    decide
  have allowed : job.state.canTransitionTo .failed = true := by
    rw [running]
    rfl
  unfold markJobFailedHandler
  rw [exec_bind_ok _ _ _ (run_find_job (quiet _) _ tables job.id),
    exec_bind_ok _ _ _ (run_ok_or tables stored), if_neg active, if_pos allowed,
    exec_bind_ok _ _ _ (run_update_job_state (quiet _) _ tables job.id .failed), running]
  rfl

/-- A job that has failed already is left alone. -/
theorem run_mark_job_failed_again (quiet : Quiet env) {job : Job}
    (stored : tables.jobs.find job.id = some job) (failed : job.state = .failed) :
    exec (handle env) (markJobFailedHandler job.id) tables =
      (.error (.terminalState job.id job.state), tables) := by
  have terminal : job.state.isTerminal = true := by
    rw [failed]
    rfl
  unfold markJobFailedHandler
  rw [exec_bind_ok _ _ _ (run_find_job (quiet _) _ tables job.id),
    exec_bind_ok _ _ _ (run_ok_or tables stored), if_pos terminal]
  rfl

/-- A command whose outcome is looked at, whatever it is. -/
theorem run_outcome (env : Env) {Result : Type} (program : CallM Failure Result) (tables : Tables) :
    exec (handle env) (ExceptT.lift program.run : StepM (Except Failure Result)) tables =
      (.ok (exec (handle env) program tables).1, (exec (handle env) program tables).2) :=
  exec_lift (handle env) program.run tables

/-! ## The loops -/

section Loops

variable (text : RustText) (uuidError : String → String)

/-- Removing workers touches no job. -/
theorem unregister_workers_run (quiet : Quiet env) (dryRun : Bool) (ids : List String)
    (cleaned : Nat) (tables : Tables) :
    ∃ count after, exec (handle env) (unregisterWorkers text dryRun ids cleaned) tables =
      (.ok count, after) ∧ after.jobs = tables.jobs := by
  induction ids generalizing cleaned tables with
  | nil => exact ⟨cleaned, tables, rfl, rfl⟩
  | cons head rest ih =>
      unfold unregisterWorkers
      cases dryRun with
      | true => exact ih (cleaned + 1) tables
      | false =>
          rw [if_neg Bool.false_ne_true]
          cases text.parse head with
          | none => exact ih cleaned tables
          | some uuid =>
              obtain ⟨count, after, runs, jobs⟩ := ih (cleaned + 1) (tables.unregister ⟨uuid⟩)
              refine ⟨count, after, ?_, jobs⟩
              have unregisters := run_outcome env (unregisterWorkerHandler ⟨uuid⟩) tables
              rw [run_unregister quiet] at unregisters
              dsimp only
              rw [exec_bind_ok _ _ _ unregisters]
              exact runs

theorem fail_jobs_dry_run (ids : List String) (reset : Nat) :
    exec (handle env) (failJobs text uuidError true ids reset) tables =
      (.ok (reset + ids.length), tables) := by
  induction ids generalizing reset with
  | nil => rfl
  | cons head rest ih =>
      unfold failJobs
      rw [if_pos rfl, ih, List.length_cons]
      congr 2
      omega

/-- A job that has been marked failed is still one that the loop accepts. -/
theorem listed_after_failing {ids : List JobId} (head : JobId)
    (listed : ∀ id ∈ ids, ∃ job, tables.jobs.find id = some job ∧
      (job.state = .running ∨ job.state = .failed)) :
    ∀ id ∈ ids, ∃ job, (tables.updateJobState head .failed).jobs.find id = some job ∧
      (job.state = .running ∨ job.state = .failed) := by
  intro id member
  obtain ⟨job, found, known⟩ := listed id member
  unfold Tables.updateJobState
  rw [Table.find_update, found]
  split_ifs
  · exact ⟨_, rfl, .inr rfl⟩
  · exact ⟨job, rfl, known⟩

theorem failed_after_failing (tables : Tables) (head : JobId) (rest : List JobId) (id : JobId) :
    ((tables.updateJobState head .failed).jobs.find id).map
        (fun job => if id ∈ rest then { job with state := .failed } else job) =
      (tables.jobs.find id).map
        fun job => if id ∈ head :: rest then { job with state := .failed } else job := by
  unfold Tables.updateJobState
  rw [Table.find_update]
  by_cases own : id = head
  · rw [if_pos own, Option.map_map]
    congr 1
    funext other
    simp only [Function.comp_apply, own, List.mem_cons, true_or, if_true]
    split_ifs <;> rfl
  · rw [if_neg own]
    simp only [List.mem_cons, own, false_or]

/-- Failing a job that has already failed changes nothing. -/
theorem failed_already {job : Job} (stored : tables.jobs.find job.id = some job)
    (failed : job.state = .failed) (rest : List JobId) (id : JobId) :
    (tables.jobs.find id).map
        (fun job => if id ∈ rest then { job with state := .failed } else job) =
      (tables.jobs.find id).map
        fun other => if id ∈ job.id :: rest then { other with state := .failed } else other := by
  by_cases own : id = job.id
  · rw [own, stored]
    have same : { job with state := .failed } = job := by
      rw [← failed]
    simp only [Option.map_some, List.mem_cons, true_or, if_true, same, ite_self]
  · simp only [List.mem_cons, own, false_or]

/-- The state of every listed job becomes failed. -/
theorem fail_jobs_run (quiet : Quiet env) (ids : List JobId) (reset : Nat) (tables : Tables)
    (listed : ∀ id ∈ ids, ∃ job, tables.jobs.find id = some job ∧
      (job.state = .running ∨ job.state = .failed)) :
    ∃ count after, exec (handle env) (failJobs text uuidError false
        (ids.map fun id => text.display id.uuid) reset) tables = (.ok count, after) ∧
      ∀ id, after.jobs.find id = (tables.jobs.find id).map fun job =>
        if id ∈ ids then { job with state := .failed } else job := by
  induction ids generalizing reset tables with
  | nil =>
      refine ⟨reset, tables, rfl, ?_⟩
      intro id
      simp
  | cons head rest ih =>
      obtain ⟨job, stored, state⟩ := listed head List.mem_cons_self
      have others := fun id member => listed id (List.mem_cons_of_mem head member)
      have key : job.id = head := Table.find_some_key stored
      subst key
      unfold failJobs
      rw [List.map_cons]
      dsimp only
      rw [if_neg Bool.false_ne_true, text.parse_display]
      dsimp only
      have outcome := run_outcome env (markJobFailedHandler job.id) tables
      rcases state with running | failed
      · obtain ⟨count, after, runs, jobs⟩ :=
          ih (reset + 1) _ (listed_after_failing job.id others)
        refine ⟨count, after, ?_, ?_⟩
        · rw [run_mark_job_failed quiet stored running] at outcome
          rw [exec_bind_ok _ _ _ outcome]
          exact runs
        · intro id
          exact (jobs id).trans (failed_after_failing tables job.id rest id)
      · obtain ⟨count, after, runs, jobs⟩ := ih reset tables others
        refine ⟨count, after, ?_, ?_⟩
        · rw [run_mark_job_failed_again quiet stored failed] at outcome
          rw [exec_bind_ok _ _ _ outcome]
          exact runs
        · intro id
          exact (jobs id).trans (failed_already stored failed rest id)

end Loops

/-! ## The steps -/

/-- The ids that the first step writes down. -/
def unhealthyIds (text : RustText) (threshold : Duration) (now : DateTime) (tables : Tables) :
    List String :=
  (tables.findAvailable.filter (isUnhealthy now threshold)).map fun worker =>
    text.display worker.id.uuid

def runningIds (tables : Tables) : List JobId := (tables.findJobsByState .running).map Job.id

/-- What the first two steps leave for the others. -/
structure Identified (text : RustText) (saga : CleanupSaga) (now : DateTime) (tables : Tables)
    (context : SagaContext) : Prop where
  services : context.services = some ⟨true, true⟩
  workers : textListMetadata context "unhealthy_worker_ids" =
    unhealthyIds text saga.unhealthyThreshold now tables
  jobs : textListMetadata context "orphaned_job_ids" =
    (runningIds tables).map fun id => text.display id.uuid

theorem text_list_metadata_set_self (context : SagaContext) (key : String)
    (values : List String) :
    textListMetadata (context.setMetadata key (textList values)) key = values := by
  unfold textListMetadata
  rw [get_metadata_set_self]
  dsimp only [textList]
  rw [map_text_list, Option.getD_some]

theorem text_list_metadata_set_other (context : SagaContext) {key other : String}
    (value : HodeiJobs.Sagas.Json) (different : other ≠ key) :
    textListMetadata (context.setMetadata key value) other = textListMetadata context other := by
  unfold textListMetadata
  rw [get_metadata_set_other context value different]

section Steps

variable (text : RustText) (uuidError : String → String) (saga : CleanupSaga)
  {context : SagaContext}

theorem identify_workers_run (quiet : Quiet env)
    (injected : context.services = some ⟨true, true⟩) :
    exec (handle env) (identifyUnhealthyWorkersStep text saga.unhealthyThreshold context) tables =
      (.ok ((context.setMetadata "unhealthy_worker_ids"
        (textList (unhealthyIds text saga.unhealthyThreshold env.now tables))).setMetadata
        "unhealthy_worker_count"
        (.integer (unhealthyIds text saga.unhealthyThreshold env.now tables).length)), tables) := by
  have clock : exec (handle env) (call .now : StepM DateTime) tables = (.ok env.now, tables) := rfl
  unfold identifyUnhealthyWorkersStep
  rw [exec_bind_ok _ _ _ (run_ok_or tables injected),
    exec_bind_ok _ _ _ (run_find_available (quiet _) _ tables), exec_bind_ok _ _ _ clock]
  rfl

theorem identify_jobs_run (quiet : Quiet env) (tables : Tables) (context : SagaContext)
    (injected : context.services = some ⟨true, true⟩) :
    ∃ count, exec (handle env) (identifyOrphanedJobsStep text saga.orphanedJobThreshold context)
        tables =
      (.ok ((context.setMetadata "orphaned_job_ids" (textList ((runningIds tables).map fun id =>
        text.display id.uuid))).setMetadata "orphaned_job_count" count), tables) := by
  have repository : (⟨true, true⟩ : SagaServices).hasJobRepository = true := rfl
  unfold identifyOrphanedJobsStep runningIds
  rw [exec_bind_ok _ _ _ (run_ok_or tables injected), if_pos repository,
    exec_bind_ok _ _ _ (run_find_jobs_by_state (quiet _) _ tables .running), List.map_map]
  exact ⟨_, rfl⟩

theorem identify_steps_run (quiet : Quiet env) (tables : Tables)
    (injected : context.services = some ⟨true, true⟩) :
    ∃ middle identified,
      exec (handle env) (identifyUnhealthyWorkersStep text saga.unhealthyThreshold context)
        tables = (.ok middle, tables) ∧
      exec (handle env) (identifyOrphanedJobsStep text saga.orphanedJobThreshold middle)
        tables = (.ok identified, tables) ∧
      Identified text saga env.now tables identified := by
  obtain ⟨count, jobs⟩ := identify_jobs_run text saga quiet tables
    ((context.setMetadata "unhealthy_worker_ids"
      (textList (unhealthyIds text saga.unhealthyThreshold env.now tables))).setMetadata
      "unhealthy_worker_count"
      (.integer (unhealthyIds text saga.unhealthyThreshold env.now tables).length)) injected
  refine ⟨_, _, identify_workers_run text saga quiet injected, jobs, injected, ?_, ?_⟩
  · rw [text_list_metadata_set_other _ _ (by decide), text_list_metadata_set_other _ _ (by decide),
      text_list_metadata_set_other _ _ (by decide), text_list_metadata_set_self]
  · rw [text_list_metadata_set_other _ _ (by decide), text_list_metadata_set_self]

theorem run_require_bus (injected : context.services = some ⟨true, true⟩) (step : String) :
    exec (handle env) (requireBus step context) tables = (.ok (), tables) := by
  have bus : (⟨true, true⟩ : SagaServices).hasCommandBus = true := rfl
  unfold requireBus
  rw [exec_bind_ok _ _ _ (run_ok_or tables injected), if_pos bus]
  rfl

/-- Every running job is failed, unless the run is dry. -/
theorem fail_running_jobs_run (quiet : Quiet env) (tables : Tables) (reset : Nat) :
    ∃ count after, exec (handle env) (failJobs text uuidError saga.dryRun
        ((runningIds tables).map fun id => text.display id.uuid) reset) tables =
        (.ok count, after) ∧
      ∀ job ∈ tables.jobs.rows, (after.jobs.find job.id).map Job.state =
        some (if job.state = .running ∧ saga.dryRun = false then .failed else job.state) := by
  cases dry : saga.dryRun with
  | true =>
      refine ⟨_, tables, fail_jobs_dry_run text uuidError _ reset, ?_⟩
      intro job member
      rw [Table.find_of_mem member, if_neg fun both => Bool.noConfusion both.2]
      rfl
  | false =>
      have listed : ∀ id ∈ runningIds tables, ∃ job, tables.jobs.find id = some job ∧
          (job.state = .running ∨ job.state = .failed) := by
        intro id member
        obtain ⟨job, selected, rfl⟩ := List.mem_map.mp member
        obtain ⟨row, running⟩ := List.mem_filter.mp selected
        exact ⟨job, Table.find_of_mem row, .inl (of_decide_eq_true running)⟩
      obtain ⟨count, after, runs, jobs⟩ := fail_jobs_run text uuidError quiet _ reset tables listed
      refine ⟨count, after, runs, ?_⟩
      intro job member
      have stored := Table.find_of_mem member
      have known : job.id ∈ runningIds tables ↔ job.state = .running := by
        constructor
        · intro inside
          obtain ⟨other, selected, sameId⟩ := List.mem_map.mp inside
          obtain ⟨row, running⟩ := List.mem_filter.mp selected
          have found := Table.find_of_mem row
          rw [sameId, stored] at found
          cases found
          exact of_decide_eq_true running
        · intro running
          exact List.mem_map_of_mem (List.mem_filter.mpr ⟨member, decide_eq_true running⟩)
      rw [jobs job.id, stored]
      by_cases running : job.state = .running
      · rw [Option.map_some, Option.map_some, if_pos (known.mpr running), if_pos ⟨running, rfl⟩]
      · rw [Option.map_some, Option.map_some, if_neg fun inside => running (known.mp inside),
          if_neg fun both => running both.1]

/-- The whole pass: what it wrote down about the workers and what became of the
jobs. -/
theorem cleanup_steps_run (quiet : Quiet env) (tables : Tables) (context : SagaContext)
    (injected : context.services = some ⟨true, true⟩) :
    ∃ final after, exec (handle env) (saga.executeSteps text uuidError context) tables =
        (.ok final, after) ∧
      textListMetadata final "unhealthy_worker_ids" =
        unhealthyIds text saga.unhealthyThreshold env.now tables ∧
      ∀ job ∈ tables.jobs.rows, (after.jobs.find job.id).map Job.state =
        some (if job.state = .running ∧ saga.dryRun = false then .failed else job.state) := by
  obtain ⟨middle, identified, workers, orphaned, known⟩ := identify_steps_run text saga quiet tables
    injected
  obtain ⟨cleaned, removed, removes, jobs⟩ := unregister_workers_run text quiet saga.dryRun
    (textListMetadata identified "unhealthy_worker_ids") 0 tables
  have sameIds : runningIds tables = runningIds removed := by
    unfold runningIds Tables.findJobsByState
    rw [jobs]
  obtain ⟨count, after, resets, states⟩ := fail_running_jobs_run text uuidError saga quiet
    removed 0
  have cleans : exec (handle env) (cleanupUnhealthyWorkersStep text saga.dryRun identified)
      tables = (.ok (identified.setMetadata "cleaned_up_worker_count" (.integer cleaned)),
        removed) := by
    unfold cleanupUnhealthyWorkersStep
    rw [exec_bind_ok _ _ _ (run_require_bus known.services _), exec_bind_ok _ _ _ removes]
    rfl
  have orphans : textListMetadata
      (identified.setMetadata "cleaned_up_worker_count" (.integer cleaned)) "orphaned_job_ids" =
      (runningIds removed).map fun id => text.display id.uuid := by
    rw [text_list_metadata_set_other _ _ (by decide), known.jobs, sameIds]
  have bus : (identified.setMetadata "cleaned_up_worker_count" (.integer cleaned)).services =
      some ⟨true, true⟩ := known.services
  refine ⟨(identified.setMetadata "cleaned_up_worker_count" (.integer cleaned)).setMetadata
    "reset_job_count" (.integer count), after, ?_, ?_, ?_⟩
  · unfold CleanupSaga.executeSteps
    rw [exec_bind_ok _ _ _ workers, exec_bind_ok _ _ _ orphaned, exec_bind_ok _ _ _ cleans]
    unfold resetOrphanedJobsStep
    rw [exec_bind_ok _ _ _ (run_require_bus bus _), orphans, exec_bind_ok _ _ _ resets]
    rfl
  · rw [text_list_metadata_set_other _ _ (by decide), text_list_metadata_set_other _ _ (by decide),
      known.workers]
  · rw [← jobs]
    exact states

end Steps

/-! ## What a pass is for -/

/-- Longer ago than the threshold. -/
def OlderThan (threshold : Duration) (now moment : DateTime) : Prop :=
  (threshold.nanos : Int) < (now - moment) * 1000

theorem not_older_of_future {threshold : Duration} {now moment : DateTime}
    (future : now < moment) : ¬OlderThan threshold now moment := by
  intro old
  have negative : (now - moment) * 1000 < 0 :=
    Int.mul_neg_of_neg_of_pos (Int.sub_neg_of_lt future) (by decide)
  exact absurd (Int.lt_trans old negative) (Int.not_lt.mpr (Int.natCast_nonneg _))

/-- A running job whose row was last updated longer ago than the threshold. The
aggregate does not carry the `updated_at` column, so it is given beside it. -/
def Orphaned (threshold : Duration) (now : DateTime) (updatedAt : JobId → DateTime) (job : Job) :
    Prop :=
  job.state = .running ∧ OlderThan threshold now (updatedAt job.id)

/-- A worker that has to go: not terminated, and still being created or with an
old heartbeat. -/
def Unhealthy (threshold : Duration) (now : DateTime) (worker : Worker) : Prop :=
  worker.state ≠ .terminated ∧
    (worker.state = .creating ∨
      ∃ heartbeat, worker.lastHeartbeat = some heartbeat ∧ OlderThan threshold now heartbeat)

/-- A pass succeeds, fails the orphaned jobs and no others, and selects the
unhealthy workers and no others. -/
def CleansExactly (env : Env) (text : RustText) (uuidError : String → String)
    (saga : CleanupSaga) (updatedAt : JobId → DateTime) (context : SagaContext)
    (tables : Tables) : Prop :=
  ∃ final after, exec (handle env) (saga.executeSteps text uuidError context) tables =
      (.ok final, after) ∧
    (∀ job ∈ tables.jobs.rows,
      (after.jobs.find job.id).map Job.state = some .failed ∧ job.state ≠ .failed ↔
        Orphaned saga.orphanedJobThreshold env.now updatedAt job) ∧
    ∀ value, value ∈ textListMetadata final "unhealthy_worker_ids" ↔
      ∃ worker ∈ tables.workers.rows, Unhealthy saga.unhealthyThreshold env.now worker ∧
        value = text.display worker.id.uuid

/-- A store on which the narrow query and the dropped threshold make no
difference. No worker is being created, an old heartbeat is one of an available
worker, no available worker has a heartbeat of the future, and the running jobs
are all orphaned, or none of them in a dry run. -/
structure Unambiguous (saga : CleanupSaga) (updatedAt : JobId → DateTime) (now : DateTime)
    (tables : Tables) : Prop where
  jobs : ∀ job ∈ tables.jobs.rows, job.state = .running →
    (OlderThan saga.orphanedJobThreshold now (updatedAt job.id) ↔ saga.dryRun = false)
  created : ∀ worker ∈ tables.workers.rows, worker.state ≠ .creating
  old : ∀ worker ∈ tables.workers.rows, worker.state ≠ .terminated →
    ∀ heartbeat, worker.lastHeartbeat = some heartbeat →
      OlderThan saga.unhealthyThreshold now heartbeat →
      worker.state = .ready ∧ worker.currentJobId = none
  past : ∀ worker ∈ tables.workers.rows, worker.state = .ready → worker.currentJobId = none →
    ∀ heartbeat, worker.lastHeartbeat = some heartbeat → heartbeat ≤ now

section Selection

variable (text : RustText) (uuidError : String → String) (saga : CleanupSaga)
  (updatedAt : JobId → DateTime) {context : SagaContext}

theorem display_injective {left right : HodeiJobs.Sagas.Uuid}
    (same : text.display left = text.display right) : left = right := by
  have parsed := text.parse_display left
  rw [same, text.parse_display] at parsed
  exact (Option.some.inj parsed).symm

/-- Which rows the first step selects. -/
theorem mem_unhealthy_ids (threshold : Duration) (now : DateTime) {worker : Worker}
    (member : worker ∈ tables.workers.rows) :
    text.display worker.id.uuid ∈ unhealthyIds text threshold now tables ↔
      (worker.state = .ready ∧ worker.currentJobId = none) ∧
        isUnhealthy now threshold worker = true := by
  unfold unhealthyIds Tables.findAvailable
  constructor
  · intro listed
    obtain ⟨other, selected, sameText⟩ := List.mem_map.mp listed
    obtain ⟨available, unhealthy⟩ := List.mem_filter.mp selected
    obtain ⟨row, conditions⟩ := List.mem_filter.mp available
    have sameId : other.id = worker.id := by
      have uuids := display_injective text sameText
      rcases other with ⟨⟨otherUuid⟩, _⟩
      rcases worker with ⟨⟨uuid⟩, _⟩
      exact congrArg WorkerId.mk uuids
    have same := List.inj_on_of_nodup_map tables.workers.unique row member sameId
    rw [same] at conditions unhealthy
    exact ⟨of_decide_eq_true conditions, unhealthy⟩
  · intro ⟨conditions, unhealthy⟩
    refine List.mem_map.mpr ⟨worker, List.mem_filter.mpr ⟨?_, unhealthy⟩, rfl⟩
    exact List.mem_filter.mpr ⟨member, decide_eq_true conditions⟩

/-- For a ready worker the filter is about its heartbeat alone. -/
theorem is_unhealthy_ready {threshold : Duration} {now : DateTime} {worker : Worker}
    (ready : worker.state = .ready) :
    isUnhealthy now threshold worker = true ↔
      ∃ heartbeat, worker.lastHeartbeat = some heartbeat ∧
        (now < heartbeat ∨ OlderThan threshold now heartbeat) := by
  unfold isUnhealthy isStaleHeartbeat sinceHeartbeat OlderThan
  rw [ready]
  cases worker.lastHeartbeat with
  | none => simp
  | some heartbeat =>
      simp only [reduceCtorEq, decide_false, Bool.false_or, ne_eq, not_false_eq_true, decide_true,
        Bool.and_true, decide_eq_true_eq, Option.getD_some, Option.some.injEq]
      constructor
      · rintro (future | old)
        · exact ⟨heartbeat, rfl, .inl (Int.lt_of_sub_neg future)⟩
        · exact ⟨heartbeat, rfl, .inr old⟩
      · rintro ⟨other, rfl, future | old⟩
        · exact .inl (Int.sub_neg_of_lt future)
        · exact .inr old

/-- The jobs that a pass fails are the orphaned ones exactly if the running jobs
are all orphaned, or none of them in a dry run. -/
theorem failed_exactly_iff (now : DateTime) {after : Tables}
    (states : ∀ job ∈ tables.jobs.rows, (after.jobs.find job.id).map Job.state =
      some (if job.state = .running ∧ saga.dryRun = false then .failed else job.state)) :
    (∀ job ∈ tables.jobs.rows,
      (after.jobs.find job.id).map Job.state = some .failed ∧ job.state ≠ .failed ↔
        Orphaned saga.orphanedJobThreshold now updatedAt job) ↔
    ∀ job ∈ tables.jobs.rows, job.state = .running →
      (OlderThan saga.orphanedJobThreshold now (updatedAt job.id) ↔ saga.dryRun = false) := by
  apply forall₂_congr
  intro job member
  rw [states job member]
  unfold Orphaned
  by_cases running : job.state = .running
  · cases saga.dryRun with
    | true => simp [running]
    | false => simp [running]
  · have other : ¬(job.state = .running ∧ saga.dryRun = false) := fun both => running both.1
    rw [if_neg other]
    simp [running]

/-- The workers that a pass selects are the unhealthy ones exactly if the query
for available workers hides none of them and lets no other through. -/
theorem selected_exactly_iff (now : DateTime) (tables : Tables) :
    (∀ value, value ∈ unhealthyIds text saga.unhealthyThreshold now tables ↔
      ∃ worker ∈ tables.workers.rows, Unhealthy saga.unhealthyThreshold now worker ∧
        value = text.display worker.id.uuid) ↔
    ∀ worker ∈ tables.workers.rows,
      ((worker.state = .ready ∧ worker.currentJobId = none) ∧
        isUnhealthy now saga.unhealthyThreshold worker = true ↔
        Unhealthy saga.unhealthyThreshold now worker) := by
  constructor
  · intro exactly worker member
    rw [← mem_unhealthy_ids text saga.unhealthyThreshold now member, exactly]
    constructor
    · rintro ⟨other, row, unhealthy, sameText⟩
      have sameId : worker.id = other.id := by
        have uuids := display_injective text sameText
        rcases other with ⟨⟨otherUuid⟩, _⟩
        rcases worker with ⟨⟨uuid⟩, _⟩
        exact congrArg WorkerId.mk uuids
      have same := List.inj_on_of_nodup_map tables.workers.unique member row sameId
      rw [same]
      exact unhealthy
    · intro unhealthy
      exact ⟨worker, member, unhealthy, rfl⟩
  · intro exactly value
    constructor
    · intro listed
      obtain ⟨worker, selected, rfl⟩ := List.mem_map.mp listed
      have member : worker ∈ tables.workers.rows :=
        List.mem_of_mem_filter (List.mem_of_mem_filter selected)
      refine ⟨worker, member, (exactly worker member).mp ?_, rfl⟩
      exact (mem_unhealthy_ids text saga.unhealthyThreshold now member).mp listed
    · rintro ⟨worker, member, unhealthy, rfl⟩
      exact (mem_unhealthy_ids text saga.unhealthyThreshold now member).mpr
        ((exactly worker member).mpr unhealthy)

/-- One row at a time. -/
theorem selected_row_iff {threshold : Duration} {now : DateTime} {worker : Worker} :
    ((worker.state = .ready ∧ worker.currentJobId = none) ∧
        isUnhealthy now threshold worker = true ↔ Unhealthy threshold now worker) ↔
      worker.state ≠ .creating ∧
      (worker.state ≠ .terminated → ∀ heartbeat, worker.lastHeartbeat = some heartbeat →
        OlderThan threshold now heartbeat →
        worker.state = .ready ∧ worker.currentJobId = none) ∧
      (worker.state = .ready → worker.currentJobId = none → ∀ heartbeat,
        worker.lastHeartbeat = some heartbeat → heartbeat ≤ now) := by
  by_cases available : worker.state = .ready ∧ worker.currentJobId = none
  · have current : worker.state ≠ .terminated ∧ worker.state ≠ .creating := by
      rw [available.1]
      decide
    rw [is_unhealthy_ready available.1]
    unfold Unhealthy
    constructor
    · intro same
      refine ⟨current.2, fun _ _ _ _ => available, ?_⟩
      intro _ _ heartbeat sent
      by_contra future
      have selected := same.mp ⟨available, heartbeat, sent, .inl (not_le.mp future)⟩
      rcases selected.2 with creating | ⟨other, alsoSent, old⟩
      · exact current.2 creating
      · rw [sent] at alsoSent
        cases alsoSent
        exact not_older_of_future (not_le.mp future) old
    · rintro ⟨-, -, past⟩
      constructor
      · rintro ⟨-, heartbeat, sent, future | old⟩
        · exact absurd (past available.1 available.2 heartbeat sent) (not_le.mpr future)
        · exact ⟨current.1, .inr ⟨heartbeat, sent, old⟩⟩
      · rintro ⟨-, creating | ⟨heartbeat, sent, old⟩⟩
        · exact absurd creating current.2
        · exact ⟨available, heartbeat, sent, .inr old⟩
  · constructor
    · intro same
      have healthy : ¬Unhealthy threshold now worker :=
        fun unhealthy => available (same.mpr unhealthy).1
      refine ⟨?_, ?_, fun ready unlinked => absurd ⟨ready, unlinked⟩ available⟩
      · intro creating
        refine healthy ⟨?_, .inl creating⟩
        rw [creating]
        decide
      · intro active heartbeat sent old
        exact absurd ⟨active, .inr ⟨heartbeat, sent, old⟩⟩ healthy
    · rintro ⟨created, old, -⟩
      apply iff_of_false (fun both => available both.1)
      rintro ⟨active, creating | ⟨heartbeat, sent, late⟩⟩
      · exact created creating
      · exact available (old active heartbeat sent late)

/-- With every call succeeding, a pass does exactly what it is for on exactly the
unambiguous stores. -/
theorem cleans_exactly_iff (quiet : Quiet env)
    (injected : context.services = some ⟨true, true⟩) :
    CleansExactly env text uuidError saga updatedAt context tables ↔
      Unambiguous saga updatedAt env.now tables := by
  obtain ⟨final, after, runs, selected, states⟩ :=
    cleanup_steps_run text uuidError saga quiet tables context injected
  have jobs := failed_exactly_iff saga updatedAt env.now states
  have workers := selected_exactly_iff text saga env.now tables
  constructor
  · rintro ⟨otherFinal, otherAfter, otherRuns, failed, chosen⟩
    rw [runs] at otherRuns
    obtain ⟨sameFinal, rfl⟩ := Prod.mk.inj otherRuns
    obtain rfl := Except.ok.inj sameFinal
    rw [selected] at chosen
    have rows := fun worker member => selected_row_iff.mp (workers.mp chosen worker member)
    exact ⟨jobs.mp failed, fun worker member => (rows worker member).1,
      fun worker member => (rows worker member).2.1, fun worker member => (rows worker member).2.2⟩
  · intro unambiguous
    refine ⟨final, after, runs, jobs.mpr unambiguous.jobs, ?_⟩
    rw [selected]
    apply workers.mpr
    intro worker member
    exact selected_row_iff.mpr ⟨unambiguous.created worker member, unambiguous.old worker member,
      unambiguous.past worker member⟩

end Selection

/-! ## Two stores -/

def defaultSaga : CleanupSaga := ⟨.fromSecs 300, .fromSecs 600, false⟩

/-- Sixteen minutes after the epoch. -/
def sixteenMinutes : Env := { quietEnv with now := 960000000 }

theorem sixteen_minutes_quiet : Quiet sixteenMinutes := fun _ => rfl

/-- A running job and a ready worker without a heartbeat. -/
def runningTables : Tables := sampleTables (sampleJob .running) (sampleWorker none)

/-- The job was last updated at the epoch, longer ago than ten minutes. -/
theorem orphaned_job_is_failed :
    CleansExactly sixteenMinutes sampleText id defaultSaga (fun _ => 0) sampleContext
      runningTables := by
  apply (cleans_exactly_iff sampleText id defaultSaga (fun _ => 0) sixteen_minutes_quiet
    rfl).mpr
  refine ⟨?_, by decide, ?_, ?_⟩
  · intro job member running
    exact iff_of_true (by unfold OlderThan; decide) rfl
  · intro worker member _ heartbeat sent
    rw [List.mem_singleton.mp member] at sent
    cases sent
  · intro worker member _ _ heartbeat sent
    rw [List.mem_singleton.mp member] at sent
    cases sent

/-- The job was updated a moment ago and is failed all the same. -/
theorem healthy_job_is_failed :
    (∃ final after, exec (handle sixteenMinutes)
        (defaultSaga.executeSteps sampleText id sampleContext) runningTables = (.ok final, after) ∧
      (after.jobs.find ⟨1⟩).map Job.state = some .failed) ∧
    ¬Orphaned defaultSaga.orphanedJobThreshold sixteenMinutes.now (fun _ => 959999999)
      (sampleJob .running) ∧
    ¬CleansExactly sixteenMinutes sampleText id defaultSaga (fun _ => 959999999) sampleContext
      runningTables := by
  obtain ⟨final, after, runs, -, states⟩ := cleanup_steps_run sampleText id defaultSaga
    sixteen_minutes_quiet runningTables sampleContext rfl
  have failed := states (sampleJob .running) List.mem_cons_self
  have healthy : ¬Orphaned defaultSaga.orphanedJobThreshold sixteenMinutes.now
      (fun _ => 959999999) (sampleJob .running) := by
    unfold Orphaned OlderThan
    decide
  refine ⟨⟨final, after, runs, failed⟩, healthy, ?_⟩
  rintro ⟨otherFinal, otherAfter, otherRuns, jobs, -⟩
  rw [runs] at otherRuns
  obtain ⟨-, rfl⟩ := Prod.mk.inj otherRuns
  exact healthy ((jobs (sampleJob .running) List.mem_cons_self).mp ⟨failed, by decide⟩)

end HodeiJobs.Cleanup
