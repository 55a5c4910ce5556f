import HodeiJobs.Dispatch.ExecutionDispatcher

/-!
# What one call of the dispatcher keeps

The protocol that `execute_execution_saga` obeys when no step of its saga is
recorded `Completed` at its start. Whatever it writes of a completed step comes
with a context that is marked as validated, and it dispatches `ExecuteJobCommand`
for its own worker only.
-/

namespace HodeiJobs.Dispatch

open HodeiJobs.Library HodeiJobs.Library.Program HodeiJobs.Execution
open HodeiJobs.Sagas (Json JsonMap SagaContext SagaId SagaOp SagaStore Statement TxLabel
  PostgresSagaOrchestratorConfig RecordedCompleted completedAt completed_at_iff)

/-! ## The saga row -/

/-- What the saga row holds under a key of its metadata. -/
def storedMetadata (store : SagaStore) (sagaId : SagaId) (key : String) : Option Json :=
  (store.findRow sagaId).bind fun row =>
    (JsonMap.fromValue row.metadata).bind fun map => map.get key

/-- A statement that neither saves a context nor records a step as completed. -/
def Plain : Statement → Prop
  | .saveWithTx _ => False
  | .updateStateWithTx _ _ _ => True
  | .saveStepWithTx step => step.state ≠ .completed
  | .updateStepStateWithTx _ state _ => state ≠ .completed

section Statements

variable {store : SagaStore} {sagaId : SagaId}

theorem stored_metadata_save (now : Sagas.DateTime) (context : SagaContext) (key : String) :
    storedMetadata (store.save now context) context.sagaId key = context.getMetadata key := by
  unfold storedMetadata SagaStore.save
  by_cases absent : context.sagaId.uuid ∉ store.sagas.map Sagas.SagaDbRow.id
  · rw [dif_pos absent]
    have missing := (SagaStore.find_row_none_iff store context.sagaId).mpr absent
    unfold SagaStore.findRow at missing
    simp [SagaStore.findRow, SagaStore.insertSaga, List.find?_append, missing,
      Sagas.SagaDbRow.ofContext, SagaContext.getMetadata]
  · rw [dif_neg absent, SagaStore.find_row_update_sagas]
    have present : store.findRow context.sagaId ≠ none := by
      intro missing
      exact absent ((SagaStore.find_row_none_iff store context.sagaId).mp missing)
    obtain ⟨row, found⟩ := Option.ne_none_iff_exists'.mp present
    simp [found, SagaStore.find_row_some_id found, SagaContext.getMetadata]

theorem stored_metadata_plain (now : Sagas.DateTime) {statement : Statement}
    (plain : Plain statement) (key : String) :
    storedMetadata (store.apply now statement) sagaId key = storedMetadata store sagaId key := by
  cases statement with
  | saveWithTx context => exact plain.elim
  | updateStateWithTx updated state message =>
      unfold storedMetadata SagaStore.apply SagaStore.updateState
      dsimp only
      rw [SagaStore.find_row_update_sagas]
      cases store.findRow sagaId with
      | none => rfl
      | some row =>
          dsimp only [Option.map_some, Option.bind_some]
          split_ifs <;> rfl
  | saveStepWithTx step =>
      unfold storedMetadata SagaStore.findRow SagaStore.apply
      dsimp only
      rw [SagaStore.save_step_sagas]
  | updateStepStateWithTx stepId state output => rfl

theorem recorded_of_update_steps {index : Nat} {id : Sagas.Uuid}
    {change : Sagas.SagaStepDbRow → Sagas.SagaStepDbRow}
    (keepsId : ∀ row, (change row).id = row.id)
    (unfinished : ∀ row, Sagas.SagaStepState.ofColumn (change row).state ≠ .completed)
    (recorded : RecordedCompleted (store.updateSteps id change keepsId) sagaId index) :
    RecordedCompleted store sagaId index := by
  obtain ⟨row, member, owner, order, state⟩ := recorded
  obtain ⟨before, stored, same⟩ := List.mem_map.mp member
  split_ifs at same with chosen
  · rw [← same] at state
    exact absurd state (unfinished before)
  · rw [same] at stored
    exact ⟨row, stored, owner, order, state⟩

theorem recorded_of_plain (now : Sagas.DateTime) {statement : Statement} (plain : Plain statement)
    {index : Nat} (recorded : RecordedCompleted (store.apply now statement) sagaId index) :
    RecordedCompleted store sagaId index := by
  cases statement with
  | saveWithTx context => exact plain.elim
  | updateStateWithTx updated state message => exact recorded
  | saveStepWithTx step =>
      unfold SagaStore.apply SagaStore.saveStep at recorded
      dsimp only at recorded
      split_ifs at recorded with absent
      · refine recorded_of_update_steps _ ?_ recorded
        intro row
        rw [Sagas.SagaStepState.of_column_display]
        exact plain
      · obtain ⟨row, member, owner, order, state⟩ := recorded
        rcases List.mem_append.mp member with stored | added
        · exact ⟨row, stored, owner, order, state⟩
        · rw [List.mem_singleton.mp added] at state
          unfold Sagas.SagaStepDbRow.ofData at state
          rw [Sagas.SagaStepState.of_column_display] at state
          exact absurd state plain
  | updateStepStateWithTx stepId state output =>
      unfold SagaStore.apply SagaStore.updateStepState at recorded
      dsimp only at recorded
      refine recorded_of_update_steps _ ?_ recorded
      intro row
      unfold SagaStore.stepStateChange
      rw [Sagas.SagaStepState.of_column_display]
      exact plain

theorem commit_plain (now : Sagas.DateTime) {statements : List Statement}
    (plain : ∀ statement ∈ statements, Plain statement) :
    (∀ key, storedMetadata (store.commit now statements) sagaId key =
        storedMetadata store sagaId key) ∧
      ∀ index, RecordedCompleted (store.commit now statements) sagaId index →
        RecordedCompleted store sagaId index := by
  induction statements generalizing store with
  | nil => exact ⟨fun _ => rfl, fun _ => id⟩
  | cons statement rest ih =>
      obtain ⟨first, others⟩ := List.forall_mem_cons.mp plain
      obtain ⟨metadata, records⟩ := @ih (store.apply now statement) others
      constructor
      · intro key
        exact (metadata key).trans (stored_metadata_plain now first key)
      · intro index recorded
        exact recorded_of_plain now first (records index recorded)

end Statements

/-! ## The protocol -/

/-- The reads of the job that come before any write to it. -/
def earlyReads : List CallSite := [.validateFindJob, .assignFindJob]

/-- One call of the dispatcher. `known` are the job and the worker, where nobody else
changes them during the call. The call is `live` when nothing fails and the two can be
brought together. -/
structure View where
  config : PostgresSagaOrchestratorConfig
  sagaId : SagaId
  jobId : JobId
  workerId : WorkerId
  known : Option (Job × Worker)
  live : Prop
  ready : live → ∃ job worker, known = some (job, worker) ∧ job.state = .pending ∧
    (worker.state = .ready ∨ worker.state = .busy)

structure Progress where
  recorded : Bool
  written : Bool
  dispatched : Bool

/-- What a call adds. -/
def Progress.note (memory : Progress) : Call → Progress
  | .saga (.commit _ (.step _) _) => { memory with recorded := true }
  | .repository (.findWorker site _) =>
      { memory with dispatched := memory.dispatched || decide (site = .executeFindWorker) }
  | .repository (.updateJob _ _) | .repository (.updateJobState _ _ _)
  | .repository (.updateWorkerState _ _ _) | .repository (.markBusy _ _ _)
  | .repository (.releaseFromJob _ _) => { memory with written := true }
  | _ => memory

namespace View

def Assignable (view : View) : Prop :=
  ∀ job worker, view.known = some (job, worker) →
    job.state = .pending ∧ (worker.state = .ready ∨ worker.state = .busy)

/-- Where a call may fail. -/
def Fails (view : View) (memory : Progress) : Prop := view.live → memory.dispatched = true

def sagaAnswers (view : View) : (op : SagaOp) → SagaOp.Reply op → Prop
  | .admission sagaId, reply => view.live → sagaId = view.sagaId → reply = Except.ok ()
  | .txCall sagaId _ _, reply => view.live → sagaId = view.sagaId → reply = Except.ok ()
  | .commit sagaId _ _, reply => view.live → sagaId = view.sagaId → reply = Except.ok ()
  | .findSteps sagaId load, reply =>
      sagaId = view.sagaId →
        (view.live → ∃ steps, reply = Except.ok steps) ∧
          (load = .resume → ∀ steps, reply = Except.ok steps →
            ∀ index, completedAt steps index = false)
  | .elapsed sagaId (.timeoutCheck _), reply =>
      view.live → sagaId = view.sagaId →
        Sagas.Duration.nanos reply ≤ view.config.sagaTimeout.nanos
  | _, _ => True

def repositoryAnswers (view : View) : (op : Op) → Op.Reply op → Prop
  | .findJob site jobId, reply =>
      jobId = view.jobId →
        (view.live → ∃ job, reply = Except.ok (some job)) ∧
          (site ∈ earlyReads → ∀ entry ∈ view.known, ∀ found, reply = Except.ok found →
            found = some entry.1)
  | .findWorker site workerId, reply =>
      workerId = view.workerId →
        (view.live → ∃ worker, reply = Except.ok (some worker)) ∧
          (site = .assignFindWorker → ∀ entry ∈ view.known, ∀ found, reply = Except.ok found →
            found = some entry.2)
  | .updateJob _ _, reply => view.live → reply = Except.ok ()
  | .updateWorkerState _ _ _, reply => view.live → reply = Except.ok ()
  | _, _ => True

/-- The initial context before any record, a completed step with a context marked as
validated, or statements of neither kind. -/
def MayCommit (view : View) (memory : Progress) (label : TxLabel) (statements : List Statement) :
    Prop :=
  (∀ statement ∈ statements, Plain statement) ∨
    (memory.recorded = false ∧ ∃ context, statements = [.saveWithTx context]) ∨
    ((∃ index, label = .step index) ∧ ∃ earlier context,
      statements = earlier ++ [.saveWithTx context] ∧ context.sagaId = view.sagaId ∧
        hasFlag context "job_validated" = true)

def protocol (view : View) : Protocol Call Call.Reply Progress where
  answers
    | .saga op, reply => view.sagaAnswers op reply
    | .repository op, reply => view.repositoryAnswers op reply
    | .stepTimer sagaId _, reply => view.live → sagaId = view.sagaId → reply = none
  allows memory
    | .saga (.commit _ label statements) => view.MayCommit memory label statements
    | .saga (.findSteps _ .resume) => memory.recorded = false
    | .saga (.findById _) | .saga (.markCompensating _) | .saga (.selectClaimable _)
    | .saga (.claimRow _) => False
    | .repository (.findJob site _) => site ∈ earlyReads → memory.written = false
    | .repository (.findWorker site workerId) =>
        (site = .assignFindWorker → memory.written = false) ∧
          (site = .executeFindWorker → workerId = view.workerId ∧ view.Assignable)
    | .repository (.unregister _ _) => False
    | _ => True
  remember memory call _ := memory.note call

end View

/-! ## What the protocol keeps -/

/-- A call that is answered without a fault and in time. -/
structure QuietMoment (config : PostgresSagaOrchestratorConfig) (sagaId : SagaId)
    (moment : Moment) : Prop where
  admission : (moment.saga.saga sagaId).admission = .ok ()
  fault : ∀ tx call, (moment.saga.saga sagaId).fault tx call = none
  loadFault : ∀ load, (moment.saga.saga sagaId).loadFault load = none
  elapsed : ∀ index, ((moment.saga.saga sagaId).elapsed (.timeoutCheck index)).nanos ≤
    config.sagaTimeout.nanos
  repository : ∀ site, moment.repository.fault site = none
  stepTimer : ∀ index, moment.stepTimer sagaId index = none

/-- A moment as the view has it. -/
structure View.Fits (view : View) (moment : Moment) : Prop where
  alone : view.known ≠ none → moment.others = id
  quiet : view.live → QuietMoment view.config view.sagaId moment

structure View.Tracks (view : View) (memory : Progress) (world : World) : Prop where
  unrecorded : memory.recorded = false →
    ∀ index, ¬RecordedCompleted world.sagas.store view.sagaId index
  validated : (∃ index, RecordedCompleted world.sagas.store view.sagaId index) →
    storedMetadata world.sagas.store view.sagaId "job_validated" = some (.bool true)
  unchanged : memory.written = false → ∀ entry ∈ view.known,
    world.tables.jobs.find view.jobId = some entry.1 ∧
      world.tables.workers.find view.workerId = some entry.2
  present : view.live → (∃ job, world.tables.jobs.find view.jobId = some job) ∧
    ∃ worker, world.tables.workers.find view.workerId = some worker
  dispatched : memory.dispatched = true → view.workerId ∈ world.executeJobWorkers
  only : ∀ workerId ∈ world.executeJobWorkers, workerId = view.workerId ∧ view.Assignable

section Kept

variable {view : View} {moment : Moment} {memory : Progress} {world : World}

theorem has_flag_metadata {context : SagaContext} {key : String}
    (flag : hasFlag context key = true) : context.getMetadata key = some (.bool true) := by
  unfold hasFlag at flag
  split at flag
  next found => exact found
  next => cases flag

/-- A transaction that the protocol allows. -/
theorem tracks_commit (tracks : view.Tracks memory world) {label : TxLabel}
    {statements : List Statement} (allowed : view.MayCommit memory label statements)
    (now : Sagas.DateTime) (sagaId : SagaId) :
    view.Tracks (memory.note (.saga (.commit sagaId label statements)))
      { world with sagas.store := world.sagas.store.commit now statements } := by
  have keeps : ∀ other : Progress, other.written = memory.written →
      other.dispatched = memory.dispatched →
      (other.recorded = false → ∀ index,
        ¬RecordedCompleted (world.sagas.store.commit now statements) view.sagaId index) →
      ((∃ index, RecordedCompleted (world.sagas.store.commit now statements) view.sagaId index) →
        storedMetadata (world.sagas.store.commit now statements) view.sagaId "job_validated" =
          some (.bool true)) →
      view.Tracks other { world with sagas.store := world.sagas.store.commit now statements } := by
    intro other written dispatched unrecorded validated
    exact ⟨unrecorded, validated, by rw [written]; exact tracks.unchanged, tracks.present,
      by rw [dispatched]; exact tracks.dispatched, tracks.only⟩
  have same : (memory.note (.saga (.commit sagaId label statements))).written = memory.written ∧
    (memory.note (.saga (.commit sagaId label statements))).dispatched = memory.dispatched ∧
    ((memory.note (.saga (.commit sagaId label statements))).recorded = false →
      memory.recorded = false ∧ ∀ index, label ≠ .step index) := by
    cases label with
    | step index => exact ⟨rfl, rfl, fun absurdity => by cases absurdity⟩
    | _ => exact ⟨rfl, rfl, fun unrecorded => ⟨unrecorded, fun _ => TxLabel.noConfusion⟩⟩
  obtain ⟨written, dispatched, recorded⟩ := same
  apply keeps _ written dispatched
  · intro unrecorded index finished
    obtain ⟨before, notStep⟩ := recorded unrecorded
    rcases allowed with plain | ⟨-, context, rfl⟩ | ⟨⟨step, same⟩, -⟩
    · exact tracks.unrecorded before index ((commit_plain now plain).2 index finished)
    · apply tracks.unrecorded before index
      unfold RecordedCompleted at finished ⊢
      rwa [SagaStore.commit, List.foldl_cons, List.foldl_nil, SagaStore.apply,
        SagaStore.save_steps] at finished
    · exact notStep step same
  · rintro ⟨index, finished⟩
    rcases allowed with plain | ⟨before, context, rfl⟩ | ⟨-, earlier, context, rfl, own, flag⟩
    · rw [(commit_plain now plain).1]
      exact tracks.validated ⟨index, (commit_plain now plain).2 index finished⟩
    · refine absurd ?_ (tracks.unrecorded before index)
      unfold RecordedCompleted at finished ⊢
      rwa [SagaStore.commit, List.foldl_cons, List.foldl_nil, SagaStore.apply,
        SagaStore.save_steps] at finished
    · rw [SagaStore.commit, List.foldl_append, List.foldl_cons, List.foldl_nil, SagaStore.apply,
        ← own, stored_metadata_save, has_flag_metadata flag]

/-- A call that leaves both saga tables as they are. -/
theorem tracks_of_store (tracks : view.Tracks memory world) {after : Sagas.World}
    (same : after.store = world.sagas.store) :
    view.Tracks memory { world with sagas := after } := by
  refine ⟨?_, ?_, tracks.unchanged, tracks.present, tracks.dispatched, tracks.only⟩
  · rw [same]
    exact tracks.unrecorded
  · rw [same]
    exact tracks.validated

/-- A step counts as recorded even if its commit fails. -/
theorem tracks_of_failed_commit (tracks : view.Tracks memory world) {label : TxLabel}
    {statements : List Statement} {sagaId : SagaId} :
    view.Tracks (memory.note (.saga (.commit sagaId label statements))) world := by
  cases label with
  | step index =>
      refine ⟨?_, tracks.validated, tracks.unchanged, tracks.present, tracks.dispatched,
        tracks.only⟩
      intro absurdity
      cases absurdity
  | _ => exact tracks

theorem commit_call_kept (fits : view.Fits moment) (tracks : view.Tracks memory world)
    {sagaId : SagaId} {label : TxLabel} {statements : List Statement}
    (allowed : view.protocol.allows memory (.saga (.commit sagaId label statements))) :
    view.protocol.answers (.saga (.commit sagaId label statements))
        (handleCall moment (.saga (.commit sagaId label statements)) world).1 ∧
      view.Tracks (memory.note (.saga (.commit sagaId label statements)))
        (handleCall moment (.saga (.commit sagaId label statements)) world).2 := by
  cases fault : (moment.saga.saga sagaId).fault label .commit with
  | none =>
      have answered : handleCall moment (.saga (.commit sagaId label statements)) world =
          (Except.ok (), { world with
            sagas.store := world.sagas.store.commit moment.saga.now statements }) := by
        unfold handleCall Sagas.handle
        simp only [fault]
        rfl
      rw [answered]
      exact ⟨fun _ _ => rfl, tracks_commit tracks allowed _ _⟩
  | some error =>
      have answered : handleCall moment (.saga (.commit sagaId label statements)) world =
          (Except.error error, world) := by
        unfold handleCall Sagas.handle
        simp only [fault]
        rfl
      rw [answered]
      constructor
      · rintro live rfl
        rw [(fits.quiet live).fault] at fault
        cases fault
      · exact tracks_of_failed_commit tracks

theorem find_steps_call_kept (fits : view.Fits moment) (tracks : view.Tracks memory world)
    {sagaId : SagaId} {load : Sagas.StepLoad}
    (allowed : view.protocol.allows memory (.saga (.findSteps sagaId load))) :
    view.protocol.answers (.saga (.findSteps sagaId load))
        (handleCall moment (.saga (.findSteps sagaId load)) world).1 ∧
      view.Tracks memory (handleCall moment (.saga (.findSteps sagaId load)) world).2 := by
  cases fault : (moment.saga.saga sagaId).loadFault load with
  | none =>
      have answered : handleCall moment (.saga (.findSteps sagaId load)) world =
          (Except.ok (world.sagas.store.findStepsBySagaId sagaId), world) := by
        unfold handleCall Sagas.handle
        simp only [fault]
        rfl
      rw [answered]
      refine ⟨?_, tracks⟩
      rintro rfl
      refine ⟨fun _ => ⟨_, rfl⟩, ?_⟩
      rintro rfl steps same index
      cases same
      rw [Bool.eq_false_iff, ne_eq, completed_at_iff]
      exact tracks.unrecorded allowed index
  | some error =>
      have answered : handleCall moment (.saga (.findSteps sagaId load)) world =
          (Except.error error, world) := by
        unfold handleCall Sagas.handle
        simp only [fault]
        rfl
      rw [answered]
      refine ⟨?_, tracks⟩
      rintro rfl
      constructor
      · intro live
        rw [(fits.quiet live).loadFault] at fault
        cases fault
      · intro _ steps same
        cases same

theorem saga_call_kept (fits : view.Fits moment) (tracks : view.Tracks memory world) (op : SagaOp)
    (allowed : view.protocol.allows memory (.saga op)) :
    view.protocol.answers (.saga op) (handleCall moment (.saga op) world).1 ∧
      view.Tracks (memory.note (.saga op)) (handleCall moment (.saga op) world).2 := by
  cases op with
  | admission sagaId =>
      refine ⟨?_, tracks_of_store tracks rfl⟩
      rintro live rfl
      exact (fits.quiet live).admission
  | txCall sagaId label txCall =>
      refine ⟨?_, tracks_of_store tracks rfl⟩
      rintro live rfl
      show Sagas.faultReply _ = _
      rw [(fits.quiet live).fault]
      rfl
  | commit sagaId label statements => exact commit_call_kept fits tracks allowed
  | findSteps sagaId load => exact find_steps_call_kept fits tracks allowed
  | elapsed sagaId read =>
      refine ⟨?_, tracks_of_store tracks rfl⟩
      cases read with
      | timeoutCheck index =>
          rintro live rfl
          exact (fits.quiet live).elapsed index
      | _ => exact trivial
  | newV4 => exact ⟨trivial, tracks_of_store tracks rfl⟩
  | now => exact ⟨trivial, tracks_of_store tracks rfl⟩
  | execute sagaId index context => exact ⟨trivial, tracks_of_store tracks rfl⟩
  | compensate sagaId index context => exact ⟨trivial, tracks_of_store tracks rfl⟩
  | findById sagaId => exact allowed.elim
  | markCompensating sagaId => exact allowed.elim
  | selectClaimable limit => exact allowed.elim
  | claimRow idText => exact allowed.elim

/-- The jobs and workers that a call of the view starts from. -/
theorem tracks_tables (fits : view.Fits moment) (tracks : view.Tracks memory world) :
    (memory.written = false → ∀ entry ∈ view.known,
      (moment.others world.tables).jobs.find view.jobId = some entry.1 ∧
        (moment.others world.tables).workers.find view.workerId = some entry.2) ∧
    (view.live → (∃ job, (moment.others world.tables).jobs.find view.jobId = some job) ∧
      ∃ worker, (moment.others world.tables).workers.find view.workerId = some worker) := by
  constructor
  · intro unwritten entry known
    rw [fits.alone (Option.ne_none_iff_exists'.mpr ⟨entry, known⟩)]
    exact tracks.unchanged unwritten entry known
  · intro live
    obtain ⟨job, worker, known, -⟩ := view.ready live
    rw [fits.alone (Option.ne_none_iff_exists'.mpr ⟨_, known⟩)]
    exact tracks.present live

theorem answer_quiet {Value : Type} {env : Execution.Env} {site : CallSite} {value : Value}
    {tables after : Tables} (clean : env.fault site = none) :
    (env.answer site value tables after).1 = .ok value := by
  unfold Execution.Env.answer
  rw [clean]

/-- A row that is stored stays stored. -/
theorem stored_after {env : Execution.Env} {op : Op} {tables : Tables} {jobId : JobId}
    {workerId : WorkerId} (registered : ∀ site other, op ≠ .unregister site other)
    (job : ∃ job, tables.jobs.find jobId = some job)
    (worker : ∃ worker, tables.workers.find workerId = some worker) :
    (∃ job, (Execution.handle env op tables).2.jobs.find jobId = some job) ∧
      ∃ worker, (Execution.handle env op tables).2.workers.find workerId = some worker := by
  obtain ⟨found, stored⟩ := job
  obtain ⟨known, listed⟩ := worker
  constructor
  · rcases handle_jobs_cases env op tables with same | ⟨site, saved, -, after⟩ |
      ⟨site, updated, state, -, after⟩
    · exact ⟨found, by rw [same, stored]⟩
    · rw [after]
      by_cases own : saved.id = jobId
      · exact ⟨saved, by rw [← own]; exact Tables.find_job_save tables saved⟩
      · exact ⟨found, (Table.find_upsert_other tables.jobs saved own).trans stored⟩
    · rw [after]
      unfold Tables.updateJobState
      rw [Table.find_update, stored]
      split_ifs
      · exact ⟨_, rfl⟩
      · exact ⟨found, rfl⟩
  · rcases handle_workers_cases env op tables with same | ⟨site, updated, state, -, after⟩ |
      ⟨site, updated, linked, -, after⟩ | ⟨site, updated, -, after⟩ | ⟨site, other, gone⟩
    · exact ⟨known, by rw [same, listed]⟩
    · rw [after, Tables.find_worker_update_state, listed]
      split_ifs
      · exact ⟨_, rfl⟩
      · exact ⟨known, rfl⟩
    · rw [after, Tables.find_worker_mark_busy, listed]
      split_ifs
      · exact ⟨_, rfl⟩
      · exact ⟨known, rfl⟩
    · rw [after, Tables.find_worker_release_from_job, listed]
      split_ifs
      · exact ⟨_, rfl⟩
      · exact ⟨known, rfl⟩
    · exact absurd gone (registered site other)

theorem repository_answers (fits : view.Fits moment) (tracks : view.Tracks memory world) (op : Op)
    (allowed : view.protocol.allows memory (.repository op)) :
    view.repositoryAnswers op
      (Execution.handle moment.repository op (moment.others world.tables)).1 := by
  obtain ⟨unchanged, present⟩ := tracks_tables fits tracks
  cases op with
  | findJob site jobId =>
      rintro rfl
      constructor
      · intro live
        obtain ⟨job, stored⟩ := (present live).1
        refine ⟨job, (answer_quiet ((fits.quiet live).repository site)).trans ?_⟩
        rw [stored]
      · intro early entry known found read
        rw [answer_ok read]
        exact (unchanged (allowed early) entry known).1
  | findWorker site workerId =>
      rintro rfl
      constructor
      · intro live
        obtain ⟨worker, stored⟩ := (present live).2
        refine ⟨worker, (answer_quiet ((fits.quiet live).repository site)).trans ?_⟩
        rw [stored]
      · intro early entry known found read
        rw [answer_ok read]
        exact (unchanged (allowed.1 early) entry known).2
  | updateJob site job =>
      intro live
      exact answer_quiet ((fits.quiet live).repository site)
  | updateWorkerState site workerId state =>
      intro live
      exact answer_quiet ((fits.quiet live).repository site)
  | updateJobState | findWorkers | getByJobId | markBusy | releaseFromJob | unregister
  | findAvailable | findJobsByState | sendRunJob | publishJobCancelled | insertJobStarted | now
  | newV4 => exact trivial

/-- The first write to the tables is remembered. -/
theorem unwritten_before {op : Op} (unwritten : (memory.note (.repository op)).written = false)
    (env : Execution.Env) (tables : Tables) (stays : ∀ site other, op ≠ .unregister site other) :
    memory.written = false ∧ (Execution.handle env op tables).2.jobs = tables.jobs ∧
      (Execution.handle env op tables).2.workers = tables.workers := by
  refine ⟨?_, ?_, ?_⟩
  · cases op with
    | updateJob | updateJobState | updateWorkerState | markBusy | releaseFromJob => cases unwritten
    | _ => exact unwritten
  · rcases handle_jobs_cases env op tables with same | ⟨site, saved, rfl, -⟩ |
      ⟨site, updated, state, rfl, -⟩
    · exact same
    · cases unwritten
    · cases unwritten
  · rcases handle_workers_cases env op tables with same | ⟨site, updated, state, rfl, -⟩ |
      ⟨site, updated, linked, rfl, -⟩ | ⟨site, updated, rfl, -⟩ | ⟨site, other, gone⟩
    · exact same
    · cases unwritten
    · cases unwritten
    · cases unwritten
    · exact absurd gone (stays site other)

theorem repository_call_kept (fits : view.Fits moment) (tracks : view.Tracks memory world) (op : Op)
    (allowed : view.protocol.allows memory (.repository op)) :
    view.Tracks (memory.note (.repository op)) (handleCall moment (.repository op) world).2 := by
  obtain ⟨unchanged, present⟩ := tracks_tables fits tracks
  have stays : ∀ site other, op ≠ .unregister site other := by
    rintro site other rfl
    exact allowed
  have recorded : (memory.note (.repository op)).recorded = memory.recorded := by
    cases op <;> rfl
  refine ⟨?_, tracks.validated, ?_, ?_, ?_, ?_⟩
  · rw [recorded]
    exact tracks.unrecorded
  · intro unwritten entry known
    obtain ⟨before, jobs, workers⟩ := unwritten_before unwritten moment.repository
      (moment.others world.tables) stays
    obtain ⟨job, worker⟩ := unchanged before entry known
    exact ⟨(congrArg (fun table => table.find view.jobId) jobs).trans job,
      (congrArg (fun table => table.find view.workerId) workers).trans worker⟩
  · intro live
    exact stored_after stays (present live).1 (present live).2
  · intro dispatched
    show view.workerId ∈ world.executeJobWorkers ++ lookedUpWorker op
    cases op with
    | findWorker site workerId =>
        rcases Bool.or_eq_true_iff.mp dispatched with before | now
        · exact List.mem_append_left _ (tracks.dispatched before)
        · have looks := of_decide_eq_true now
          unfold lookedUpWorker
          dsimp only
          rw [if_pos looks, (allowed.2 looks).1]
          exact List.mem_append_right _ List.mem_cons_self
    | _ => exact List.mem_append_left _ (tracks.dispatched dispatched)
  · intro workerId member
    rcases List.mem_append.mp member with before | now
    · exact tracks.only workerId before
    · cases op with
      | findWorker site other =>
          unfold lookedUpWorker at now
          dsimp only at now
          split_ifs at now with looks
          · rw [List.mem_singleton.mp now]
            exact allowed.2 looks
          · cases now
      | _ => cases now

/-- Every call that the protocol allows. -/
theorem call_kept (fits : view.Fits moment) (memory : Progress) (call : Call) (world : World)
    (tracks : view.Tracks memory world) (allowed : view.protocol.allows memory call) :
    view.protocol.answers call (handleCall moment call world).1 ∧
      view.Tracks (memory.note call) (handleCall moment call world).2 := by
  cases call with
  | saga op => exact saga_call_kept fits tracks op allowed
  | repository op =>
      exact ⟨repository_answers fits tracks op allowed, repository_call_kept fits tracks op allowed⟩
  | stepTimer sagaId index =>
      refine ⟨?_, tracks⟩
      rintro live rfl
      exact (fits.quiet live).stepTimer index

end Kept

end HodeiJobs.Dispatch
