import HodeiJobs.Library.Fallible
import HodeiJobs.Persistence.RoundTrip
import HodeiJobs.Persistence.WorkerRegistry

/-!
# Saving a worker and getting it again

`from_database` counts no jobs and knows of no completed one. A worker that has completed its
job is therefore none of those whose time after completion is over, once it comes from the table.
-/

namespace HodeiJobs.Persistence

open HodeiJobs.Library HodeiJobs.Shared
open HodeiJobs.Sagas (DateTime)
open HodeiJobs.Execution (JobId WorkerId)
open HodeiJobs.Dispatch (ProviderId)
open HodeiJobs.Jobs (DomainError)

/-! ## Readers -/

/-- The fields that `find` looks at. -/
structure WorkerFilter where
  states : Option (List WorkerState)
  providerId : Option ProviderId
  providerType : Option Workers.ProviderType

namespace WorkerFilter

def new : WorkerFilter := ⟨none, none, none⟩

/-- An empty list of states is no condition. -/
def selects (filter : WorkerFilter) (row : WorkerRow) : Bool :=
  filter.states.all (fun states =>
      states.isEmpty || (states.map Workers.stateText).contains row.state) &&
    filter.providerId.all (fun providerId => row.providerId == providerId) &&
    filter.providerType.all fun providerType => row.providerType == providerType.display

end WorkerFilter

namespace PostgresWorkerRegistry

variable (serde : WorkerSerde) (table : WorkerTable)

def get (now : DateTime) (workerId : WorkerId) : Except DomainError (Option (Worker serde)) :=
  match table.find workerId with
  | some row => (mapRowToWorker serde now row).map some
  | none => .ok none

/-- `ORDER BY created_at DESC`. -/
def newestFirst (rows : List WorkerRow) : List WorkerRow :=
  rows.mergeSort fun first second => second.createdAt ≤ first.createdAt

def find (clock : WorkerId → DateTime) (filter : WorkerFilter) :
    Except DomainError (List (Worker serde)) :=
  (newestFirst (table.rows.filter filter.selects)).mapM fun row =>
    mapRowToWorker serde (clock row.id) row

/-- The workers of which a question is true at the time when it is asked. -/
def findWhere (question : Workers.Worker → DateTime → Bool) (clock asked : WorkerId → DateTime) :
    Except DomainError (List (Worker serde)) := do
  let allWorkers ← find serde table clock .new
  return allWorkers.filter fun worker => question worker.toWorker (asked worker.id)

def findIdleTimedOut := findWhere serde table Workers.Worker.isIdleTimeout

def findLifetimeExceeded := findWhere serde table Workers.Worker.isLifetimeExceeded

def findTtlAfterCompletionExceeded :=
  findWhere serde table Workers.Worker.isTtlAfterCompletionExceeded

end PostgresWorkerRegistry

/-! ## Workers of the aggregate -/

variable {serde : WorkerSerde}

/-- The two constructors and the mutators. -/
inductive Reachable : Worker serde → Prop where
  | new (handle : WorkerHandle) (spec : WorkerSpec serde.SpecRest) (now : DateTime) :
      Reachable (.new handle spec now)
  | fromDatabase (handle : WorkerHandle) (spec : WorkerSpec serde.SpecRest) (state : WorkerState)
      (currentJobId : Option JobId) (lastHeartbeat : Option DateTime)
      (createdAt updatedAt now : DateTime) :
      Reachable (.fromDatabase handle spec state currentJobId lastHeartbeat createdAt updatedAt now)
  | step {worker : Worker serde} (mutator : Workers.Mutator) (reached : Reachable worker) :
      Reachable (worker.step mutator)

/-- What the columns can say about a worker: it goes by the id of its handle, and it has
executed a job only if it has completed one. -/
structure Accounted (worker : Workers.Worker) : Prop where
  identity : worker.id = worker.handle.workerId
  unused : worker.jobCompletedAt = none → worker.jobsExecuted = 0

/-! ## The claim and the condition -/

section

open PostgresWorkerRegistry (savedRow findTtlAfterCompletionExceeded)

variable (database : WorkerDatabase) (table : WorkerTable) (worker : Worker serde)

def saved : WorkerTable := (PostgresWorkerRegistry.save database table worker).2

def gotBack (clock : DateTime) : Except DomainError (Option (Worker serde)) :=
  PostgresWorkerRegistry.get serde (saved database table worker) clock worker.id

/-- The saved worker comes back as it was, the timeouts answer as before, and it is found
once its time after completion is over. -/
structure Persists : Prop where
  saves : (PostgresWorkerRegistry.save database table worker).1 = .ok ()
  found : ∀ clock, gotBack database table worker clock = .ok (some worker)
  answers : ∀ clock restored, gotBack database table worker clock = .ok (some restored) → ∀ now,
      restored.isIdleTimeout now = worker.isIdleTimeout now ∧
        restored.isLifetimeExceeded now = worker.isLifetimeExceeded now ∧
        restored.isTtlAfterCompletionExceeded now = worker.isTtlAfterCompletionExceeded now
  collected : ∀ clock asked, worker.isTtlAfterCompletionExceeded (asked worker.id) = true →
    ∃ workers, findTtlAfterCompletionExceeded serde (saved database table worker) clock asked =
      .ok workers ∧ worker ∈ workers

/-- A row that is there keeps the time when it was created. -/
def storedCreatedAt : DateTime :=
  (table.find worker.id).elim (database.columnTime worker.createdAt) WorkerRow.createdAt

structure FitsColumns : Prop where
  unfinished : worker.jobCompletedAt = none
  heartbeat : database.columnTime worker.lastHeartbeat = worker.lastHeartbeat
  created : storedCreatedAt database table worker = worker.createdAt
  updated : database.columnTime worker.updatedAt = worker.updatedAt
  accepted : ∀ row, savedRow database worker = .ok row →
    database.refusal table (table.insertOrMerge row WorkerTable.saveAgain) (some row) = none

/-- What the columns give back. -/
def restored : Worker serde :=
  { worker with
    jobsExecuted := 0
    jobCompletedAt := none
    lastHeartbeat := database.columnTime worker.lastHeartbeat
    createdAt := storedCreatedAt database table worker
    updatedAt := database.columnTime worker.updatedAt }

end

/-! ## What the mutators keep -/

theorem transition_keeps_handle {worker moved : Workers.Worker} {newState : WorkerState}
    {now : DateTime} (passed : worker.transition newState now = .ok moved) :
    moved.id = worker.id ∧ moved.handle = worker.handle := by
  rw [(Workers.Worker.transition_ok passed).2]
  exact ⟨rfl, rfl⟩

theorem mapped_keeps_handle {worker next : Workers.Worker} {newState : WorkerState}
    {now : DateTime} {change : Workers.Worker → Workers.Worker}
    (done : (worker.transition newState now).map change = .ok next)
    (keeps : ∀ moved, (change moved).id = moved.id ∧ (change moved).handle = moved.handle) :
    next.id = worker.id ∧ next.handle = worker.handle := by
  rcases Workers.Worker.map_ok done with ⟨moved, passed, same⟩
  have kept := transition_keeps_handle passed
  rw [same, (keeps moved).1, (keeps moved).2]
  exact kept

theorem attempt_keeps_handle {worker next : Workers.Worker} {mutator : Workers.Mutator}
    (done : worker.attempt mutator = .ok next) :
    next.id = worker.id ∧ next.handle = worker.handle := by
  cases mutator with
  | markReady now =>
      simp only [Workers.Worker.attempt] at done
      split_ifs at done with ready
      · cases done
        exact ⟨rfl, rfl⟩
      · exact mapped_keeps_handle done fun _ => ⟨rfl, rfl⟩
  | assignJob jobId now =>
      simp only [Workers.Worker.attempt] at done
      exact mapped_keeps_handle done fun _ => ⟨rfl, rfl⟩
  | completeJob now =>
      simp only [Workers.Worker.attempt] at done
      split_ifs at done with assigned
      exact mapped_keeps_handle done fun _ => ⟨rfl, rfl⟩
  | markTerminating now =>
      simp only [Workers.Worker.attempt] at done
      split_ifs at done with terminated
      · cases done
        exact ⟨rfl, rfl⟩
      · exact transition_keeps_handle done
  | markFailed now => exact transition_keeps_handle done
  | updateHeartbeat beat now =>
      cases done
      exact ⟨rfl, rfl⟩

/-- Only a completed job is counted. -/
theorem unused_change {worker next : Workers.Worker} {mutator : Workers.Mutator}
    (unused : worker.jobCompletedAt = none → worker.jobsExecuted = 0)
    (change : Workers.Worker.Change worker mutator next) :
    next.jobCompletedAt = none → next.jobsExecuted = 0 := by
  cases change with
  | kept _ _ _ executed completed =>
      rw [executed, completed]
      exact unused
  | readied _ _ _ _ executed completed =>
      rw [executed, completed]
      exact unused
  | assigned _ _ _ _ executed completed =>
      rw [executed, completed]
      exact unused
  | completed _ _ _ _ _ completed =>
      intro unfinished
      rw [unfinished] at completed
      cases completed
  | ended _ _ _ _ executed completed =>
      rw [executed, completed]
      exact unused

theorem accounted_step {worker : Workers.Worker} (mutator : Workers.Mutator)
    (accounted : Accounted worker) : Accounted (worker.step mutator) := by
  cases attempted : worker.attempt mutator with
  | error problem => rwa [Workers.Worker.step_refused attempted]
  | ok next =>
      have kept := attempt_keeps_handle attempted
      rw [Workers.Worker.step_done attempted]
      constructor
      · rw [kept.1, kept.2]
        exact accounted.identity
      · exact unused_change accounted.unused (Workers.Worker.change_of_attempt attempted)

theorem accounted_of_reachable {worker : Worker serde} (reachable : Reachable worker) :
    Accounted worker.toWorker := by
  induction reachable with
  | new handle spec now => exact ⟨rfl, fun _ => rfl⟩
  | fromDatabase handle spec state currentJobId lastHeartbeat createdAt updatedAt now =>
      exact ⟨rfl, fun _ => rfl⟩
  | step mutator reached ih => exact accounted_step mutator ih

/-! ## What comes back -/

section

open PostgresWorkerRegistry

variable {database : WorkerDatabase} {table : WorkerTable} {worker : Worker serde}

/-- `serde_json` reads back the handle and the specification. -/
structure JsonRoundTrips (worker : Worker serde) : Prop where
  handle : ReadsBack serde.handleToValue serde.handleFromValue worker.fullHandle
  spec : ReadsBack serde.specToValue serde.specFromValue worker.fullSpec

/-- A row says what a worker is, but for the time when it was created. -/
structure Describes (database : WorkerDatabase) (worker : Worker serde) (row : WorkerRow) :
    Prop where
  id : row.id = worker.handle.workerId
  handle : serde.handleFromValue row.handle = .ok worker.fullHandle
  spec : serde.specFromValue row.spec = .ok worker.fullSpec
  state : row.state = Workers.stateText worker.state
  currentJobId : row.currentJobId = worker.currentJobId
  lastHeartbeat : row.lastHeartbeat = some (database.columnTime worker.lastHeartbeat)
  updatedAt : row.updatedAt = database.columnTime worker.updatedAt

theorem saved_row_describes (database : WorkerDatabase) (roundTrips : JsonRoundTrips worker) :
    ∃ row, savedRow database worker = .ok row ∧ Describes database worker row ∧
      row.createdAt = database.columnTime worker.createdAt := by
  rcases serialize_reads_back "worker handle" roundTrips.handle with
    ⟨handle, handleWritten, -, handleRead⟩
  rcases serialize_reads_back "worker spec" roundTrips.spec with ⟨spec, specWritten, -, specRead⟩
  unfold savedRow
  rw [handleWritten, specWritten]
  exact ⟨_, rfl, ⟨rfl, handleRead, specRead, rfl, rfl, rfl, rfl⟩, rfl⟩

theorem Describes.save_again {row existing : WorkerRow} (describes : Describes database worker row)
    (sameId : existing.id = row.id) :
    Describes database worker (WorkerTable.saveAgain existing row) where
  id := sameId.trans describes.id
  handle := describes.handle
  spec := describes.spec
  state := describes.state
  currentJobId := describes.currentJobId
  lastHeartbeat := describes.lastHeartbeat
  updatedAt := describes.updatedAt

theorem Describes.map_row {row : WorkerRow} (describes : Describes database worker row)
    (identity : worker.id = worker.handle.workerId)
    (created : row.createdAt = storedCreatedAt database table worker) (now : DateTime) :
    mapRowToWorker serde now row = .ok (restored database table worker) := by
  have read : mapRowToWorker serde now row =
      .ok (.fromDatabase worker.fullHandle worker.fullSpec worker.state row.currentJobId
        row.lastHeartbeat row.createdAt row.updatedAt now) := by
    unfold mapRowToWorker
    rw [describes.handle, describes.spec, describes.state, worker_state_of_state_text]
    rfl
  rw [read, describes.currentJobId, describes.lastHeartbeat, created, describes.updatedAt]
  unfold restored
  rw [identity]
  rfl

/-- The row under the id of a worker, once the database has accepted it. -/
theorem find_saved (table : WorkerTable) {row : WorkerRow}
    (describes : Describes database worker row)
    (created : row.createdAt = database.columnTime worker.createdAt)
    (identity : worker.id = worker.handle.workerId) :
    ∃ stored, (table.insertOrMerge row WorkerTable.saveAgain).find worker.id = some stored ∧
      Describes database worker stored ∧
      stored.createdAt = storedCreatedAt database table worker := by
  have sameId : row.id = worker.id := describes.id.trans identity.symm
  have found := Table.find_insert_or_merge_self table row WorkerTable.saveAgain fun _ _ => rfl
  rw [sameId] at found
  unfold storedCreatedAt
  cases before : table.find worker.id with
  | none =>
      rw [before] at found
      exact ⟨row, found, describes, created⟩
  | some existing =>
      rw [before] at found
      have sameKey : existing.id = row.id := (Table.find_some_key before).trans sameId.symm
      exact ⟨_, found, describes.save_again sameKey, rfl⟩

theorem save_bound {row : WorkerRow} (bound : savedRow database worker = .ok row)
    (table : WorkerTable) :
    PostgresWorkerRegistry.save database table worker =
      ((saving database worker).answer "" (autocommit (saveStatement database row) table).1,
        (autocommit (saveStatement database row) table).2) := by
  apply RegistryQuery.on_pool_bound
  unfold saving
  rw [bound]
  rfl

/-- What a save that the database accepts returns, and what `get` finds after it. -/
theorem get_after_save (roundTrips : JsonRoundTrips worker)
    (identity : worker.id = worker.handle.workerId)
    (accepted : ∀ row, savedRow database worker = .ok row →
      database.refusal table (table.insertOrMerge row WorkerTable.saveAgain) (some row) = none)
    (clock : DateTime) :
    (PostgresWorkerRegistry.save database table worker).1 = .ok () ∧
      gotBack database table worker clock = .ok (some (restored database table worker)) := by
  rcases saved_row_describes database roundTrips with ⟨row, bound, describes, created⟩
  rcases find_saved table describes created identity with ⟨stored, found, again, kept⟩
  have executed : PostgresWorkerRegistry.save database table worker =
      (.ok (), table.insertOrMerge row WorkerTable.saveAgain) := by
    rw [save_bound bound, saveStatement, write_accepted (accepted row bound)]
    rfl
  unfold gotBack saved
  rw [executed]
  constructor
  · rfl
  · unfold PostgresWorkerRegistry.get
    rw [found]
    dsimp only
    rw [again.map_row identity kept]
    rfl

/-- A refused save returns an error. -/
theorem accepted_of_saves
    (saves : (PostgresWorkerRegistry.save database table worker).1 = .ok ()) (row : WorkerRow)
    (bound : savedRow database worker = .ok row) :
    database.refusal table (table.insertOrMerge row WorkerTable.saveAgain) (some row) = none := by
  cases refused : database.refusal table (table.insertOrMerge row WorkerTable.saveAgain)
      (some row) with
  | none => rfl
  | some problem =>
      rw [save_bound bound, saveStatement, write_refused refused] at saves
      cases saves

theorem restored_eq_iff (accounted : Accounted worker.toWorker) :
    restored database table worker = worker ↔
      worker.jobCompletedAt = none ∧
        database.columnTime worker.lastHeartbeat = worker.lastHeartbeat ∧
        storedCreatedAt database table worker = worker.createdAt ∧
        database.columnTime worker.updatedAt = worker.updatedAt := by
  unfold restored
  constructor
  · intro same
    have unfinished := congrArg (fun worker => worker.jobCompletedAt) same
    have heartbeat := congrArg (fun worker => worker.lastHeartbeat) same
    have created := congrArg (fun worker => worker.createdAt) same
    have updated := congrArg (fun worker => worker.updatedAt) same
    exact ⟨unfinished.symm, heartbeat, created, updated⟩
  · intro ⟨unfinished, heartbeat, created, updated⟩
    rw [heartbeat, created, updated, ← accounted.unused unfinished, ← unfinished]

theorem unfinished_of_map_row {row : WorkerRow} {now : DateTime}
    (read : mapRowToWorker serde now row = .ok worker) : worker.jobCompletedAt = none := by
  unfold mapRowToWorker at read
  rcases bind_eq_ok.mp read with ⟨handle, -, read⟩
  rcases bind_eq_ok.mp read with ⟨spec, -, read⟩
  cases known : workerStateOf row.state with
  | none =>
      rw [known] at read
      cases read
  | some state =>
      rw [known] at read
      cases read
      rfl

theorem ttl_not_exceeded_of_unfinished {worker : Workers.Worker}
    (unfinished : worker.jobCompletedAt = none) (now : DateTime) :
    worker.isTtlAfterCompletionExceeded now = false := by
  unfold Workers.Worker.isTtlAfterCompletionExceeded
  rw [unfinished]

/-- Whatever has been saved, no worker is found whose time after completion is over. -/
theorem nothing_collected (table : WorkerTable) (clock asked : WorkerId → DateTime)
    {workers : List (Worker serde)}
    (collected : findTtlAfterCompletionExceeded serde table clock asked = .ok workers) :
    workers = [] := by
  unfold findTtlAfterCompletionExceeded findWhere at collected
  rcases bind_eq_ok.mp collected with ⟨allWorkers, read, kept⟩
  cases kept
  apply List.filter_eq_nil_iff.mpr
  intro worker member
  rcases (mem_map_m read worker).mp member with ⟨row, -, mapped⟩
  rw [ttl_not_exceeded_of_unfinished (unfinished_of_map_row mapped)]
  exact Bool.false_ne_true

/-- A worker of the aggregate survives the table exactly if it has completed no job, the
database takes it and gives its times back, and no older row has its id. -/
theorem persists_iff (database : WorkerDatabase) (table : WorkerTable)
    (reachable : Reachable worker) (roundTrips : JsonRoundTrips worker) :
    Persists database table worker ↔ FitsColumns database table worker := by
  have accounted := accounted_of_reachable reachable
  constructor
  · intro persists
    have accepted := accepted_of_saves persists.saves
    have read := (get_after_save roundTrips accounted.identity accepted 0).2
    rw [persists.found 0, Except.ok.injEq, Option.some.injEq] at read
    have fits := (restored_eq_iff accounted).mp read.symm
    exact ⟨fits.1, fits.2.1, fits.2.2.1, fits.2.2.2, accepted⟩
  · intro fits
    have same := (restored_eq_iff accounted).mpr
      ⟨fits.unfinished, fits.heartbeat, fits.created, fits.updated⟩
    have read := get_after_save roundTrips accounted.identity fits.accepted
    rw [same] at read
    constructor
    · exact (read 0).1
    · exact fun clock => (read clock).2
    · intro clock other found now
      rw [(read clock).2, Except.ok.injEq, Option.some.injEq] at found
      rw [found]
      exact ⟨rfl, rfl, rfl⟩
    · intro clock asked exceeded
      rw [ttl_not_exceeded_of_unfinished fits.unfinished] at exceeded
      cases exceeded

/-! ## One worker -/

def noRows : WorkerTable := ⟨[], List.nodup_nil⟩

def freshWorker : Worker (plainWorkerSerde dockerHandle defaultSpec) :=
  .new dockerHandle defaultSpec 0

theorem fresh_worker_reachable : Reachable freshWorker :=
  @Reachable.new (plainWorkerSerde dockerHandle defaultSpec) dockerHandle defaultSpec 0

theorem fresh_worker_round_trips : JsonRoundTrips freshWorker :=
  ⟨⟨.null, rfl, rfl⟩, ⟨.null, rfl, rfl⟩⟩

theorem fresh_worker_persists :
    Persists plainDatabase noRows freshWorker ↔ FitsColumns plainDatabase noRows freshWorker :=
  persists_iff plainDatabase noRows fresh_worker_reachable fresh_worker_round_trips

/-- It has completed its job, and is to be destroyed at once. -/
def finishedWorker : Worker (plainWorkerSerde dockerHandle defaultSpec) :=
  ((freshWorker.step (.markReady 1)).step (.assignJob ⟨7⟩ 2)).step (.completeJob 3)

/-- It is not among those that are to be destroyed. -/
theorem finished_worker_not_collected :
    Reachable finishedWorker ∧ JsonRoundTrips finishedWorker ∧
      ¬Persists plainDatabase noRows finishedWorker := by
  have reached : Reachable finishedWorker :=
    ((fresh_worker_reachable.step (.markReady 1)).step (.assignJob ⟨7⟩ 2)).step (.completeJob 3)
  apply And.intro reached
  apply And.intro ⟨⟨.null, rfl, rfl⟩, ⟨.null, rfl, rfl⟩⟩
  intro persists
  have exceeded : finishedWorker.isTtlAfterCompletionExceeded 4 = true := rfl
  rcases persists.collected (fun _ => 0) (fun _ => 4) exceeded with ⟨workers, collected, member⟩
  rw [nothing_collected _ _ _ collected] at member
  cases member

end

end HodeiJobs.Persistence
