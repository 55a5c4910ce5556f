import HodeiJobs.Commands.OutboxRelay
import HodeiJobs.Persistence.WorkerTable

/-!
# The worker registry, with and without a transaction

Six calls of `PostgresWorkerRegistry` exist twice. Both forms of a call bind the same values
to the same statement, but for the state in which a worker is released.
-/

namespace HodeiJobs.Persistence

open HodeiJobs.Commands (zerosText)
open HodeiJobs.Library HodeiJobs.Shared
open HodeiJobs.Sagas (DateTime)
open HodeiJobs.Execution (JobId UuidText WorkerId)
open HodeiJobs.Jobs (DomainError)

/-- `INSERT … ON CONFLICT (id) DO UPDATE` of a row, unless its values cannot be bound. -/
def mergeBuilt (built : Except DomainError WorkerRow) (merge : WorkerRow → WorkerRow → WorkerRow)
    (table : WorkerTable) : WorkerTable :=
  match built with
  | .ok row => table.insertOrMerge row merge
  | .error _ => table

/-! ## One query -/

/-- What a call binds, what it was about to do, and what it makes of the answer. -/
structure RegistryQuery (Value Result : Type) where
  bound : Except DomainError (SqlStatement WorkerTable Value)
  doing : String
  decode : Value → Except DomainError Result

namespace RegistryQuery

variable {Value Result : Type}

def answer (query : RegistryQuery Value Result) (within : String)
    (answered : Except String Value) : Except DomainError Result :=
  (answered.mapError fun problem =>
    .infrastructureError ("Failed to " ++ query.doing ++ within ++ ": " ++ problem)) >>= query.decode

/-- `execute(&self.pool)` and `fetch_all(&self.pool)`. -/
def onPool (query : RegistryQuery Value Result) (table : WorkerTable) :
    Except DomainError Result × WorkerTable :=
  match query.bound with
  | .error problem => (.error problem, table)
  | .ok statement =>
      let (answered, after) := autocommit statement table
      (query.answer "" answered, after)

/-- `execute(&mut **tx)` and `fetch_all(&mut **tx)`. -/
def inTransaction (query : RegistryQuery Value Result) (tx : Transaction WorkerTable) :
    Except DomainError Result × Transaction WorkerTable :=
  match query.bound with
  | .error problem => (.error problem, tx)
  | .ok statement =>
      let (answered, after) := tx.execute statement
      (query.answer " in transaction" answered, after)

theorem on_pool_bound {query : RegistryQuery Value Result}
    {statement : SqlStatement WorkerTable Value} (bound : query.bound = .ok statement)
    (table : WorkerTable) :
    query.onPool table =
      (query.answer "" (autocommit statement table).1, (autocommit statement table).2) := by
  unfold onPool
  rw [bound]

theorem answer_to_option (query : RegistryQuery Value Result) (within other : String)
    (answered : Except String Value) :
    (query.answer within answered).toOption = (query.answer other answered).toOption := by
  cases answered with
  | error problem => rfl
  | ok value => rfl

/-- A query that is committed on its own returns and leaves what it does on the pool. -/
theorem commits_as_on_pool (query : RegistryQuery Value Result) (table : WorkerTable) :
    (query.inTransaction (.begin table)).1.toOption = (query.onPool table).1.toOption ∧
      (query.inTransaction (.begin table)).2.commit = (query.onPool table).2 := by
  unfold inTransaction onPool
  cases query.bound with
  | error problem => exact ⟨rfl, rfl⟩
  | ok statement =>
      have executed := Transaction.execute_begin statement table
      constructor
      · dsimp only
        rw [executed.1]
        apply answer_to_option
      · exact executed.2

/-- A write that does not abort its transaction was made. -/
theorem in_transaction_write (query : RegistryQuery Unit Result) {database : WorkerDatabase}
    {proposed : Option WorkerRow} {change : WorkerTable → WorkerTable}
    (bound : query.bound = .ok (write database proposed change)) {tx : Transaction WorkerTable}
    (running : (query.inTransaction tx).2.aborted = false) :
    (query.inTransaction tx).2 = ⟨tx.start, change tx.current, false⟩ := by
  unfold inTransaction at running ⊢
  rw [bound] at running ⊢
  dsimp only at running ⊢
  have before := Transaction.running_of_execute _ running
  unfold Transaction.execute write at running ⊢
  rw [before] at running ⊢
  cases refused : database.refusal tx.current (change tx.current) proposed with
  | some problem =>
      rw [refused] at running
      cases running
  | none => rfl

/-- The same of a write of a row, which may not be built. -/
theorem in_transaction_row (query : RegistryQuery Unit Result) {database : WorkerDatabase}
    (built : Except DomainError WorkerRow) (merge : WorkerRow → WorkerRow → WorkerRow)
    (bound : query.bound = built.map fun row =>
      write database (some row) fun table => table.insertOrMerge row merge)
    {tx : Transaction WorkerTable} (running : (query.inTransaction tx).2.aborted = false) :
    (query.inTransaction tx).2 = ⟨tx.start, mergeBuilt built merge tx.current, false⟩ := by
  cases built with
  | ok row => exact query.in_transaction_write bound running
  | error problem =>
      have unbound : (query.inTransaction tx).2 = tx := by
        unfold inTransaction
        rw [show query.bound = .error problem from bound]
      rw [unbound] at running ⊢
      rw [← running]
      rfl

theorem in_transaction_running (query : RegistryQuery Value Result) {tx : Transaction WorkerTable}
    (running : (query.inTransaction tx).2.aborted = false) : tx.aborted = false := by
  unfold inTransaction at running
  cases bound : query.bound with
  | error problem =>
      rw [bound] at running
      exact running
  | ok statement =>
      rw [bound] at running
      exact Transaction.running_of_execute statement running

end RegistryQuery

/-! ## Calls -/

namespace PostgresWorkerRegistry

section

variable {serde : WorkerSerde} (database : WorkerDatabase) (uuids : UuidText) (now : DateTime)

/-- `hodei-worker-` and the first eight characters of the id. -/
def workerName (workerId : WorkerId) : String :=
  "hodei-worker-" ++ String.ofList ((uuids.display workerId.uuid).toList.take 8)

/-- The row that `register` binds, with the defaults of the columns it does not list. -/
def registeredRow (handle : WorkerHandle) (spec : WorkerSpec serde.SpecRest) (jobId : JobId) :
    Except DomainError WorkerRow := do
  let specValue ← serialize "worker spec" (serde.specToValue spec)
  let handleValue ← serialize "worker handle" (serde.handleToValue handle)
  return {
    id := handle.workerId
    name := some (workerName uuids handle.workerId)
    providerId := handle.rest.providerId
    providerType := handle.providerType.display
    providerResourceId := handle.rest.providerResourceId
    state := Workers.stateText .creating
    spec := specValue
    handle := handleValue
    currentJobId := some jobId
    lastHeartbeat := database.defaultLastHeartbeat now
    createdAt := database.defaultCreatedAt now
    updatedAt := database.defaultUpdatedAt now }

/-- The row that `save` binds. -/
def savedRow (worker : Worker serde) : Except DomainError WorkerRow := do
  let specValue ← serialize "worker spec" (serde.specToValue worker.fullSpec)
  let handleValue ← serialize "worker handle" (serde.handleToValue worker.fullHandle)
  return {
    id := worker.handle.workerId
    name := database.defaultName
    providerId := worker.handleRest.providerId
    providerType := worker.handle.providerType.display
    providerResourceId := worker.handleRest.providerResourceId
    state := Workers.stateText worker.state
    spec := specValue
    handle := handleValue
    currentJobId := worker.currentJobId
    lastHeartbeat := some (database.columnTime worker.lastHeartbeat)
    createdAt := database.columnTime worker.createdAt
    updatedAt := database.columnTime worker.updatedAt }

def saveStatement (row : WorkerRow) : SqlStatement WorkerTable Unit :=
  write database (some row) fun table => table.insertOrMerge row WorkerTable.saveAgain

/-- `registeredAt` is the time that `Worker::new` reads. -/
def registering (registeredAt : DateTime) (handle : WorkerHandle)
    (spec : WorkerSpec serde.SpecRest) (jobId : JobId) : RegistryQuery Unit (Worker serde) where
  bound := (registeredRow database uuids now handle spec jobId).map fun row =>
    write database (some row) fun table => table.insertOrMerge row (WorkerTable.registerAgain now)
  doing := "register worker"
  decode _ := .ok (.new handle spec registeredAt)

def saving (worker : Worker serde) : RegistryQuery Unit Unit where
  bound := (savedRow database worker).map (saveStatement database)
  doing := "save worker"
  decode := .ok

def updatingState (workerId : WorkerId) (state : WorkerState) : RegistryQuery Unit Unit where
  bound := .ok (write database none fun table => table.setState now state workerId)
  doing := "update worker state"
  decode := .ok

def releasing (released : WorkerState) (workerId : WorkerId) : RegistryQuery Unit Unit where
  bound := .ok (write database none fun table => table.release now released workerId)
  doing := "release worker from job"
  decode := .ok

def unregistering (workerId : WorkerId) : RegistryQuery Unit Unit where
  bound := .ok (write database none fun table => table.delete workerId)
  doing := "unregister worker"
  decode := .ok

/-- `clock` is what the clock shows when the row of a worker is mapped. -/
def findingAvailable (serde : WorkerSerde) (clock : WorkerId → DateTime) :
    RegistryQuery (List WorkerRow) (List (Worker serde)) where
  bound := .ok fun table => .ok (table.available, table)
  doing := "find available workers"
  decode rows := rows.mapM fun row => mapRowToWorker serde (clock row.id) row

end

/-! ### On the pool -/

section

variable {serde : WorkerSerde} (database : WorkerDatabase) (uuids : UuidText) (now : DateTime)
  (table : WorkerTable)

def register (registeredAt : DateTime) (handle : WorkerHandle)
    (spec : WorkerSpec serde.SpecRest) (jobId : JobId) :=
  (registering database uuids now registeredAt handle spec jobId).onPool table

def save (worker : Worker serde) := (saving database worker).onPool table

def updateState (workerId : WorkerId) (state : WorkerState) :=
  (updatingState database now workerId state).onPool table

/-- A worker ends with its job. -/
def releaseFromJob (workerId : WorkerId) :=
  (releasing database now .terminated workerId).onPool table

def unregister (workerId : WorkerId) := (unregistering database workerId).onPool table

def findAvailable (serde : WorkerSerde) (clock : WorkerId → DateTime) :=
  (findingAvailable serde clock).onPool table

end

/-! ### In a transaction -/

section

variable {serde : WorkerSerde} (database : WorkerDatabase) (uuids : UuidText) (now : DateTime)
  (tx : Transaction WorkerTable)

def registerWithTx (registeredAt : DateTime) (handle : WorkerHandle)
    (spec : WorkerSpec serde.SpecRest) (jobId : JobId) :=
  (registering database uuids now registeredAt handle spec jobId).inTransaction tx

def saveWithTx (worker : Worker serde) := (saving database worker).inTransaction tx

def updateStateWithTx (workerId : WorkerId) (state : WorkerState) :=
  (updatingState database now workerId state).inTransaction tx

/-- A worker is ready for the next job. -/
def releaseFromJobWithTx (workerId : WorkerId) :=
  (releasing database now .ready workerId).inTransaction tx

def unregisterWithTx (workerId : WorkerId) := (unregistering database workerId).inTransaction tx

def findAvailableWithTx (serde : WorkerSerde) (clock : WorkerId → DateTime) :=
  (findingAvailable serde clock).inTransaction tx

end

end PostgresWorkerRegistry

/-! ## Both forms of a call -/

inductive RegistryCall (serde : WorkerSerde) where
  | register (registeredAt : DateTime) (handle : WorkerHandle) (spec : WorkerSpec serde.SpecRest)
      (jobId : JobId)
  | save (worker : Worker serde)
  | updateState (workerId : WorkerId) (state : WorkerState)
  | releaseFromJob (workerId : WorkerId)
  | unregister (workerId : WorkerId)
  | findAvailable (clock : WorkerId → DateTime)

def noWorkers {serde : WorkerSerde} (_ : Unit) : List (Worker serde) := []

namespace RegistryCall

open PostgresWorkerRegistry

variable {serde : WorkerSerde} (database : WorkerDatabase) (uuids : UuidText) (now : DateTime)

/-- The workers that the call on the pool returns, and the table that it leaves. -/
def onPool (table : WorkerTable) :
    RegistryCall serde → Except DomainError (List (Worker serde)) × WorkerTable
  | .register registeredAt handle spec jobId =>
      (PostgresWorkerRegistry.register database uuids now table registeredAt handle spec jobId).map
        (Except.map List.singleton) id
  | .save worker => (PostgresWorkerRegistry.save database table worker).map
      (Except.map noWorkers) id
  | .updateState workerId state =>
      (PostgresWorkerRegistry.updateState database now table workerId state).map
        (Except.map noWorkers) id
  | .releaseFromJob workerId =>
      (PostgresWorkerRegistry.releaseFromJob database now table workerId).map
        (Except.map noWorkers) id
  | .unregister workerId =>
      (PostgresWorkerRegistry.unregister database table workerId).map (Except.map noWorkers) id
  | .findAvailable clock => PostgresWorkerRegistry.findAvailable table serde clock

/-- The same of the form `_with_tx`, before the commit. -/
def withTx (tx : Transaction WorkerTable) :
    RegistryCall serde → Except DomainError (List (Worker serde)) × Transaction WorkerTable
  | .register registeredAt handle spec jobId =>
      (registerWithTx database uuids now tx registeredAt handle spec jobId).map
        (Except.map List.singleton) id
  | .save worker =>
      (PostgresWorkerRegistry.saveWithTx database tx worker).map (Except.map noWorkers) id
  | .updateState workerId state =>
      (updateStateWithTx database now tx workerId state).map (Except.map noWorkers) id
  | .releaseFromJob workerId =>
      (releaseFromJobWithTx database now tx workerId).map (Except.map noWorkers) id
  | .unregister workerId => (unregisterWithTx database tx workerId).map (Except.map noWorkers) id
  | .findAvailable clock => findAvailableWithTx tx serde clock

/-- Both forms leave the same table and return the same workers. -/
structure Agrees (table : WorkerTable) (call : RegistryCall serde) : Prop where
  rows : (call.withTx database uuids now (.begin table)).2.commit =
    (call.onPool database uuids now table).2
  workers : (call.withTx database uuids now (.begin table)).1.toOption =
    (call.onPool database uuids now table).1.toOption

def RefusesRelease (table : WorkerTable) (workerId : WorkerId) (released : WorkerState) : Prop :=
  database.refusal table (table.release now released workerId) none ≠ none

/-- The call releases no worker that is in the table, unless the database refuses it either way. -/
def ReleasesNothing (table : WorkerTable) : RegistryCall serde → Prop
  | .releaseFromJob workerId => table.find workerId = none ∨
      RefusesRelease database now table workerId .terminated ∧
        RefusesRelease database now table workerId .ready
  | _ => True

variable {database uuids now} {table : WorkerTable}

theorem to_option_map {Value Other : Type} (change : Value → Other)
    (result : Except DomainError Value) :
    (result.map change).toOption = result.toOption.map change := by
  cases result with
  | error problem => rfl
  | ok value => rfl

theorem no_workers_injective :
    Function.Injective (noWorkers : Unit → List (Worker serde)) := by
  intro first second _
  rfl

/-- A call that makes the same query either way agrees. -/
theorem agrees_of_query {Value Result : Type} (query : RegistryQuery Value Result)
    (workers : Result → List (Worker serde)) {call : RegistryCall serde}
    (transacted : ∀ tx, call.withTx database uuids now tx =
      (query.inTransaction tx).map (Except.map workers) id)
    (pooled : call.onPool database uuids now table =
      (query.onPool table).map (Except.map workers) id) :
    Agrees database uuids now table call := by
  have committed := query.commits_as_on_pool table
  constructor
  · rw [transacted, pooled]
    exact committed.2
  · rw [transacted, pooled]
    dsimp only [Prod.map]
    rw [to_option_map, to_option_map, committed.1]

theorem released_state (now : DateTime) (released : WorkerState) {workerId : WorkerId}
    {row : WorkerRow} (stored : table.find workerId = some row) :
    ((table.release now released workerId).find workerId).map WorkerRow.state =
      some (Workers.stateText released) := by
  unfold WorkerTable.release
  rw [Table.find_update, if_pos rfl, stored]
  rfl

/-- A worker that is in the table is released into different tables. -/
theorem release_eq_iff (now : DateTime) (workerId : WorkerId) {released other : WorkerState}
    (different : released ≠ other) :
    table.release now released workerId = table.release now other workerId ↔
      table.find workerId = none := by
  constructor
  · intro same
    cases stored : table.find workerId with
    | none => rfl
    | some row =>
        have first := released_state now released stored
        rw [same, released_state now other stored] at first
        exact absurd (state_text_injective (Option.some.inj first)).symm different
  · intro absent
    unfold WorkerTable.release
    rw [Table.update_of_absent _ _ _ _ absent, Table.update_of_absent _ _ _ _ absent]

theorem release_refused {workerId : WorkerId} {released : WorkerState}
    (refused : RefusesRelease database now table workerId released) :
    ((releasing database now released workerId).onPool table).1.toOption = none ∧
      ((releasing database now released workerId).onPool table).2 = table := by
  rcases Option.ne_none_iff_exists'.mp refused with ⟨problem, answered⟩
  rw [RegistryQuery.on_pool_bound rfl, write_refused answered]
  exact ⟨rfl, rfl⟩

theorem release_accepted {workerId : WorkerId} {released : WorkerState}
    (accepted : ¬RefusesRelease database now table workerId released) :
    ((releasing database now released workerId).onPool table).1.toOption = some () ∧
      ((releasing database now released workerId).onPool table).2 =
        table.release now released workerId := by
  have answered : database.refusal table (table.release now released workerId) none = none :=
    not_not.mp accepted
  rw [RegistryQuery.on_pool_bound rfl, write_accepted answered]
  exact ⟨rfl, rfl⟩

/-- The two forms of a release are two queries on the pool. -/
theorem agrees_release_iff (workerId : WorkerId) :
    Agrees database uuids now table (.releaseFromJob workerId : RegistryCall serde) ↔
      ((releasing database now .ready workerId).onPool table).2 =
          ((releasing database now .terminated workerId).onPool table).2 ∧
        ((releasing database now .ready workerId).onPool table).1.toOption =
          ((releasing database now .terminated workerId).onPool table).1.toOption := by
  have committed := (releasing database now .ready workerId).commits_as_on_pool table
  have injective := Option.map_injective (@no_workers_injective serde)
  rw [← injective.eq_iff, ← committed.1, ← committed.2, ← to_option_map, ← to_option_map]
  constructor
  · intro agrees
    exact ⟨agrees.rows, agrees.workers⟩
  · intro ⟨rows, workers⟩
    exact ⟨rows, workers⟩

/-- Without a row for the worker the database is asked for the same write either way. -/
theorem refuses_alike {workerId : WorkerId} (absent : table.find workerId = none) :
    RefusesRelease database now table workerId .terminated ↔
      RefusesRelease database now table workerId .ready := by
  have same : table.release now .ready workerId = table.release now .terminated workerId :=
    (release_eq_iff now workerId (by decide)).mpr absent
  unfold RefusesRelease
  rw [same]

theorem release_agrees_iff (workerId : WorkerId) :
    Agrees database uuids now table (.releaseFromJob workerId : RegistryCall serde) ↔
      ReleasesNothing database now table (.releaseFromJob workerId : RegistryCall serde) := by
  have tables : table.release now .ready workerId = table.release now .terminated workerId ↔
      table.find workerId = none := release_eq_iff now workerId (by decide)
  rw [agrees_release_iff]
  unfold ReleasesNothing
  by_cases ends : RefusesRelease database now table workerId .terminated
  · by_cases readies : RefusesRelease database now table workerId .ready
    · simp [release_refused ends, release_refused readies, ends, readies]
    · have stored : table.find workerId ≠ none := fun absent =>
        readies ((refuses_alike absent).mp ends)
      simp [release_refused ends, release_accepted readies, readies, stored]
  · by_cases readies : RefusesRelease database now table workerId .ready
    · have stored : table.find workerId ≠ none := fun absent =>
        ends ((refuses_alike absent).mpr readies)
      simp [release_accepted ends, release_refused readies, ends, stored]
    · simp [release_accepted ends, release_accepted readies, ends, tables]

theorem agrees_of_releases_nothing {call : RegistryCall serde}
    (nothing : ReleasesNothing database now table call) :
    Agrees database uuids now table call := by
  cases call with
  | releaseFromJob workerId => exact (release_agrees_iff workerId).mpr nothing
  | register registeredAt handle spec jobId =>
      exact agrees_of_query (registering database uuids now registeredAt handle spec jobId)
        List.singleton (fun _ => rfl) rfl
  | save worker => exact agrees_of_query (saving database worker) noWorkers (fun _ => rfl) rfl
  | updateState workerId state =>
      exact agrees_of_query (updatingState database now workerId state) noWorkers
        (fun _ => rfl) rfl
  | unregister workerId =>
      exact agrees_of_query (unregistering database workerId) noWorkers (fun _ => rfl) rfl
  | findAvailable clock =>
      have committed := (findingAvailable serde clock).commits_as_on_pool table
      exact ⟨committed.2, committed.1⟩

/-- The two forms of a call agree except where a worker of the table is released. -/
theorem agrees_iff (database : WorkerDatabase) (uuids : UuidText) (now : DateTime)
    (table : WorkerTable) (call : RegistryCall serde) :
    Agrees database uuids now table call ↔ ReleasesNothing database now table call := by
  constructor
  · intro agrees
    cases call with
    | releaseFromJob workerId => exact (release_agrees_iff workerId).mp agrees
    | _ => trivial
  · exact agrees_of_releases_nothing

/-- A worker with its job. -/
def busyRow : WorkerRow where
  id := ⟨1⟩
  name := some "hodei-worker-00000000"
  providerId := ⟨3⟩
  providerType := "docker"
  providerResourceId := "container-123"
  state := "BUSY"
  spec := .null
  handle := .null
  currentJobId := some ⟨7⟩
  lastHeartbeat := some 2
  createdAt := 0
  updatedAt := 2

def busyTable : WorkerTable := ⟨[busyRow], List.nodup_singleton _⟩

/-- It is terminated on the pool and ready in a transaction. -/
theorem busy_worker_released_apart :
    ¬Agrees plainDatabase zerosText 5 busyTable
      (.releaseFromJob ⟨1⟩ : RegistryCall (plainWorkerSerde dockerHandle defaultSpec)) := by
  intro agrees
  have states := congrArg (fun table : WorkerTable => table.rows.map WorkerRow.state) agrees.rows
  have texts : ["READY"] = ["TERMINATED"] := states
  revert texts
  decide

/-! ## Several calls in one transaction

`NOW()` is the start of the transaction for all calls in one, and on the pool a time for each. -/

/-- The row without its times. -/
def timelessRow (row : WorkerRow) : WorkerRow :=
  { row with lastHeartbeat := none, createdAt := 0, updatedAt := 0 }

theorem timeless_row_id (row : WorkerRow) : (timelessRow row).id = row.id := rfl

def timeless (table : WorkerTable) : WorkerTable := table.view timelessRow timeless_row_id

/-- A call on the pool, with the time of its statement. -/
structure TimedCall (serde : WorkerSerde) where
  now : DateTime
  call : RegistryCall serde

variable (database uuids now)

def poolStep (table : WorkerTable) (timed : TimedCall serde) : WorkerTable :=
  (timed.call.onPool database uuids timed.now table).2

def runOnPool (table : WorkerTable) (calls : List (TimedCall serde)) : WorkerTable :=
  calls.foldl (poolStep database uuids) table

def runWithTx (tx : Transaction WorkerTable) (calls : List (RegistryCall serde)) :
    Transaction WorkerTable :=
  calls.foldl (fun tx call => (call.withTx database uuids now tx).2) tx

/-- The call releases no worker of the table. -/
def ReleasesNobody (table : WorkerTable) : RegistryCall serde → Prop
  | .releaseFromJob workerId => table.find workerId = none
  | _ => True

/-- The call releases nobody, and the database does not refuse it. -/
structure Commits (table : WorkerTable) (timed : TimedCall serde) : Prop where
  nobody : ReleasesNobody table timed.call
  accepted : (timed.call.withTx database uuids timed.now (.begin table)).2.aborted = false

/-- What a call leaves that releases nobody and is not refused. -/
def leaves (table : WorkerTable) : RegistryCall serde → WorkerTable
  | .register _ handle spec jobId =>
      mergeBuilt (registeredRow database uuids now handle spec jobId)
        (WorkerTable.registerAgain now) table
  | .save worker => mergeBuilt (savedRow database worker) WorkerTable.saveAgain table
  | .updateState workerId state => table.setState now state workerId
  | .unregister workerId => table.delete workerId
  | .releaseFromJob _ | .findAvailable _ => table

variable {database uuids now}

theorem running_of_with_tx (call : RegistryCall serde) {tx : Transaction WorkerTable}
    (running : (call.withTx database uuids now tx).2.aborted = false) : tx.aborted = false := by
  cases call with
  | register registeredAt handle spec jobId =>
      exact (registering database uuids now registeredAt handle spec jobId).in_transaction_running
        running
  | save worker => exact (saving database worker).in_transaction_running running
  | updateState workerId state =>
      exact (updatingState database now workerId state).in_transaction_running running
  | releaseFromJob workerId =>
      exact (releasing database now .ready workerId).in_transaction_running running
  | unregister workerId => exact (unregistering database workerId).in_transaction_running running
  | findAvailable clock => exact (findingAvailable serde clock).in_transaction_running running

theorem running_of_run_with_tx (calls : List (RegistryCall serde)) {tx : Transaction WorkerTable}
    (running : (runWithTx database uuids now tx calls).aborted = false) : tx.aborted = false := by
  induction calls generalizing tx with
  | nil => exact running
  | cons call rest ih => exact running_of_with_tx call (ih running)

/-- A call that is not refused leaves what it is to leave. -/
theorem with_tx_leaves {call : RegistryCall serde} {tx : Transaction WorkerTable}
    (nobody : ReleasesNobody tx.current call)
    (running : (call.withTx database uuids now tx).2.aborted = false) :
    (call.withTx database uuids now tx).2 =
      ⟨tx.start, call.leaves database uuids now tx.current, false⟩ := by
  cases call with
  | register registeredAt handle spec jobId =>
      exact (registering database uuids now registeredAt handle spec jobId).in_transaction_row
        (registeredRow database uuids now handle spec jobId) (WorkerTable.registerAgain now) rfl
        running
  | save worker =>
      exact (saving database worker).in_transaction_row (savedRow database worker)
        WorkerTable.saveAgain rfl running
  | updateState workerId state =>
      exact (updatingState database now workerId state).in_transaction_write rfl running
  | releaseFromJob workerId =>
      have same : tx.current.release now .ready workerId = tx.current :=
        Table.update_of_absent _ _ _ _ nobody
      have moved := (releasing database now .ready workerId).in_transaction_write rfl running
      rw [same] at moved
      exact moved
  | unregister workerId => exact (unregistering database workerId).in_transaction_write rfl running
  | findAvailable clock =>
      have before := running_of_with_tx _ running
      simp only [withTx, findAvailableWithTx, RegistryQuery.inTransaction, findingAvailable,
        Transaction.execute, before, leaves]
      rfl

/-- On the pool it leaves the same. -/
theorem pool_step_leaves {table : WorkerTable} {timed : TimedCall serde}
    (commits : Commits database uuids table timed) :
    poolStep database uuids table timed = timed.call.leaves database uuids timed.now table := by
  obtain ⟨now, call⟩ := timed
  have nothing : ReleasesNothing database now table call := by
    cases call with
    | releaseFromJob workerId => exact .inl commits.nobody
    | _ => trivial
  have agrees : Agrees database uuids now table call := agrees_of_releases_nothing nothing
  show (call.onPool database uuids now table).2 = call.leaves database uuids now table
  rw [← agrees.rows, with_tx_leaves commits.nobody commits.accepted]
  rfl

/-! ### Up to the times -/

theorem registered_row_timeless (now later : DateTime) (handle : WorkerHandle)
    (spec : WorkerSpec serde.SpecRest) (jobId : JobId) :
    (registeredRow database uuids now handle spec jobId).map timelessRow =
      (registeredRow database uuids later handle spec jobId).map timelessRow := by
  unfold registeredRow
  cases serialize "worker spec" (serde.specToValue spec) with
  | error problem => rfl
  | ok specValue =>
      cases serialize "worker handle" (serde.handleToValue handle) with
      | error problem => rfl
      | ok handleValue => rfl

/-- A merge that does not look at times makes the same row but for them. -/
theorem timeless_merge_built (merge merged : WorkerRow → WorkerRow → WorkerRow)
    (commutes : ∀ existing row, timelessRow (merge existing row) =
      merged (timelessRow existing) (timelessRow row))
    (built : Except DomainError WorkerRow) (table : WorkerTable) :
    timeless (mergeBuilt built merge table) =
      mergeBuilt (built.map timelessRow) merged (timeless table) := by
  cases built with
  | error problem => rfl
  | ok row =>
      exact Table.view_insert_or_merge table timelessRow timeless_row_id row merge merged
        fun existing => commutes existing row

/-- What a call leaves is, but for the times, what it would leave of a table without them. -/
theorem timeless_leaves (call : RegistryCall serde) (table : WorkerTable) (now : DateTime) :
    timeless (call.leaves database uuids now table) =
      timeless (call.leaves database uuids 0 (timeless table)) := by
  have same : timeless (timeless table) = timeless table := by
    unfold timeless Table.view
    simp only [List.map_map]
    rfl
  cases call with
  | register registeredAt handle spec jobId =>
      have merged (time : DateTime) := timeless_merge_built (WorkerTable.registerAgain time)
        (WorkerTable.registerAgain 0) fun _ _ => rfl
      unfold leaves
      rw [merged, merged, same, registered_row_timeless now 0]
  | save worker =>
      unfold leaves
      have merged := timeless_merge_built WorkerTable.saveAgain WorkerTable.saveAgain fun _ _ => rfl
      rw [merged, merged, same]
  | updateState workerId state =>
      have set (time : DateTime) (table : WorkerTable) :
          timeless (table.setState time state workerId) =
            (timeless table).setState 0 state workerId :=
        Table.view_update table timelessRow timeless_row_id workerId
          (fun row => { row with state := Workers.stateText state, updatedAt := time })
          (fun _ => rfl) (fun row => { row with state := Workers.stateText state, updatedAt := 0 })
          (fun _ => rfl) fun _ => rfl
      unfold leaves
      rw [set, set, same]
  | unregister workerId =>
      have deleted (table : WorkerTable) :
          timeless (table.delete workerId) = (timeless table).delete workerId :=
        Table.view_delete _ _ timeless_row_id _
      unfold leaves
      rw [deleted, deleted, same]
  | releaseFromJob workerId | findAvailable clock => exact same.symm

/-- Tables that differ in times alone have the same ids. -/
theorem releases_nobody_congr {table other : WorkerTable} (same : timeless table = timeless other)
    {call : RegistryCall serde} (nobody : ReleasesNobody table call) :
    ReleasesNobody other call := by
  cases call with
  | releaseFromJob workerId =>
      have found (table : WorkerTable) :
          (timeless table).find workerId = none ↔ table.find workerId = none := by
        unfold timeless
        rw [Table.find_view, Option.map_eq_none_iff]
      exact (found other).mp (same ▸ (found table).mpr nobody)
  | _ => trivial

theorem run_with_tx_timeless (calls : List (TimedCall serde)) (table : WorkerTable)
    (tx : Transaction WorkerTable) (same : timeless tx.current = timeless table)
    (commits : EachMove (poolStep database uuids) (Commits database uuids) table calls)
    (running : (runWithTx database uuids now tx (calls.map TimedCall.call)).aborted = false) :
    timeless (runWithTx database uuids now tx (calls.map TimedCall.call)).current =
      timeless (runOnPool database uuids table calls) := by
  induction calls generalizing table tx with
  | nil => exact same
  | cons timed rest ih =>
      obtain ⟨first, later⟩ := commits
      have moved := with_tx_leaves (releases_nobody_congr same.symm first.nobody)
        (running_of_run_with_tx (rest.map TimedCall.call) running)
      refine ih (poolStep database uuids table timed) _ ?_ later running
      show timeless (timed.call.withTx database uuids now tx).2.current = _
      rw [moved, pool_step_leaves first, timeless_leaves, timeless_leaves timed.call table, same]

/-- A transaction of calls that release nobody and are not refused leaves, but for the times, what
the calls leave on the pool. -/
theorem commit_run_with_tx (calls : List (TimedCall serde)) (table : WorkerTable)
    (commits : EachMove (poolStep database uuids) (Commits database uuids) table calls)
    (running : (runWithTx database uuids now (.begin table)
      (calls.map TimedCall.call)).aborted = false) :
    timeless (runWithTx database uuids now (.begin table)
        (calls.map TimedCall.call)).commit =
      timeless (runOnPool database uuids table calls) := by
  have committed := run_with_tx_timeless calls table (.begin table) rfl commits running
  unfold Transaction.commit
  rw [running]
  exact committed

/-- One worker ends and leaves the table, another one is registered and ready. -/
def replaceWorker : List (TimedCall (plainWorkerSerde dockerHandle defaultSpec)) :=
  [⟨5, .updateState ⟨1⟩ .terminated⟩, ⟨6, .unregister ⟨1⟩⟩,
    ⟨7, .register 7 { dockerHandle with workerId := ⟨2⟩ } defaultSpec ⟨8⟩⟩,
    ⟨9, .updateState ⟨2⟩ .ready⟩]

theorem worker_replaced :
    timeless (runWithTx plainDatabase zerosText 4 (.begin busyTable)
        (replaceWorker.map TimedCall.call)).commit =
      timeless (runOnPool plainDatabase zerosText busyTable replaceWorker) :=
  commit_run_with_tx replaceWorker busyTable
    ⟨⟨trivial, by decide⟩, ⟨trivial, by decide⟩, ⟨trivial, by decide⟩, ⟨trivial, by decide⟩,
      trivial⟩ (by decide)

end RegistryCall

end HodeiJobs.Persistence
