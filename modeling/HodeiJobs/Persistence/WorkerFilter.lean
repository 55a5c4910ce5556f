import HodeiJobs.Persistence.WorkerRoundTrip

/-!
# Finding workers by a filter

A filter has six fields, and the queries of `find` and of `find_ready_worker` have clauses for
three of them. An empty list of states makes no clause either.
-/

namespace HodeiJobs.Persistence

open HodeiJobs.Library HodeiJobs.Shared
open HodeiJobs.Sagas (DateTime Duration)
open HodeiJobs.Execution (WorkerId)
open HodeiJobs.Jobs (DomainError)

/-! ## Filters -/

/-- A filter with the fields that no query looks at. -/
structure FullWorkerFilter extends WorkerFilter where
  canAcceptJobs : Option Bool
  idleFor : Option Duration
  unhealthyTimeout : Option Duration

namespace FullWorkerFilter

def new : FullWorkerFilter := ⟨.new, none, none, none⟩

variable (filter : FullWorkerFilter) (now : DateTime) (worker : Workers.Worker)

def acceptingJobs : FullWorkerFilter := { filter with canAcceptJobs := some true }

/-- The worker satisfies the fields without a clause. A worker is idle if it is ready, and so is
without a heartbeat for a time. -/
def satisfiesUnread : Bool :=
  filter.canAcceptJobs.all (Workers.canAcceptJobs worker.state == ·) &&
    filter.idleFor.all (fun duration => worker.state == .ready &&
      decide (duration.nanos < (Workers.Worker.elapsed worker.lastHeartbeat now).nanos)) &&
    filter.unhealthyTimeout.all fun timeout =>
      decide (timeout.nanos < (Workers.Worker.elapsed worker.lastHeartbeat now).nanos)

/-- The worker satisfies every field that is set. -/
def satisfiedBy {serde : WorkerSerde} (worker : Worker serde) : Bool :=
  filter.states.all (·.contains worker.state) &&
    filter.providerId.all (worker.handleRest.providerId == ·) &&
    filter.providerType.all (worker.handle.providerType == ·) &&
    filter.satisfiesUnread now worker.toWorker

end FullWorkerFilter

/-! ## Tables of workers -/

/-- A table, and for each row the worker that it holds, with whose provider the columns agree. -/
structure WorkerStock (serde : WorkerSerde) (clock : WorkerId → DateTime) where
  table : WorkerTable
  stored : List (WorkerRow × Worker serde)
  rows : stored.map Prod.fst = table.rows
  restores : ∀ pair ∈ stored, mapRowToWorker serde (clock pair.1.id) pair.1 = .ok pair.2
  providerId : ∀ pair ∈ stored, pair.1.providerId = pair.2.handleRest.providerId
  providerType : ∀ pair ∈ stored, pair.1.providerType = pair.2.handle.providerType.display

def WorkerStock.workers {serde : WorkerSerde} {clock : WorkerId → DateTime}
    (stock : WorkerStock serde clock) : List (Worker serde) := stock.stored.map Prod.snd

/-- The row that `LIMIT 1` leaves over of some rows in no order. -/
structure AnyRow where
  pick : List WorkerRow → Option WorkerRow
  picks : ∀ rows, rows ≠ [] → ∃ row ∈ rows, pick rows = some row
  nothing : pick [] = none

def PostgresWorkerRegistry.findReadyWorker (serde : WorkerSerde) (table : WorkerTable)
    (choice : AnyRow) (clock : WorkerId → DateTime) (filter : Option FullWorkerFilter) :
    Except DomainError (Option (Worker serde)) :=
  match choice.pick (table.available.filter fun row => filter.all (·.selects row)) with
  | some row => (mapRowToWorker serde (clock row.id) row).map some
  | none => .ok none

/-- The row that `save` writes for a worker is one of a stock. -/
theorem saved_row_stocked {serde : WorkerSerde} (database : WorkerDatabase) {worker : Worker serde}
    (roundTrips : JsonRoundTrips worker) (time : DateTime) :
    ∃ row restored, PostgresWorkerRegistry.savedRow database worker = .ok row ∧
      mapRowToWorker serde time row = .ok restored ∧
      row.providerId = restored.handleRest.providerId ∧
      row.providerType = restored.handle.providerType.display := by
  rcases serialize_reads_back "worker handle" roundTrips.handle with
    ⟨handle, handleWritten, -, handleRead⟩
  rcases serialize_reads_back "worker spec" roundTrips.spec with ⟨spec, specWritten, -, specRead⟩
  unfold PostgresWorkerRegistry.savedRow
  rw [handleWritten, specWritten]
  refine ⟨_, .fromDatabase worker.fullHandle worker.fullSpec worker.state worker.currentJobId
    (some (database.columnTime worker.lastHeartbeat)) (database.columnTime worker.createdAt)
    (database.columnTime worker.updatedAt) time, rfl, ?_, rfl, rfl⟩
  unfold mapRowToWorker
  dsimp only
  rw [handleRead, specRead, worker_state_of_state_text]
  rfl

/-! ## What is asked of the queries -/

section

variable {serde : WorkerSerde} {clock : WorkerId → DateTime} (stock : WorkerStock serde clock)
  (now : DateTime) (filter : FullWorkerFilter)

/-- Ready and without a job. -/
def Free (worker : Worker serde) : Prop := worker.state = .ready ∧ worker.currentJobId = none

structure FindsBy : Prop where
  found : ∃ found, PostgresWorkerRegistry.find serde stock.table clock filter.toWorkerFilter =
    .ok found ∧ found.Perm (stock.workers.filter (filter.satisfiedBy now))
  ready : (∃ worker ∈ stock.workers, Free worker ∧ filter.satisfiedBy now worker = true) →
    ∀ choice, ∃ worker ∈ stock.workers,
      PostgresWorkerRegistry.findReadyWorker serde stock.table choice clock (some filter) =
        .ok (some worker) ∧ Free worker ∧ filter.satisfiedBy now worker = true

/-- A stored worker with its row: the fields without a clause do not exclude it if the others do
not; and if its row has a state from before, then it is none of those that are asked for by their
state. -/
structure Heeded (row : WorkerRow) (worker : Worker serde) : Prop where
  read : filter.selects row = true →
    filter.states ≠ some [] ∧ filter.satisfiesUnread now worker.toWorker = true
  current : row.state ≠ Workers.stateText worker.state → filter.states ≠ none →
    filter.satisfiedBy now worker = false

end

/-! ## One row -/

section

variable {serde : WorkerSerde} {clock : WorkerId → DateTime} {stock : WorkerStock serde clock}
  {filter : FullWorkerFilter} {now : DateTime} {row : WorkerRow} {worker : Worker serde}

theorem restored_state {time : DateTime} (restores : mapRowToWorker serde time row = .ok worker) :
    workerStateOf row.state = some worker.state ∧ row.currentJobId = worker.currentJobId := by
  obtain ⟨handle, -, rest⟩ := bind_eq_ok.mp restores
  obtain ⟨spec, -, rest⟩ := bind_eq_ok.mp rest
  cases known : workerStateOf row.state with
  | none =>
      rw [known] at rest
      cases rest
  | some state =>
      rw [known] at rest
      cases rest
      exact ⟨rfl, rfl⟩

/-- `state = ANY(..)` finds the workers in these states that do not have a state from before. -/
theorem state_selected_iff (known : workerStateOf row.state = some worker.state)
    (states : List WorkerState) :
    (states.map Workers.stateText).contains row.state = true ↔
      worker.state ∈ states ∧ row.state = Workers.stateText worker.state := by
  rw [List.contains_iff_mem, List.mem_map]
  constructor
  · intro ⟨state, member, same⟩
    rw [← same, worker_state_of_state_text] at known
    have equal := Option.some.inj known
    subst equal
    exact ⟨member, same.symm⟩
  · intro ⟨member, current⟩
    exact ⟨worker.state, member, current.symm⟩

theorem selects_iff (restores : workerStateOf row.state = some worker.state)
    (id : row.providerId = worker.handleRest.providerId)
    (type : row.providerType = worker.handle.providerType.display) :
    filter.selects row = true ↔
      (∀ states, filter.states = some states →
        states = [] ∨ worker.state ∈ states ∧ row.state = Workers.stateText worker.state) ∧
      (∀ wanted, filter.providerId = some wanted → worker.handleRest.providerId = wanted) ∧
      ∀ wanted, filter.providerType = some wanted → worker.handle.providerType = wanted := by
  have states : filter.states.all (fun states =>
      states.isEmpty || (states.map Workers.stateText).contains row.state) = true ↔
      ∀ states, filter.states = some states →
        states = [] ∨ worker.state ∈ states ∧ row.state = Workers.stateText worker.state := by
    rw [Option.all_eq_true]
    simp only [Bool.or_eq_true, List.isEmpty_iff, state_selected_iff restores]
  have types : ∀ wanted : Workers.ProviderType,
      worker.handle.providerType.display = wanted.display ↔
        worker.handle.providerType = wanted := by
    intro wanted
    exact ⟨Workers.ProviderType.display_injective _ _, congrArg _⟩
  unfold WorkerFilter.selects
  rw [Bool.and_eq_true, Bool.and_eq_true, states, Option.all_eq_true, Option.all_eq_true, id, type]
  simp only [beq_iff_eq, types, and_assoc]

theorem satisfied_by_iff :
    filter.satisfiedBy now worker = true ↔
      (∀ states, filter.states = some states → worker.state ∈ states) ∧
      (∀ wanted, filter.providerId = some wanted → worker.handleRest.providerId = wanted) ∧
      (∀ wanted, filter.providerType = some wanted → worker.handle.providerType = wanted) ∧
      filter.satisfiesUnread now worker.toWorker = true := by
  unfold FullWorkerFilter.satisfiedBy
  rw [Bool.and_eq_true, Bool.and_eq_true, Bool.and_eq_true, Option.all_eq_true,
    Option.all_eq_true, Option.all_eq_true]
  simp only [beq_iff_eq, List.contains_iff_mem, and_assoc]

/-- The clauses select a row exactly if its worker satisfies the filter. -/
theorem selects_eq_iff_heeded (restores : workerStateOf row.state = some worker.state)
    (id : row.providerId = worker.handleRest.providerId)
    (type : row.providerType = worker.handle.providerType.display) :
    filter.selects row = filter.satisfiedBy now worker ↔ Heeded now filter row worker := by
  have clauses : filter.selects row = true ↔ _ := selects_iff restores id type
  have fields : filter.satisfiedBy now worker = true ↔ _ := satisfied_by_iff
  constructor
  · intro same
    constructor
    · intro selected
      obtain ⟨states, -, -, unread⟩ := fields.mp (same ▸ selected)
      exact ⟨fun isEmpty => List.not_mem_nil (states [] isEmpty), unread⟩
    · intro before named
      rw [← same, ← Bool.not_eq_true]
      intro selected
      obtain ⟨states, isStates⟩ := Option.ne_none_iff_exists'.mp named
      rcases (clauses.mp selected).1 states isStates with isEmpty | ⟨-, current⟩
      · rw [isEmpty] at isStates
        exact List.not_mem_nil ((fields.mp (same ▸ selected)).1 [] isStates)
      · exact before current
  · intro heeded
    rw [Bool.eq_iff_iff]
    constructor
    · intro selected
      obtain ⟨states, ids, types⟩ := clauses.mp selected
      obtain ⟨some, unread⟩ := heeded.read selected
      refine fields.mpr ⟨?_, ids, types, unread⟩
      intro wanted isWanted
      rcases states wanted isWanted with isEmpty | ⟨member, -⟩
      · exact absurd (isEmpty ▸ isWanted) some
      · exact member
    · intro satisfied
      obtain ⟨states, ids, types, -⟩ := fields.mp satisfied
      refine clauses.mpr ⟨?_, ids, types⟩
      intro wanted isWanted
      refine .inr ⟨states wanted isWanted, ?_⟩
      by_contra before
      have excluded := heeded.current before (by rw [isWanted]; exact Option.some_ne_none wanted)
      rw [satisfied] at excluded
      cases excluded

end

/-! ## All rows -/

/-- Two conditions of which one implies the other agree on as many items exactly if they agree. -/
theorem agree_of_count {Item : Type} (first second : Item → Bool) (items : List Item)
    (implies : ∀ item ∈ items, first item = true → second item = true)
    (same : items.countP first = items.countP second) :
    ∀ item ∈ items, first item = second item := by
  induction items with
  | nil => simp
  | cons item rest ih =>
      rw [List.forall_mem_cons] at implies ⊢
      have fewer := List.countP_mono_left implies.2
      rw [List.countP_cons, List.countP_cons] at same
      cases isFirst : first item with
      | true =>
          have isSecond := implies.1 isFirst
          rw [isFirst, isSecond] at same
          exact ⟨isSecond.symm, ih implies.2 (by omega)⟩
      | false =>
          cases isSecond : second item with
          | false =>
              rw [isFirst, isSecond] at same
              exact ⟨rfl, ih implies.2 (by omega)⟩
          | true =>
              rw [isFirst, isSecond] at same
              simp only [Bool.false_eq_true, if_false, if_true] at same
              omega

section

variable {serde : WorkerSerde} {clock : WorkerId → DateTime} (stock : WorkerStock serde clock)
  (filter : FullWorkerFilter) (now : DateTime)

/-- The workers whose rows the clauses select. -/
def WorkerStock.selected : List (Worker serde) :=
  (stock.stored.filter fun pair => filter.selects pair.1).map Prod.snd

theorem map_m_restores {pairs : List (WorkerRow × Worker serde)}
    (restores : ∀ pair ∈ pairs, mapRowToWorker serde (clock pair.1.id) pair.1 = .ok pair.2) :
    (pairs.map Prod.fst).mapM (fun row => mapRowToWorker serde (clock row.id) row) =
      .ok (pairs.map Prod.snd) := by
  induction pairs with
  | nil => rfl
  | cons pair rest ih =>
      rw [List.forall_mem_cons] at restores
      exact map_m_cons_eq_ok.mpr ⟨_, _, restores.1, ih restores.2, rfl⟩

/-- `find` returns the workers of the selected rows, the newest first. -/
theorem find_eq_selected :
    ∃ found, PostgresWorkerRegistry.find serde stock.table clock filter.toWorkerFilter = .ok found ∧
      found.Perm (stock.selected filter) := by
  let pairs := (stock.stored.filter fun pair => filter.selects pair.1).mergeSort
    fun first second => decide (second.1.createdAt ≤ first.1.createdAt)
  have members : pairs.Perm (stock.stored.filter fun pair => filter.selects pair.1) :=
    List.mergeSort_perm _ _
  have rows : PostgresWorkerRegistry.newestFirst (stock.table.rows.filter filter.selects) =
      pairs.map Prod.fst := by
    unfold PostgresWorkerRegistry.newestFirst
    rw [← stock.rows, List.filter_map]
    symm
    apply List.map_mergeSort
    intro first _ second _
    rfl
  refine ⟨pairs.map Prod.snd, ?_, members.map Prod.snd⟩
  unfold PostgresWorkerRegistry.find
  rw [rows]
  apply map_m_restores
  intro pair member
  exact stock.restores pair (List.mem_filter.mp (members.mem_iff.mp member)).1

theorem selects_iff_heeded {pair : WorkerRow × Worker serde} (member : pair ∈ stock.stored) :
    filter.selects pair.1 = filter.satisfiedBy now pair.2 ↔ Heeded now filter pair.1 pair.2 :=
  selects_eq_iff_heeded (restored_state (stock.restores pair member)).1
    (stock.providerId pair member) (stock.providerType pair member)

theorem selected_perm_iff :
    (stock.selected filter).Perm (stock.workers.filter (filter.satisfiedBy now)) ↔
      ∀ pair ∈ stock.stored, Heeded now filter pair.1 pair.2 := by
  have satisfied : stock.workers.filter (filter.satisfiedBy now) =
      (stock.stored.filter fun pair => filter.satisfiedBy now pair.2).map Prod.snd := by
    rw [WorkerStock.workers, List.filter_map]
    rfl
  constructor
  · intro same pair member
    refine (selects_iff_heeded stock filter now member).mp ?_
    refine agree_of_count (fun pair => filter.selects pair.1)
      (fun pair => filter.satisfiedBy now pair.2) stock.stored ?_ ?_ pair member
    · intro other isOther isSelected
      have listed : other.2 ∈ stock.selected filter :=
        List.mem_map_of_mem (List.mem_filter.mpr ⟨isOther, isSelected⟩)
      exact (List.mem_filter.mp (same.mem_iff.mp listed)).2
    · have lengths := same.length_eq
      rw [satisfied, WorkerStock.selected, List.length_map, List.length_map] at lengths
      rw [List.countP_eq_length_filter, List.countP_eq_length_filter]
      exact lengths
  · intro heeded
    have rows : (stock.stored.filter fun pair => filter.selects pair.1) =
        stock.stored.filter fun pair => filter.satisfiedBy now pair.2 :=
      List.filter_congr fun pair member =>
        (selects_iff_heeded stock filter now member).mpr (heeded pair member)
    rw [satisfied, WorkerStock.selected, rows]

/-- Only one text is read as ready. -/
theorem state_of_ready {text : String} (ready : workerStateOf text = some .ready) :
    text = Workers.stateText .ready := by
  unfold workerStateOf at ready
  split at ready <;> first | rfl | cases ready

/-- The rows of `WHERE state = 'READY' AND current_job_id IS NULL` are those of free workers. -/
theorem available_iff_free {pair : WorkerRow × Worker serde} (member : pair ∈ stock.stored) :
    (pair.1.state == Workers.stateText .ready && pair.1.currentJobId.isNone) = true ↔
      Free pair.2 := by
  obtain ⟨known, job⟩ := restored_state (stock.restores pair member)
  rw [Bool.and_eq_true, beq_iff_eq, Option.isNone_iff_eq_none, job]
  apply and_congr_left'
  constructor
  · intro text
    rw [text, worker_state_of_state_text] at known
    exact (Option.some.inj known).symm
  · intro ready
    rw [ready] at known
    exact state_of_ready known

/-- Both queries heed the whole filter exactly if every stored worker is one for which the clauses
suffice. -/
theorem finds_by_iff :
    FindsBy stock now filter ↔ ∀ pair ∈ stock.stored, Heeded now filter pair.1 pair.2 := by
  obtain ⟨found, isFound, same⟩ := find_eq_selected stock filter
  constructor
  · intro finds
    obtain ⟨other, isOther, satisfied⟩ := finds.found
    rw [isFound] at isOther
    cases isOther
    exact (selected_perm_iff stock filter now).mp (same.symm.trans satisfied)
  · intro heeded
    refine ⟨⟨found, isFound, same.trans ((selected_perm_iff stock filter now).mpr heeded)⟩, ?_⟩
    have heeds : ∀ pair ∈ stock.stored,
        filter.selects pair.1 = filter.satisfiedBy now pair.2 := by
      intro pair member
      exact (selects_iff_heeded stock filter now member).mpr (heeded pair member)
    have rowOf : ∀ pair ∈ stock.stored,
        pair.1 ∈ stock.table.available.filter (fun row => (some filter).all (·.selects row)) ↔
          Free pair.2 ∧ filter.satisfiedBy now pair.2 = true := by
      intro pair member
      have stored : pair.1 ∈ stock.table.rows := by
        rw [← stock.rows]
        exact List.mem_map_of_mem member
      rw [List.mem_filter, WorkerTable.available, List.mem_filter,
        available_iff_free stock member]
      simp only [Option.all_some, heeds pair member, stored, true_and]
    intro ⟨worker, isWorker, free, satisfied⟩ choice
    obtain ⟨pair, isPair, rfl⟩ := List.mem_map.mp isWorker
    have someRow := List.ne_nil_of_mem ((rowOf pair isPair).mpr ⟨free, satisfied⟩)
    obtain ⟨row, isRow, picked⟩ := choice.picks _ someRow
    have stored : row ∈ stock.stored.map Prod.fst := by
      rw [stock.rows]
      exact (List.mem_filter.mp (List.mem_filter.mp isRow).1).1
    obtain ⟨chosen, isChosen, rfl⟩ := List.mem_map.mp stored
    refine ⟨chosen.2, List.mem_map_of_mem isChosen, ?_, (rowOf chosen isChosen).mp isRow⟩
    unfold PostgresWorkerRegistry.findReadyWorker
    rw [picked]
    dsimp only
    rw [stock.restores chosen isChosen]
    rfl

end

/-! ## A busy worker -/

open RegistryCall (busyRow busyTable)

def busyWorker : Worker (plainWorkerSerde dockerHandle defaultSpec) :=
  .fromDatabase dockerHandle defaultSpec .busy busyRow.currentJobId busyRow.lastHeartbeat 0 2 2

def busyStock : WorkerStock (plainWorkerSerde dockerHandle defaultSpec) fun _ => 2 where
  table := busyTable
  stored := [(busyRow, busyWorker)]
  rows := rfl
  restores pair member := by
    rw [List.mem_singleton.mp member]
    rfl
  providerId pair member := by
    rw [List.mem_singleton.mp member]
    rfl
  providerType pair member := by
    rw [List.mem_singleton.mp member]
    rfl

/-- It is found by a filter for workers that accept jobs. -/
theorem busy_worker_found_accepting_jobs :
    ¬FindsBy busyStock 2 FullWorkerFilter.new.acceptingJobs := by
  intro finds
  obtain ⟨found, isFound, same⟩ := find_eq_selected busyStock FullWorkerFilter.new.acceptingJobs
  obtain ⟨other, isOther, satisfied⟩ := finds.found
  rw [isFound] at isOther
  cases isOther
  have heeded := (selected_perm_iff busyStock FullWorkerFilter.new.acceptingJobs 2).mp
    (same.symm.trans satisfied) (busyRow, busyWorker) (List.mem_singleton.mpr rfl)
  exact absurd (heeded.read (by decide)).2 (by decide)

end HodeiJobs.Persistence
