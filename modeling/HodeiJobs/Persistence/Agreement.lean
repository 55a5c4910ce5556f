import HodeiJobs.Persistence.JobReaders

/-!
# Agreement of the readers

`find_by_id` selects every column and knows every state. A reader agrees with it on the
rows it selects, unless it leaves out the name, or it is `dequeue`, whose decoder does not
know the state that `dequeue` has just stored.
-/

namespace HodeiJobs.Persistence

open HodeiJobs.Library HodeiJobs.Shared
open HodeiJobs.Sagas (Json)

/-! ## Calls -/

inductive ReadCall where
  | dequeue (choice : Nat)
  | findByState (state : JobState)
  | findPending
  | findAll (limit offset : Nat)
  | find (filter : JobRepository.JobsFilter)
  | findByExecutionId (print : Json → String) (executionId : String)

namespace ReadCall

open JobRepository (rowsByState pendingRows allRows filteredRows rowsByExecutionId)

variable (serde : Serde) (tables : JobTables)

/-- The jobs that the call returns. -/
def result : ReadCall → Except ReadError (List (Job serde))
  | .dequeue choice => (JobQueue.dequeue serde tables choice).1.map Option.toList
  | .findByState state => JobRepository.findByState serde tables state
  | .findPending => JobRepository.findPending serde tables
  | .findAll limit offset => (JobRepository.findAll serde tables limit offset).map Prod.fst
  | .find filter => JobRepository.find serde tables filter
  | .findByExecutionId print executionId =>
      (JobRepository.findByExecutionId serde tables print executionId).map Option.toList

/-- The rows that the statement of the call returns. -/
def statement : ReadCall → Except ReadError (List JobRow)
  | .dequeue choice => .ok (tables.dequeue choice).1.toList
  | .findByState state => .ok (rowsByState tables state)
  | .findPending => .ok (pendingRows tables)
  | .findAll limit offset => allRows tables limit offset
  | .find filter => filteredRows tables filter
  | .findByExecutionId print executionId =>
      .ok (rowsByExecutionId tables print executionId).head?.toList

def selected (call : ReadCall) : List JobRow := (call.statement tables).toOption.getD []

/-- What the call makes of one of these rows. -/
def read : ReadCall → JobRow → Except ReadError (Job serde)
  | .dequeue _ => JobQueue.mapRowToJob serde everyColumn
  | .findByState _ => JobRepository.mapRowToJob serde everyColumn
  | .findPending | .findAll _ _ | .find _ | .findByExecutionId _ _ =>
      JobRepository.mapRowToJob serde columnsWithoutName

/-- The tables when the call has returned. -/
def after : ReadCall → JobTables
  | .dequeue choice => (tables.dequeue choice).2
  | _ => tables

/-- Every selected row is read as `find_by_id` reads it, and the call does not panic. -/
structure Agrees (call : ReadCall) : Prop where
  same : ∀ row ∈ call.selected tables,
    (call.read serde row).map some = JobRepository.findById serde (call.after tables) row.id
  returns : ∀ column, call.result serde tables ≠ .error (.panicked column)

/-- The JSON of the row can be decoded. -/
structure Decodable (row : JobRow) : Prop where
  spec : ∃ spec, serde.specFromValue row.spec = .ok spec
  executionContext : ∀ value ∈ row.executionContext,
    ∃ context, serde.contextFromValue value = .ok context
  result : ∀ value ∈ row.result, ∃ result, serde.resultFromValue value = .ok result

/-- The database refuses the page, or it lies behind the last row. -/
def EmptyPage (limit offset : Int) (count : Nat) : Prop :=
  limit ≤ 0 ∨ offset < 0 ∨ count ≤ offset.toNat

/-- A `dequeue` claims no row that can be decoded, and the readers that leave out the
name select no row. -/
def SelectsLittle : ReadCall → Prop
  | .dequeue choice => ∀ row, tables.claim choice = some row → ¬Decodable serde row
  | .findByState _ | .findByExecutionId _ _ => True
  | .findPending => ∀ row ∈ tables.jobs.rows, row.state ≠ "PENDING"
  | .findAll limit offset => EmptyPage (asI64 limit) (asI64 offset) tables.jobs.rows.length
  | .find filter =>
      (∀ row ∈ tables.jobs.rows, filter.selects row = false) ∨
        ∃ limit, filter.limit = some limit ∧
          EmptyPage (asI64 limit) (asI64 (filter.offset.getD 0))
            (tables.jobs.rows.countP filter.selects)

end ReadCall

/-! ## The decoders -/

theorem deserialize_ok_iff {Value : Type} (what : String) (read : Except String Value) :
    (∃ value, deserialize what read = .ok value) ↔ ∃ value, read = .ok value := by
  cases read with
  | error problem => simp [deserialize]
  | ok value => simp [deserialize]

theorem deserialize_option_ok_iff {Value : Type} (what : String)
    (fromValue : Json → Except String Value) (stored : Option Json) :
    (∃ value, deserializeOption what fromValue stored = .ok value) ↔
      ∀ json ∈ stored, ∃ value, fromValue json = .ok value := by
  cases stored with
  | none => simp [deserializeOption]
  | some json =>
      cases read : fromValue json with
      | error problem => simp [deserializeOption, deserialize, read, Except.map]
      | ok value => simp [deserializeOption, deserialize, read, Except.map]

/-- The part of a row that is decoded the same way in both. -/
theorem map_row_eq (serde : Serde) (stateOf other : String → JobState) (row : JobRow) :
    mapRow serde stateOf everyColumn row =
      (mapRow serde other everyColumn row).map fun job =>
        { job with state := stateOf row.state } := by
  rw [map_row_every_column, map_row_every_column]
  cases deserialize "job spec" (serde.specFromValue row.spec) with
  | error problem => rfl
  | ok spec =>
      cases deserializeOption "execution context" serde.contextFromValue row.executionContext with
      | error problem => rfl
      | ok context =>
          cases deserializeOption "result" serde.resultFromValue row.result with
          | error problem => rfl
          | ok result => rfl

theorem map_row_state {serde : Serde} {stateOf : String → JobState} {row : JobRow}
    {job : Job serde} (read : mapRow serde stateOf everyColumn row = .ok job) :
    job.state = stateOf row.state := by
  obtain ⟨spec, context, result, -, -, -, decoded⟩ := map_row_ok read
  rw [decoded]
  rfl

theorem map_row_ok_iff (serde : Serde) (stateOf : String → JobState) (row : JobRow) :
    (∃ job, mapRow serde stateOf everyColumn row = .ok job) ↔ ReadCall.Decodable serde row := by
  have spec_iff := deserialize_ok_iff "job spec" (serde.specFromValue row.spec)
  have context_iff := deserialize_option_ok_iff "execution context" serde.contextFromValue
    row.executionContext
  have result_iff := deserialize_option_ok_iff "result" serde.resultFromValue row.result
  constructor
  · intro decoded
    obtain ⟨job, read⟩ := decoded
    obtain ⟨spec, context, result, specRead, contextRead, resultRead, -⟩ := map_row_ok read
    constructor
    · exact spec_iff.mp ⟨spec, specRead⟩
    · exact context_iff.mp ⟨context, contextRead⟩
    · exact result_iff.mp ⟨result, resultRead⟩
  · intro decodable
    obtain ⟨spec, specRead⟩ := spec_iff.mpr decodable.spec
    obtain ⟨context, contextRead⟩ := context_iff.mpr decodable.executionContext
    obtain ⟨result, resultRead⟩ := result_iff.mpr decodable.result
    use decodedJob stateOf row spec context result
    rw [map_row_every_column, specRead, contextRead, resultRead]
    rfl

theorem bind_not_panicked {First Second : Type} {first : Except ReadError First}
    {next : First → Except ReadError Second} {column : Column}
    (quiet : first ≠ .error (.panicked column))
    (then_quiet : ∀ value, next value ≠ .error (.panicked column)) :
    (first >>= next) ≠ .error (.panicked column) := by
  cases first with
  | error problem => exact fun same => quiet (by simpa [bind, Except.bind] using same)
  | ok value => exact then_quiet value

theorem deserialize_not_panicked {Value : Type} (what : String) (read : Except String Value)
    (column : Column) : deserialize what read ≠ .error (.panicked column) := by
  cases read with
  | error problem => simp [deserialize]
  | ok value => simp [deserialize]

theorem deserialize_option_not_panicked {Value : Type} (what : String)
    (fromValue : Json → Except String Value) (stored : Option Json) (column : Column) :
    deserializeOption what fromValue stored ≠ .error (.panicked column) := by
  cases stored with
  | none => simp [deserializeOption]
  | some value =>
      cases read : fromValue value with
      | error problem => simp [deserializeOption, deserialize, read, Except.map]
      | ok decoded => simp [deserializeOption, deserialize, read, Except.map]

theorem map_row_not_panicked (serde : Serde) (stateOf : String → JobState) (row : JobRow)
    (column : Column) : mapRow serde stateOf everyColumn row ≠ .error (.panicked column) := by
  rw [map_row_every_column]
  apply bind_not_panicked (deserialize_not_panicked _ _ column)
  intro spec
  apply bind_not_panicked (deserialize_option_not_panicked _ _ _ column)
  intro context
  apply bind_not_panicked (deserialize_option_not_panicked _ _ _ column)
  intro result
  simp [pure, Except.pure]

/-- Without the name in the select list the decoder panics at its second column. -/
theorem map_row_without_name (serde : Serde) (stateOf : String → JobState) (row : JobRow) :
    mapRow serde stateOf columnsWithoutName row = .error (.panicked .name) := by
  simp [mapRow, columnsWithoutName, getColumn, bind, Except.bind]

theorem find_by_id_row {serde : Serde} {tables : JobTables} {row : JobRow}
    (stored : row ∈ tables.jobs.rows) : JobRepository.findById serde tables row.id =
      (JobRepository.mapRowToJob serde everyColumn row).map some := by
  unfold JobRepository.findById
  rw [Table.find_of_mem stored]

theorem map_rows_not_panicked (serde : Serde) (stateOf : String → JobState) (rows : List JobRow)
    (column : Column) :
    rows.mapM (mapRow serde stateOf everyColumn) ≠ .error (.panicked column) := by
  induction rows with
  | nil => simp [pure, Except.pure]
  | cons row rest ih =>
      rw [List.mapM_cons]
      apply bind_not_panicked (map_row_not_panicked serde stateOf row column)
      intro job
      apply bind_not_panicked ih
      intro jobs
      simp [pure, Except.pure]

theorem map_rows_without_name (serde : Serde) (stateOf : String → JobState)
    (rows : List JobRow) :
    (∀ column, rows.mapM (mapRow serde stateOf columnsWithoutName) ≠ .error (.panicked column)) ↔
      rows = [] := by
  cases rows with
  | nil => simp [pure, Except.pure]
  | cons row rest =>
      rw [List.mapM_cons, map_row_without_name]
      simp [bind, Except.bind]

theorem map_some_injective {Value : Type} {read other : Except ReadError Value}
    (same : read.map some = other.map some) : read = other := by
  cases read with
  | error problem => cases other with
    | error problem' => simpa [Except.map] using same
    | ok value => simp [Except.map] at same
  | ok value => cases other with
    | error problem => simp [Except.map] at same
    | ok value' => simpa [Except.map] using same

/-! ## What `dequeue` returns -/

theorem dequeue_row (tables : JobTables) (choice : Nat) :
    (tables.dequeue choice).1 = tables.claim choice := by
  unfold JobTables.dequeue
  cases tables.claim choice with
  | none => rfl
  | some row => rfl

/-- The row that `dequeue` returns is the row it has stored. -/
theorem dequeue_row_stored {tables : JobTables} {choice : Nat} {row : JobRow}
    (claimed : tables.claim choice = some row) :
    row.state = "ASSIGNED" ∧ (tables.dequeue choice).2.jobs.find row.id = some row := by
  obtain ⟨before, queued, stored, -, -, same⟩ := JobTables.claim_some claimed
  unfold JobTables.dequeue
  rw [claimed, same]
  constructor
  · rfl
  · simp only [JobTables.setState]
    rw [Table.find_update, if_pos rfl, stored]
    rfl

/-- Its decoder takes the stored state for a failed one. -/
theorem dequeue_reads_failed {serde : Serde} {row : JobRow} (assigned : row.state = "ASSIGNED") :
    JobQueue.mapRowToJob serde everyColumn row =
      (JobRepository.mapRowToJob serde everyColumn row).map fun job =>
        { job with state := .failed } := by
  have same := map_row_eq serde JobQueue.stringToState stringToState row
  rw [assigned] at same
  exact same

theorem dequeue_reads_alike_iff {serde : Serde} {row : JobRow}
    (assigned : row.state = "ASSIGNED") :
    JobQueue.mapRowToJob serde everyColumn row = JobRepository.mapRowToJob serde everyColumn row ↔
      ¬ReadCall.Decodable serde row := by
  rw [dequeue_reads_failed assigned, ← map_row_ok_iff serde stringToState]
  change _ ↔ ¬∃ job, JobRepository.mapRowToJob serde everyColumn row = .ok job
  cases read : JobRepository.mapRowToJob serde everyColumn row with
  | error problem => simp [Except.map]
  | ok job =>
      have state : job.state = .assigned := by
        rw [map_row_state read, assigned]
        rfl
      constructor
      · intro same
        have states := congrArg Job.state (Except.ok.inj same)
        rw [state] at states
        cases states
      · intro never
        exact absurd ⟨job, rfl⟩ never

/-! ## Rows written by `save` -/

/-- The tables after any sequence of saves. -/
def savedTables {serde : Serde} (jobs : List (Job serde)) : JobTables :=
  jobs.foldl (fun tables job => (tables.save job).2) .empty

/-- No stored context has the key that `find_by_execution_id` looks for. -/
def ContextsUnkeyed (tables : JobTables) : Prop :=
  ∀ row ∈ tables.jobs.rows, ∀ print, row.executionContext.bind
    (JobRepository.textOfKey print "execution_id") = none

theorem text_of_missing_key {print : Json → String} {key : String}
    {entries : List (String × Json)} (missing : key ∉ entries.map Prod.fst) :
    JobRepository.textOfKey print key (.object entries) = none := by
  have absent : entries.lookup key = none := by
    rw [List.lookup_eq_none_iff]
    intro entry member
    rw [bne_iff_ne]
    intro same
    apply missing
    rw [same]
    exact List.mem_map_of_mem member
  simp [JobRepository.textOfKey, absent]

theorem row_context_unkeyed {serde : Serde} {job : Job serde} {row : JobRow}
    (written : JobRow.ofJob job = .ok row) (print : Json → String) :
    row.executionContext.bind (JobRepository.textOfKey print "execution_id") = none := by
  obtain ⟨-, -, stored, -⟩ := of_job_ok written
  cases kept : job.executionContext with
  | none =>
      rw [kept] at stored
      rw [← Except.ok.inj stored]
      rfl
  | some context =>
      rw [kept] at stored
      cases value : serde.contextToValue context with
      | error problem => simp [serializeOption, serialize, value, Except.map] at stored
      | ok json =>
          simp only [serializeOption, serialize, value, Except.map, Except.ok.injEq] at stored
          obtain ⟨entries, object, keys⟩ := serde.contextKeys context json value
          rw [← stored, object]
          apply text_of_missing_key
          rw [keys.mem_iff]
          decide

theorem save_row_jobs (tables : JobTables) (state : JobState) (row : JobRow) :
    (tables.saveRow state row).jobs = tables.jobs.upsert row := by
  cases state with
  | pending =>
      simp only [JobTables.saveRow, JobTables.insertIntoQueue]
      split
      · rfl
      · rfl
  | _ => rfl

/-- Every row is what `save` has bound for one of the jobs. -/
theorem saved_row_bound {serde : Serde} (jobs : List (Job serde)) :
    ∀ row ∈ (savedTables jobs).jobs.rows, ∃ job ∈ jobs, JobRow.ofJob job = .ok row := by
  have start : ∀ row ∈ JobTables.empty.jobs.rows, ∃ job ∈ jobs, JobRow.ofJob job = .ok row := by
    intro row member
    cases member
  refine List.foldlRecOn (motive := fun tables : JobTables =>
    ∀ row ∈ tables.jobs.rows, ∃ job ∈ jobs, JobRow.ofJob job = .ok row) jobs _ start ?_
  intro tables bound job isJob
  unfold JobTables.save
  cases written : JobRow.ofJob job with
  | error problem => exact bound
  | ok row =>
      intro other member
      simp only [save_row_jobs] at member
      cases Table.mem_upsert member with
      | inl same =>
          rw [same]
          exact ⟨job, isJob, written⟩
      | inr old => exact bound other old

theorem saved_contexts_unkeyed {serde : Serde} (jobs : List (Job serde)) :
    ContextsUnkeyed (savedTables jobs) := by
  intro row member print
  obtain ⟨job, _, written⟩ := saved_row_bound jobs row member
  exact row_context_unkeyed written print

theorem no_rows_by_execution_id {tables : JobTables} (unkeyed : ContextsUnkeyed tables)
    (print : Json → String) (executionId : String) :
    JobRepository.rowsByExecutionId tables print executionId = [] := by
  unfold JobRepository.rowsByExecutionId
  rw [List.filter_eq_nil_iff]
  intro row member
  simp [unkeyed row member print]

/-! ## The readers one by one -/

section

open ReadCall (Agrees)
open JobRepository (rowsByState pendingRows allRows filteredRows rowsByExecutionId)

variable {serde : Serde} {tables : JobTables}

/-- A call returns what it makes of the rows that its statement returns. -/
theorem result_eq (call : ReadCall) :
    call.result serde tables = call.statement tables >>= fun rows =>
      rows.mapM (call.read serde) := by
  cases call with
  | findByState state => rfl
  | findPending => rfl
  | find filter => rfl
  | findAll limit offset =>
      simp only [ReadCall.result, ReadCall.statement, JobRepository.findAll]
      cases allRows tables limit offset with
      | error problem => rfl
      | ok rows =>
          simp only [bind, Except.bind, ReadCall.read]
          cases rows.mapM (JobRepository.mapRowToJob serde columnsWithoutName) with
          | error problem => rfl
          | ok jobs => rfl
  | dequeue choice =>
      simp only [ReadCall.result, ReadCall.statement, JobQueue.dequeue]
      rcases tables.dequeue choice with ⟨_ | row, after⟩
      · rfl
      · simp only [Option.toList_some, bind, Except.bind, ReadCall.read, List.mapM_cons,
          List.mapM_nil]
        cases JobQueue.mapRowToJob serde everyColumn row with
        | error problem => rfl
        | ok job => rfl
  | findByExecutionId print executionId =>
      simp only [ReadCall.result, ReadCall.statement, JobRepository.findByExecutionId]
      cases (rowsByExecutionId tables print executionId).head? with
      | none => rfl
      | some row =>
          simp only [Option.toList_some, bind, Except.bind, ReadCall.read, List.mapM_cons,
            List.mapM_nil]
          cases JobRepository.mapRowToJob serde columnsWithoutName row with
          | error problem => rfl
          | ok job => rfl

theorem page_not_panicked (what : String) (limit offset : Int) (rows : List JobRow)
    (column : Column) : JobRepository.page what limit offset rows ≠ .error (.panicked column) := by
  unfold JobRepository.page
  split
  · simp
  · split
    · simp
    · simp

theorem statement_not_panicked (call : ReadCall) (column : Column) :
    call.statement tables ≠ .error (.panicked column) := by
  cases call with
  | findAll limit offset => exact page_not_panicked _ (asI64 limit) _ _ column
  | find filter =>
      simp only [ReadCall.statement, JobRepository.filteredRows]
      cases filter.limit with
      | none => simp
      | some limit => exact page_not_panicked _ (asI64 limit) _ _ column
  | _ => simp [ReadCall.statement]

/-- A reader that selects every column does not panic. -/
theorem every_column_returns {call : ReadCall} {stateOf : String → JobState}
    (reads : call.read serde = mapRow serde stateOf everyColumn) (column : Column) :
    call.result serde tables ≠ .error (.panicked column) := by
  rw [result_eq, reads]
  apply bind_not_panicked (statement_not_panicked call column)
  intro rows
  exact map_rows_not_panicked serde stateOf rows column

/-- A reader that leaves out the name agrees exactly when it selects no row. -/
theorem without_name_agrees_iff {call : ReadCall} {stateOf : String → JobState}
    (reads : call.read serde = mapRow serde stateOf columnsWithoutName) :
    Agrees serde tables call ↔ call.selected tables = [] := by
  have returns_iff : (∀ column, call.result serde tables ≠ .error (.panicked column)) ↔
      call.selected tables = [] := by
    rw [result_eq, reads, ReadCall.selected]
    have quiet : ∀ column, call.statement tables ≠ .error (.panicked column) :=
      statement_not_panicked call
    cases returned : call.statement tables with
    | error problem =>
        rw [returned] at quiet
        apply iff_of_true _ rfl
        intro column
        simpa [bind, Except.bind] using quiet column
    | ok rows => exact map_rows_without_name serde stateOf rows
  constructor
  · intro agrees
    exact returns_iff.mp agrees.returns
  · intro nothing
    constructor
    · intro row member
      simp [nothing] at member
    · exact returns_iff.mpr nothing

theorem find_by_state_agrees (state : JobState) : Agrees serde tables (.findByState state) where
  same row member := by
    have stored : row ∈ tables.jobs.rows :=
      (List.mem_filter.mp (List.mem_mergeSort.mp member)).1
    exact (find_by_id_row stored).symm
  returns := every_column_returns rfl

theorem find_by_execution_id_agrees (unkeyed : ContextsUnkeyed tables) (print : Json → String)
    (executionId : String) : Agrees serde tables (.findByExecutionId print executionId) := by
  apply (without_name_agrees_iff rfl).mpr
  simp [ReadCall.selected, ReadCall.statement, Except.toOption,
    no_rows_by_execution_id unkeyed print executionId]

theorem dequeue_agrees_iff (choice : Nat) : Agrees serde tables (.dequeue choice) ↔
    ∀ row, tables.claim choice = some row → ¬ReadCall.Decodable serde row := by
  have selected_eq : ReadCall.selected tables (.dequeue choice) = (tables.claim choice).toList := by
    rw [← dequeue_row]
    rfl
  constructor
  · intro agrees row claimed
    obtain ⟨assigned, stored⟩ := dequeue_row_stored claimed
    have same := agrees.same row (by simp [selected_eq, claimed])
    rw [← dequeue_reads_alike_iff assigned]
    simp only [ReadCall.read, ReadCall.after, JobRepository.findById, stored] at same
    exact map_some_injective same
  · intro undecoded
    constructor
    · intro row member
      rw [selected_eq, Option.mem_toList] at member
      obtain ⟨assigned, stored⟩ := dequeue_row_stored member
      simp only [ReadCall.read, ReadCall.after, JobRepository.findById, stored]
      rw [(dequeue_reads_alike_iff assigned).mpr (undecoded row member)]
    · exact every_column_returns rfl

end

/-! ## Agreement after any saves -/

theorem pending_rows_nil_iff (tables : JobTables) :
    JobRepository.pendingRows tables = [] ↔ ∀ row ∈ tables.jobs.rows, row.state ≠ "PENDING" := by
  unfold JobRepository.pendingRows JobRepository.oldestFirst
  rw [← List.length_eq_zero_iff, List.length_mergeSort, List.length_eq_zero_iff,
    List.filter_eq_nil_iff]
  simp

theorem page_nil_iff (what : String) (limit offset : Int) (rows : List JobRow) :
    (JobRepository.page what limit offset rows).toOption.getD [] = [] ↔
      ReadCall.EmptyPage limit offset rows.length := by
  unfold JobRepository.page ReadCall.EmptyPage
  by_cases noOffset : offset < 0
  · rw [if_pos noOffset]
    exact iff_of_true rfl (.inr (.inl noOffset))
  · rw [if_neg noOffset]
    by_cases noLimit : limit < 0
    · rw [if_pos noLimit]
      exact iff_of_true rfl (.inl noLimit.le)
    · rw [if_neg noLimit]
      simp only [Except.toOption, Option.getD_some, List.take_eq_nil_iff, List.drop_eq_nil_iff]
      omega

theorem filtered_rows_nil_iff (tables : JobTables) (filter : JobRepository.JobsFilter) :
    (JobRepository.filteredRows tables filter).toOption.getD [] = [] ↔
      (∀ row ∈ tables.jobs.rows, filter.selects row = false) ∨
        ∃ limit, filter.limit = some limit ∧
          ReadCall.EmptyPage (asI64 limit) (asI64 (filter.offset.getD 0))
            (tables.jobs.rows.countP filter.selects) := by
  have none_selected : tables.jobs.rows.countP filter.selects = 0 ↔
      ∀ row ∈ tables.jobs.rows, filter.selects row = false := by
    rw [List.countP_eq_zero]
    simp
  have count : (JobRepository.newestFirst (tables.jobs.rows.filter filter.selects)).length =
      tables.jobs.rows.countP filter.selects := by
    rw [JobRepository.newestFirst, List.length_mergeSort, List.countP_eq_length_filter]
  rw [← none_selected]
  unfold JobRepository.filteredRows
  cases filter.limit with
  | none =>
      simp only [Except.toOption, Option.getD_some, reduceCtorEq, false_and, exists_false, or_false]
      rw [← List.length_eq_zero_iff, count]
  | some limit =>
      simp only [page_nil_iff, count, Option.some.injEq, exists_eq_left']
      unfold ReadCall.EmptyPage
      omega

/-- On tables that saves have written, a reader agrees with `find_by_id` exactly when it
selects too little to disagree about. -/
theorem readers_agree_iff (serde : Serde) (jobs : List (Job serde)) (call : ReadCall) :
    call.Agrees serde (savedTables jobs) ↔ call.SelectsLittle serde (savedTables jobs) := by
  cases call with
  | dequeue choice => exact dequeue_agrees_iff choice
  | findByState state => exact iff_of_true (find_by_state_agrees state) trivial
  | findPending => exact (without_name_agrees_iff rfl).trans (pending_rows_nil_iff _)
  | findAll limit offset =>
      apply (without_name_agrees_iff rfl).trans
      unfold ReadCall.selected ReadCall.statement JobRepository.allRows
      rw [page_nil_iff, JobRepository.newestFirst, List.length_mergeSort]
      rfl
  | find filter => exact (without_name_agrees_iff rfl).trans (filtered_rows_nil_iff _ filter)
  | findByExecutionId print executionId =>
      exact iff_of_true
        (find_by_execution_id_agrees (saved_contexts_unkeyed jobs) print executionId) trivial

/-! ## One pending job -/

/-- `find_pending` panics on it, and `dequeue` takes it for a failed job. -/
theorem pending_job_is_misread :
    ¬ReadCall.Agrees (plainSerde ()) (savedTables [plainJob () .pending]) .findPending ∧
      ¬ReadCall.Agrees (plainSerde ()) (savedTables [plainJob () .pending]) (.dequeue 0) := by
  constructor
  · intro agrees
    have none_pending := (pending_rows_nil_iff _).mp ((without_name_agrees_iff rfl).mp agrees)
    exact none_pending _ List.mem_cons_self rfl
  · intro agrees
    have undecodable := (dequeue_agrees_iff 0).mp agrees _ rfl
    apply undecodable
    constructor
    · exact ⟨(), rfl⟩
    · intro value absent
      cases absent
    · intro value absent
      cases absent

end HodeiJobs.Persistence
