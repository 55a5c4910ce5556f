import HodeiJobs.Commands.Outbox
import HodeiJobs.Execution.Repositories

/-!
# The outbox of the command bus and its relay

What `OutboxCommandBus` writes for a command, what `CommandOutboxRelay` makes of it, and
the relay's passes over the table. The bus behind the relay answers as it likes.
-/

namespace HodeiJobs.Commands

open HodeiJobs.Library
open HodeiJobs.Execution (JobId UuidText)
open HodeiJobs.Sagas (Json JsonMap Uuid DateTime)

/-! ## The commands for jobs -/

structure CommandMetadataDefault where
  traceId : Option String
  sagaId : Option String
  createdAt : Option DateTime
  issuer : Option String

structure MarkJobFailedCommand where
  jobId : JobId
  reason : String
  metadata : CommandMetadataDefault

structure ResumeFromManualInterventionCommand where
  jobId : JobId
  resumeReason : Option String
  metadata : CommandMetadataDefault

inductive JobCommand where
  | markJobFailed (command : MarkJobFailedCommand)
  | resumeFromManualIntervention (command : ResumeFromManualInterventionCommand)

namespace JobCommand

def typeName : JobCommand → String
  | .markJobFailed _ => "hodei_server_domain::command::jobs::MarkJobFailedCommand"
  | .resumeFromManualIntervention _ =>
      "hodei_server_domain::command::jobs::ResumeFromManualInterventionCommand"

/-- What follows the last `::`, or else `current`. -/
def lastSegment (current : List Char) : List Char → List Char
  | [] => current
  | ':' :: ':' :: rest => lastSegment rest rest
  | _ :: rest => lastSegment current rest

/-- `Command::command_name`. -/
def commandName (command : JobCommand) : String :=
  String.ofList (lastSegment command.typeName.toList command.typeName.toList)

/-- Neither command overrides `target_type`. -/
def targetType (_ : JobCommand) : CommandTargetType := .saga

end JobCommand

/-! ## Writing a command -/

/-- What `OutboxCommandBus::dispatch_erased` inserts, with the target id that it draws and
the text of the type id. -/
def outboxInsert (targetId : Uuid) (typeId : String) (command : JobCommand) :
    CommandOutboxInsert where
  targetId := targetId
  targetType := command.targetType
  commandType := command.commandName
  payload := .object [("type_id", .string typeId)]
  metadata := none
  idempotencyKey := none

/-! ## Reading it back -/

/-- `to_string` of an error, with the text of the foreign error that it holds. -/
def CommandOutboxError.display (uuids : UuidText) (foreignText : String) :
    CommandOutboxError → String
  | .database => "Database error: " ++ foreignText
  | .serialization => "Serialization error: " ++ foreignText
  | .duplicateIdempotencyKey key => "Duplicate idempotency key: " ++ key
  | .notFound id => "Command not found: " ++ uuids.display id
  | .handlerError message => "Command handler error: " ++ message

/-- The values of the fields of a derived struct, in the order of the struct: those of an
object by name, those of an array of the same length by place. -/
def payloadFields (names : List String) : Json → Option (List (Option Json))
  | .object entries => some (names.map (JsonMap.get entries))
  | .array items => if items.length = names.length then some (items.map some) else none
  | _ => none

/-- `MarkJobFailedPayload`. -/
def markJobFailedPayload (payload : Json) : Except CommandOutboxError (String × String) :=
  match payloadFields ["job_id", "reason"] payload with
  | some [some (.string jobId), some (.string reason)] => .ok (jobId, reason)
  | _ => .error .serialization

/-- `ResumePayload`. -/
def resumePayload (payload : Json) : Except CommandOutboxError (String × Option String) :=
  match payloadFields ["job_id", "resume_reason"] payload with
  | some [some (.string jobId), some (.string reason)] => .ok (jobId, some reason)
  | some [some (.string jobId), some .null] => .ok (jobId, none)
  | some [some (.string jobId), none] => .ok (jobId, none)
  | _ => .error .serialization

section

variable (uuids : UuidText) (metadata : CommandMetadataDefault)

def parseJobId (jobId : String) : Except CommandOutboxError JobId :=
  match uuids.parse jobId with
  | some uuid => .ok ⟨uuid⟩
  | none => .error (.handlerError "Invalid job_id format")

/-- The command that `process_command` makes of a record. It has fresh metadata. -/
def decodeCommand (record : CommandOutboxRecord) : Except CommandOutboxError JobCommand :=
  if record.commandType = "MarkJobFailed" then do
    let (jobId, reason) ← markJobFailedPayload record.payload
    let jobId ← parseJobId uuids jobId
    return .markJobFailed ⟨jobId, reason, metadata⟩
  else if record.commandType = "ResumeFromManualIntervention" then do
    let (jobId, reason) ← resumePayload record.payload
    let jobId ← parseJobId uuids jobId
    return .resumeFromManualIntervention ⟨jobId, reason, metadata⟩
  else .error (.handlerError ("Unknown command type: " ++ record.commandType))

/-- `process_command`; the bus answers with an error or not. -/
def processCommand (bus : JobCommand → Option String) (record : CommandOutboxRecord) :
    Except CommandOutboxError Unit := do
  let command ← decodeCommand uuids metadata record
  match bus command with
  | none => return ()
  | some error => .error (.handlerError error)

end

/-! ## A command that goes through the table -/

theorem command_name_cases (command : JobCommand) :
    command.commandName = "MarkJobFailedCommand" ∨
      command.commandName = "ResumeFromManualInterventionCommand" := by
  cases command with
  | markJobFailed command =>
      left
      simp only [JobCommand.commandName, JobCommand.typeName]
      decide
  | resumeFromManualIntervention command =>
      right
      simp only [JobCommand.commandName, JobCommand.typeName]
      decide

/-- The relay knows neither name under which the bus writes a command. -/
theorem decode_outbox_insert (uuids : UuidText) (metadata : CommandMetadataDefault)
    (id targetId : Uuid) (typeId : String) (now : DateTime) (maxRetries : Int)
    (command : JobCommand) :
    decodeCommand uuids metadata
        (CommandTable.insertedRow id now maxRetries
          (outboxInsert targetId typeId command)).toCommandOutboxRecord =
      .error (.handlerError ("Unknown command type: " ++ command.commandName)) := by
  have written : (CommandTable.insertedRow id now maxRetries
      (outboxInsert targetId typeId command)).commandType = command.commandName := rfl
  unfold decodeCommand
  rw [written]
  rcases command_name_cases command with name | name <;> rw [name]
  · rw [if_neg (by decide), if_neg (by decide)]
  · rw [if_neg (by decide), if_neg (by decide)]

/-- The payload that the bus writes has no field of a command. -/
theorem payload_of_outbox_insert (targetId : Uuid) (typeId : String) (command : JobCommand) :
    markJobFailedPayload (outboxInsert targetId typeId command).payload =
        .error .serialization ∧
      resumePayload (outboxInsert targetId typeId command).payload = .error .serialization :=
  ⟨rfl, rfl⟩

/-- No command that the bus writes survives the way through the table: its record is handed
to no handler, and its payload would not decode in either arm of the relay. -/
theorem outbox_record_never_decodes (uuids : UuidText) (metadata : CommandMetadataDefault)
    (id targetId : Uuid) (typeId : String) (now : DateTime) (maxRetries : Int)
    (command : JobCommand) (bus : JobCommand → Option String) :
    let record := (CommandTable.insertedRow id now maxRetries
      (outboxInsert targetId typeId command)).toCommandOutboxRecord
    decodeCommand uuids metadata record ≠ .ok command ∧
      processCommand uuids metadata bus record =
        .error (.handlerError ("Unknown command type: " ++ command.commandName)) ∧
      markJobFailedPayload record.payload = .error .serialization ∧
      resumePayload record.payload = .error .serialization := by
  intro record
  have unknown : decodeCommand uuids metadata record =
      .error (.handlerError ("Unknown command type: " ++ command.commandName)) :=
    decode_outbox_insert uuids metadata id targetId typeId now maxRetries command
  refine ⟨?_, ?_, payload_of_outbox_insert targetId typeId command⟩
  · rw [unknown]
    exact fun same => by cases same
  · unfold processCommand
    rw [unknown]
    rfl

theorem length_zeros (count : Nat) :
    some (String.ofList (List.replicate count '0')).length = some count := by
  rw [String.length_ofList, List.length_replicate]

/-- UUIDs that are written as so many zeros. -/
def zerosText : UuidText where
  display id := String.ofList (List.replicate id '0')
  parse text := some text.length
  parse_display := length_zeros

def someMetadata : CommandMetadataDefault := ⟨none, none, none, none⟩

def timedOut : JobCommand := .markJobFailed ⟨⟨1⟩, "timeout", someMetadata⟩

theorem timed_out_does_not_decode :
    decodeCommand zerosText someMetadata
      (CommandTable.insertedRow 3 0 3
        (outboxInsert 2 "TypeId(0x1)" timedOut)).toCommandOutboxRecord ≠ .ok timedOut := by
  rw [decode_outbox_insert]
  exact fun same => by cases same

/-! ## Passes over the table -/

/-- The answer of a marking call. One that fails may have changed the row. -/
inductive MarkAnswer where
  | done
  | failed (changed : Bool)
  deriving DecidableEq

/-- Marks in order up to the first call that fails, with the calls that were made. -/
def markAll (now : DateTime) (answer : Uuid → MarkAnswer) :
    List (Uuid × Option String) → CommandTable →
      CommandTable × List Uuid × Except CommandOutboxError Unit
  | [], table => (table, [], .ok ())
  | (id, error) :: rest, table =>
      let marked := table.mark now id error
      match answer id with
      | .done =>
          let (table, calls, result) := markAll now answer rest marked
          (table, id :: calls, result)
      | .failed changed => (if changed then marked else table, [id], .error .database)

/-- What the repository and the bus answer in one pass. -/
structure PassAnswers where
  fetches : Bool
  now : DateTime
  metadata : Uuid → CommandMetadataDefault
  bus : Uuid → JobCommand → Option String
  markCompleted : Uuid → MarkAnswer
  markFailed : Uuid → MarkAnswer
  foreignText : String

structure CommandOutboxRelay where
  batchSize : Nat
  maxRetries : Int

/-- A dispatch, and the answer of `mark_completed` if it was called for the command. -/
structure Attempt where
  id : Uuid
  succeeded : Bool
  marking : Option MarkAnswer
  deriving DecidableEq

structure PassResult where
  table : CommandTable
  attempts : List Attempt
  result : Except CommandOutboxError Unit

namespace CommandOutboxRelay

variable (uuids : UuidText) (relay : CommandOutboxRelay) (answers : PassAnswers)
  (table : CommandTable)

def pending : List CommandOutboxRecord :=
  table.getPendingCommands relay.batchSize relay.maxRetries

def dispatch (record : CommandOutboxRecord) : Except CommandOutboxError Unit :=
  processCommand uuids (answers.metadata record.id) (answers.bus record.id) record

def completedIds : List Uuid :=
  ((relay.pending table).filter fun record => (dispatch uuids answers record).isOk).map
    CommandOutboxRecord.id

def failedIds : List (Uuid × Option String) :=
  (relay.pending table).filterMap fun record =>
    match dispatch uuids answers record with
    | .ok () => none
    | .error error => some (record.id, some (error.display uuids answers.foreignText))

/-- `process_pending_commands`: all commands are dispatched before the first is marked. -/
def processPendingCommands : PassResult :=
  if !answers.fetches then ⟨table, [], .error .database⟩
  else
    let completing := markAll answers.now answers.markCompleted
      ((relay.completedIds uuids answers table).map fun id => (id, none)) table
    let attempts := (relay.pending table).map fun record =>
      { id := record.id
        succeeded := (dispatch uuids answers record).isOk
        marking :=
          if record.id ∈ completing.2.1 then some (answers.markCompleted record.id) else none }
    match completing.2.2 with
    | .error error => ⟨completing.1, attempts, .error error⟩
    | .ok () =>
        let failing := markAll answers.now answers.markFailed
          (relay.failedIds uuids answers table) completing.1
        ⟨failing.1, attempts, failing.2.2⟩

end CommandOutboxRelay

/-! ## What the marking loops do -/

/-- The commands that a marking loop does not reach: those behind the first failed call. -/
def unreached (answer : Uuid → MarkAnswer) (ids : List Uuid) : List Uuid :=
  (ids.dropWhile fun id => decide (answer id = .done)).tail

section

variable (now : DateTime) (answer : Uuid → MarkAnswer)

/-- Every command of the loop is either marked or not reached. -/
theorem mark_all_calls (items : List (Uuid × Option String)) (table : CommandTable) :
    (markAll now answer items table).2.1 ++ unreached answer (items.map Prod.fst) =
      items.map Prod.fst := by
  induction items generalizing table with
  | nil => rfl
  | cons item rest ih =>
      obtain ⟨id, error⟩ := item
      cases answered : answer id with
      | done =>
          have later := ih (table.mark now id error)
          simp only [markAll, answered, unreached, List.map_cons, List.dropWhile_cons,
            decide_true, if_true, List.cons_append] at later ⊢
          rw [later]
      | failed changed =>
          simp [markAll, answered, unreached]

theorem mark_all_frame (items : List (Uuid × Option String)) (table : CommandTable)
    {wanted : Uuid} (other : wanted ∉ items.map Prod.fst) :
    (markAll now answer items table).1.find wanted = table.find wanted := by
  induction items generalizing table with
  | nil => rfl
  | cons item rest ih =>
      obtain ⟨id, error⟩ := item
      rw [List.map_cons, List.mem_cons, not_or] at other
      have marked : (table.mark now id error).find wanted = table.find wanted := by
        rw [CommandTable.find_mark, if_neg other.1]
      cases answered : answer id with
      | done =>
          simp only [markAll, answered]
          rw [ih _ other.2, marked]
      | failed changed =>
          simp only [markAll, answered]
          split_ifs
          · exact marked
          · rfl

theorem mark_all_done (items : List (Uuid × Option String)) (table : CommandTable)
    (distinct : (items.map Prod.fst).Nodup) {id : Uuid} {error : Option String}
    (member : (id, error) ∈ items) (called : id ∈ (markAll now answer items table).2.1)
    (done : answer id = .done) :
    (markAll now answer items table).1.find id =
      (table.find id).map (CommandTable.markedRow now error) := by
  induction items generalizing table with
  | nil => cases member
  | cons item rest ih =>
      obtain ⟨first, firstError⟩ := item
      obtain ⟨apart, distinctRest⟩ := List.nodup_cons.mp distinct
      rcases List.mem_cons.mp member with same | later
      · obtain ⟨rfl, rfl⟩ := Prod.mk.inj same
        simp only [markAll, done]
        rw [mark_all_frame now answer rest _ apart, CommandTable.find_mark, if_pos rfl]
      · have different : id ≠ first := by
          intro same
          exact apart (List.mem_map.mpr ⟨(id, error), later, same⟩)
        cases answered : answer first with
        | done =>
            simp only [markAll, answered, List.mem_cons, different, false_or] at called ⊢
            rw [ih _ distinctRest later called, CommandTable.find_mark, if_neg different]
        | failed changed =>
            simp only [markAll, answered, List.mem_singleton] at called
            exact absurd called different

end

/-! ## What a pass does -/

namespace CommandOutboxRelay

section

variable {uuids : UuidText} {relay : CommandOutboxRelay} {answers : PassAnswers}
  {table : CommandTable}

theorem mem_completed_ids {id : Uuid} :
    id ∈ relay.completedIds uuids answers table ↔
      ∃ record ∈ relay.pending table, record.id = id ∧
        (dispatch uuids answers record).isOk = true := by
  simp only [completedIds, List.mem_map, List.mem_filter]
  constructor
  · intro ⟨record, ⟨member, succeeds⟩, same⟩
    exact ⟨record, member, same, succeeds⟩
  · intro ⟨record, member, same, succeeds⟩
    exact ⟨record, ⟨member, succeeds⟩, same⟩

theorem mem_failed_ids {id : Uuid}
    (failed : id ∈ (relay.failedIds uuids answers table).map Prod.fst) :
    ∃ record ∈ relay.pending table, record.id = id ∧
      (dispatch uuids answers record).isOk = false := by
  obtain ⟨item, member, same⟩ := List.mem_map.mp failed
  obtain ⟨record, pending, given⟩ := List.mem_filterMap.mp member
  cases result : dispatch uuids answers record with
  | ok value => rw [result] at given; cases given
  | error error =>
      rw [result] at given
      cases given
      exact ⟨record, pending, same, by rw [result]; rfl⟩

theorem pending_unique {record other : CommandOutboxRecord} (member : record ∈ relay.pending table)
    (isOther : other ∈ relay.pending table) (same : record.id = other.id) : record = other :=
  List.inj_on_of_nodup_map
    (CommandTable.nodup_get_pending table relay.batchSize relay.maxRetries) member isOther same

theorem nodup_completed_ids : (relay.completedIds uuids answers table).Nodup :=
  List.Nodup.sublist (List.filter_sublist.map _)
    (CommandTable.nodup_get_pending table relay.batchSize relay.maxRetries)

/-- A command that a pass does not dispatch keeps its row. -/
theorem process_frame {id : Uuid} (other : ∀ record ∈ relay.pending table, record.id ≠ id) :
    (relay.processPendingCommands uuids answers table).table.find id = table.find id := by
  have notCompleted : id ∉ ((relay.completedIds uuids answers table).map
      fun id => (id, (none : Option String))).map Prod.fst := by
    rw [List.map_map]
    intro member
    obtain ⟨completed, isCompleted, same⟩ := List.mem_map.mp member
    obtain ⟨record, pending, sameId, -⟩ := mem_completed_ids.mp isCompleted
    exact other record pending (sameId.trans same)
  have notFailed : id ∉ (relay.failedIds uuids answers table).map Prod.fst := by
    intro member
    obtain ⟨record, pending, same, -⟩ := mem_failed_ids member
    exact other record pending same
  unfold processPendingCommands
  split_ifs
  · rfl
  · dsimp only
    split
    · exact mark_all_frame _ _ _ _ notCompleted
    · exact (mark_all_frame _ _ _ _ notFailed).trans (mark_all_frame _ _ _ _ notCompleted)

variable (uuids relay table) in
/-- The attempts of a pass: one for each command that it fetched. -/
theorem process_attempts (fetches : answers.fetches = true) :
    (relay.processPendingCommands uuids answers table).attempts =
      (relay.pending table).map fun record =>
        { id := record.id
          succeeded := (dispatch uuids answers record).isOk
          marking :=
            if record.id ∈ (markAll answers.now answers.markCompleted
                ((relay.completedIds uuids answers table).map fun id => (id, none))
                table).2.1 then
              some (answers.markCompleted record.id)
            else none } := by
  unfold processPendingCommands
  rw [if_neg (by simp [fetches])]
  dsimp only
  split <;> rfl

theorem process_no_attempts (fails : answers.fetches = false) :
    (relay.processPendingCommands uuids answers table).attempts = [] := by
  unfold processPendingCommands
  rw [if_pos (by simp [fails])]

theorem completed_items :
    ((relay.completedIds uuids answers table).map fun id => (id, (none : Option String))).map
      Prod.fst = relay.completedIds uuids answers table := by
  rw [List.map_map]
  exact List.map_id _

/-- Of the executed commands, those are not reached for which no mark was made. -/
theorem mem_unreached_iff (id : Uuid) :
    id ∈ unreached answers.markCompleted (relay.completedIds uuids answers table) ↔
      id ∈ relay.completedIds uuids answers table ∧
        id ∉ (markAll answers.now answers.markCompleted
          ((relay.completedIds uuids answers table).map fun id => (id, none)) table).2.1 := by
  have calls := mark_all_calls answers.now answers.markCompleted
    ((relay.completedIds uuids answers table).map fun id => (id, none)) table
  rw [completed_items] at calls
  have distinct : (relay.completedIds uuids answers table).Nodup := nodup_completed_ids
  rw [← calls, List.nodup_append] at distinct
  constructor
  · intro skipped
    constructor
    · rw [← calls]
      exact List.mem_append_right _ skipped
    · intro called
      exact distinct.2.2 id called id skipped rfl
  · intro ⟨completed, uncalled⟩
    rw [← calls] at completed
    exact (List.mem_append.mp completed).resolve_left uncalled

variable (uuids relay table) in
theorem mem_unreached_iff_attempt (fetches : answers.fetches = true) (id : Uuid) :
    id ∈ unreached answers.markCompleted (relay.completedIds uuids answers table) ↔
      ∃ attempt ∈ (relay.processPendingCommands uuids answers table).attempts,
        attempt.id = id ∧ attempt.succeeded = true ∧ attempt.marking = none := by
  rw [mem_unreached_iff, mem_completed_ids, process_attempts uuids relay table fetches]
  constructor
  · intro ⟨⟨record, pending, same, succeeds⟩, uncalled⟩
    subst same
    exact ⟨_, List.mem_map_of_mem pending, rfl, succeeds, if_neg uncalled⟩
  · intro ⟨attempt, member, same, succeeds, unmarked⟩
    obtain ⟨record, pending, made⟩ := List.mem_map.mp member
    subst made
    subst same
    refine ⟨⟨record, pending, rfl, succeeds⟩, ?_⟩
    intro called
    dsimp only at unmarked
    rw [if_pos called] at unmarked
    cases unmarked

/-- A command whose mark was made is completed in the table. -/
theorem process_marked {attempt : Attempt}
    (member : attempt ∈ (relay.processPendingCommands uuids answers table).attempts)
    (succeeds : attempt.succeeded = true) (done : attempt.marking = some .done) :
    ∃ row, (relay.processPendingCommands uuids answers table).table.find attempt.id = some row ∧
      row.status = .completed := by
  cases fetches : answers.fetches with
  | false =>
      rw [process_no_attempts fetches] at member
      cases member
  | true =>
      rw [process_attempts uuids relay table fetches] at member
      obtain ⟨record, pending, made⟩ := List.mem_map.mp member
      subst made
      dsimp only at succeeds done ⊢
      split_ifs at done with called
      have completed : record.id ∈ relay.completedIds uuids answers table :=
        mem_completed_ids.mpr ⟨record, pending, rfl, succeeds⟩
      obtain ⟨row, found, -⟩ := CommandTable.mem_get_pending pending
      have marked := mark_all_done answers.now answers.markCompleted
        ((relay.completedIds uuids answers table).map fun id => (id, none)) table
        (by rw [completed_items]; exact nodup_completed_ids)
        (List.mem_map_of_mem completed) called (Option.some.inj done)
      rw [found, Option.map_some] at marked
      have notFailed : record.id ∉ (relay.failedIds uuids answers table).map Prod.fst := by
        intro failed
        obtain ⟨other, isOther, same, fails⟩ := mem_failed_ids failed
        rw [pending_unique isOther pending same, succeeds] at fails
        cases fails
      refine ⟨CommandTable.markedRow answers.now none row, ?_, rfl⟩
      unfold processPendingCommands
      rw [if_neg (by simp [fetches])]
      dsimp only
      split
      · exact marked
      · exact (mark_all_frame _ _ _ _ notFailed).trans marked

end

end CommandOutboxRelay

/-! ## Runs of passes -/

/-- The table, every dispatch so far, and the commands that a pass has executed but not
reached with its marks. -/
structure RelayRun where
  table : CommandTable
  attempts : List Attempt
  skipped : List Uuid

inductive RelayMove where
  | insert (id : Uuid) (now : DateTime) (maxRetries : Int) (command : CommandOutboxInsert)
  | pass (answers : PassAnswers)

namespace RelayRun

variable (uuids : UuidText) (relay : CommandOutboxRelay)

def start (table : CommandTable) : RelayRun := ⟨table, [], []⟩

def step (run : RelayRun) : RelayMove → RelayRun
  | .insert id now maxRetries command =>
      { run with table := (run.table.insertCommand id now maxRetries command).1 }
  | .pass answers =>
      let result := relay.processPendingCommands uuids answers run.table
      { table := result.table
        attempts := run.attempts ++ result.attempts
        skipped :=
          if answers.fetches then
            run.skipped ++
              unreached answers.markCompleted (relay.completedIds uuids answers run.table)
          else run.skipped }

/-- A pass dispatches a command that was executed before only if its own mark was made
and failed. -/
def RedispatchesFailedMarks (run : RelayRun) : RelayMove → Prop
  | .insert _ _ _ _ => True
  | .pass answers =>
      ∀ attempt ∈ (relay.processPendingCommands uuids answers run.table).attempts,
        ∀ earlier ∈ run.attempts, earlier.id = attempt.id → earlier.succeeded = true →
          ∃ changed, earlier.marking = some (.failed changed)

/-- A pass that fetches at all fetches no command that an earlier pass has skipped. -/
def FetchesNoSkipped (run : RelayRun) : RelayMove → Prop
  | .insert _ _ _ _ => True
  | .pass answers =>
      answers.fetches = true → ∀ record ∈ relay.pending run.table, record.id ∉ run.skipped

/-- What the earlier attempts say about the rows. -/
structure Recorded (run : RelayRun) : Prop where
  marked : ∀ attempt ∈ run.attempts, attempt.succeeded = true → attempt.marking = some .done →
    ∃ row, run.table.find attempt.id = some row ∧ row.status = .completed
  skipped : ∀ id, id ∈ run.skipped ↔
    ∃ attempt ∈ run.attempts, attempt.id = id ∧ attempt.succeeded = true ∧ attempt.marking = none

variable {uuids relay} {run : RelayRun}

theorem recorded_start (table : CommandTable) : (start table).Recorded := by
  constructor
  · intro attempt member
    cases member
  · intro id
    simp [start]

theorem recorded_insert (recorded : run.Recorded) (id : Uuid) (now : DateTime)
    (maxRetries : Int) (command : CommandOutboxInsert) :
    (run.step uuids relay (.insert id now maxRetries command)).Recorded := by
  constructor
  · intro attempt member succeeds done
    obtain ⟨row, found, completed⟩ := recorded.marked attempt member succeeds done
    exact ⟨row, CommandTable.find_insert_of_some found, completed⟩
  · exact recorded.skipped

/-- A completed command is fetched by no pass. -/
theorem completed_not_pending {id : Uuid} {row : CommandRow}
    (found : run.table.find id = some row) (completed : row.status = .completed) :
    ∀ record ∈ relay.pending run.table, record.id ≠ id := by
  intro record member same
  obtain ⟨other, isOther, -, pending, -⟩ := CommandTable.mem_get_pending member
  rw [same, found] at isOther
  cases isOther
  rw [completed] at pending
  cases pending

theorem recorded_pass (recorded : run.Recorded) (answers : PassAnswers) :
    (run.step uuids relay (.pass answers)).Recorded := by
  constructor
  · intro attempt member succeeds done
    rcases List.mem_append.mp member with before | new
    · obtain ⟨row, found, completed⟩ := recorded.marked attempt before succeeds done
      refine ⟨row, ?_, completed⟩
      exact (CommandOutboxRelay.process_frame (completed_not_pending found completed)).trans found
    · exact CommandOutboxRelay.process_marked new succeeds done
  · intro id
    cases fetches : answers.fetches with
    | false =>
        simp only [step, fetches, CommandOutboxRelay.process_no_attempts fetches,
          List.append_nil, Bool.false_eq_true, if_false]
        exact recorded.skipped id
    | true =>
        have new := CommandOutboxRelay.mem_unreached_iff_attempt uuids relay run.table fetches id
        simp only [step, fetches, if_true, List.mem_append, or_and_right, exists_or]
        rw [recorded.skipped id, new]

theorem redispatches_iff (recorded : run.Recorded) (move : RelayMove) :
    run.RedispatchesFailedMarks uuids relay move ↔ run.FetchesNoSkipped relay move := by
  cases move with
  | insert => exact Iff.rfl
  | pass answers =>
      constructor
      · intro redispatches fetches record pending skipped
        obtain ⟨earlier, member, same, succeeds, unmarked⟩ := (recorded.skipped _).mp skipped
        have attempts := CommandOutboxRelay.process_attempts uuids relay run.table fetches
        obtain ⟨changed, failed⟩ := redispatches _
          (by rw [attempts]; exact List.mem_map_of_mem pending) earlier member same succeeds
        rw [unmarked] at failed
        cases failed
      · intro noSkipped attempt member earlier isEarlier same succeeds
        cases fetches : answers.fetches with
        | false =>
            rw [CommandOutboxRelay.process_no_attempts fetches] at member
            cases member
        | true =>
            rw [CommandOutboxRelay.process_attempts uuids relay run.table fetches] at member
            obtain ⟨record, pending, made⟩ := List.mem_map.mp member
            subst made
            cases marking : earlier.marking with
            | none =>
                have skipped := (recorded.skipped record.id).mpr
                  ⟨earlier, isEarlier, same, succeeds, marking⟩
                exact absurd skipped (noSkipped fetches record pending)
            | some answer =>
                cases answer with
                | failed changed => exact ⟨changed, rfl⟩
                | done =>
                    obtain ⟨row, found, completed⟩ :=
                      recorded.marked earlier isEarlier succeeds marking
                    exact absurd same.symm (completed_not_pending found completed record pending)

/-- From any table, an executed command is dispatched again only after its own mark has
failed, exactly if no pass fetches a command that an earlier pass has executed and, stopped by
the failed mark of another one, left unmarked. -/
theorem redispatches_failed_marks_iff_fetches_no_skipped (uuids : UuidText)
    (relay : CommandOutboxRelay) (table : CommandTable) (moves : List RelayMove) :
    EachMove (step uuids relay) (RedispatchesFailedMarks uuids relay) (start table) moves ↔
      EachMove (step uuids relay) (FetchesNoSkipped relay) (start table) moves := by
  apply each_move_congr_within (step uuids relay) Recorded
  · intro run move recorded
    exact redispatches_iff recorded move
  · intro run move recorded _
    cases move with
    | insert id now maxRetries command => exact recorded_insert recorded id now maxRetries command
    | pass answers => exact recorded_pass recorded answers
  · exact recorded_start table

def jobCommand : CommandOutboxInsert :=
  ⟨7, .job, "MarkJobFailed", .object [("job_id", .string "0"), ("reason", .string "timeout")],
    none, none⟩

def acceptingAnswers (markCompleted : Uuid → MarkAnswer) : PassAnswers :=
  ⟨true, 1, fun _ => someMetadata, fun _ _ => none, markCompleted, fun _ => .done, ""⟩

/-- Both commands are executed, but the mark of the first one fails. -/
def stoppedMarks : List RelayMove :=
  [.insert 1 0 3 jobCommand, .insert 2 0 3 jobCommand,
    .pass (acceptingAnswers fun id => if id = 1 then .failed false else .done),
    .pass (acceptingAnswers fun _ => .done)]

/-- The second command is executed twice, and no mark of it has failed. -/
theorem stopped_marks_redispatch :
    ¬EachMove (step zerosText ⟨10, 3⟩) (RedispatchesFailedMarks zerosText ⟨10, 3⟩)
      (start ⟨[], List.nodup_nil⟩) stoppedMarks := by
  intro ⟨_, _, _, redispatches, _⟩
  obtain ⟨changed, failed⟩ := redispatches ⟨2, true, some .done⟩ (by decide)
    ⟨2, true, none⟩ (by decide) rfl rfl
  cases failed

end RelayRun

end HodeiJobs.Commands
