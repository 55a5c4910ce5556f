import HodeiJobs.Library.Runs
import HodeiJobs.Sagas.PostgresOrchestrator

/-!
# Terminal states under concurrent writers

`save_with_tx`, `update_state_with_tx` and `mark_compensating` write the state
column whatever it holds. Calls of any number run interleaved, one repository
call at a time; a terminal state stays exactly as long as no write that takes
effect on the row carries another state.
-/

namespace HodeiJobs.Sagas

open HodeiJobs.Library HodeiJobs.Library.Program

/-! ## What a call writes to the state column -/

def Statement.writes (sagaId : SagaId) : Statement → Option SagaState
  | .saveWithTx context => if context.sagaId = sagaId then some context.state else none
  | .updateStateWithTx updated state _ => if updated = sagaId then some state else none
  | .saveStepWithTx _ => none
  | .updateStepStateWithTx _ _ _ => none

/-- The state that a transaction leaves in the row, if it writes one. -/
def lastWritten (sagaId : SagaId) : List Statement → Option SagaState
  | [] => none
  | statement :: rest => (lastWritten sagaId rest).or (statement.writes sagaId)

/-- The state that an operation writes to the row of the saga when it takes
effect. -/
def writtenState (env : Env) (sagaId : SagaId) : SagaOp → Option SagaState
  | .commit caller label statements =>
      match (env.saga caller).fault label .commit with
      | some _ => none
      | none => lastWritten sagaId statements
  | .markCompensating marked =>
      match env.markFault marked with
      | some _ => none
      | none => if marked = sagaId then some .compensating else none
  | .claimRow idText =>
      match env.claimFault idText, idEquals (.text idText) with
      | none, .ok same => if same sagaId.uuid then some .inProgress else none
      | _, _ => none
  | _ => none

theorem persisted_state_apply {store : SagaStore} {sagaId : SagaId} {state : SagaState}
    (now : DateTime) (statement : Statement) (stored : store.persistedState sagaId = some state) :
    (store.apply now statement).persistedState sagaId =
      some ((statement.writes sagaId).getD state) := by
  cases statement with
  | saveWithTx context =>
      simp only [SagaStore.apply, SagaStore.persisted_state_save, Statement.writes,
        eq_comm (a := sagaId)]
      split_ifs
      · rfl
      · exact stored
  | updateStateWithTx updated written message =>
      simp only [SagaStore.apply, SagaStore.persisted_state_update_state, Statement.writes,
        eq_comm (a := sagaId), stored]
      split_ifs <;> rfl
  | saveStepWithTx step =>
      rw [SagaStore.apply, SagaStore.persisted_state_save_step]
      exact stored
  | updateStepStateWithTx stepId written output =>
      rw [SagaStore.apply, SagaStore.persisted_state_update_step_state]
      exact stored

theorem persisted_state_commit {store : SagaStore} {sagaId : SagaId} {state : SagaState}
    (now : DateTime) (statements : List Statement)
    (stored : store.persistedState sagaId = some state) :
    (store.commit now statements).persistedState sagaId =
      some ((lastWritten sagaId statements).getD state) := by
  induction statements generalizing store state with
  | nil => exact stored
  | cons statement rest ih =>
      have next := ih (persisted_state_apply now statement stored)
      unfold lastWritten
      rw [Option.getD_or]
      exact next

/-- The state of a row that is there, after any operation. -/
theorem handle_persisted_state (env : Env) (op : SagaOp) (world : World) {sagaId : SagaId}
    {state : SagaState} (stored : world.store.persistedState sagaId = some state) :
    (handle env op world).2.store.persistedState sagaId =
      some ((writtenState env sagaId op).getD state) := by
  cases op with
  | commit caller label statements =>
      cases fault : (env.saga caller).fault label .commit with
      | some error => simpa [handle, writtenState, fault] using stored
      | none =>
          simp only [handle, writtenState, fault]
          exact persisted_state_commit env.now statements stored
  | markCompensating marked =>
      cases fault : env.markFault marked with
      | some error => simpa [handle, writtenState, fault] using stored
      | none =>
          simp only [handle, writtenState, fault, SagaStore.persisted_state_mark_compensating,
            stored, eq_comm (a := sagaId)]
          split_ifs <;> rfl
  | claimRow idText =>
      obtain ⟨error, refused⟩ := handle_claim_row env idText world
      rw [refused]
      cases fault : env.claimFault idText <;> simpa [writtenState, fault, idEquals] using stored
  | findSteps caller load =>
      cases fault : (env.saga caller).loadFault load <;>
        simpa [handle, writtenState, fault] using stored
  | findById caller =>
      cases fault : env.findByIdFault caller <;>
        simpa [handle, writtenState, fault] using stored
  | selectClaimable limit =>
      cases fault : env.selectFault <;> simpa [handle, writtenState, fault] using stored
  | admission caller => exact stored
  | txCall caller label call => exact stored
  | newV4 => exact stored
  | now => exact stored
  | elapsed caller read => exact stored
  | execute caller index context => exact stored
  | compensate caller index context => exact stored

/-! ## Concurrent calls on one saga -/

/-- A call that runs on the saga; its context carries the saga's id. -/
inductive SagaCall where
  | executeSaga (config : PostgresSagaOrchestratorConfig) (saga : Saga) (context : SagaContext)
  | cancelSaga
  | markCompensating
  | save (context : SagaContext)
  | updateState (state : SagaState) (errorMessage : Option String)

/-- A call as a client of the pool: it ends with `Ok` or an error. -/
abbrev Client := Program SagaOp SagaOp.Reply (Except DomainError Unit)

def SagaCall.client (sagaId : SagaId) : SagaCall → Client
  | .executeSaga config saga context =>
      ((fun _ => ()) <$> Sagas.executeSaga config saga { context with sagaId := sagaId }).run
  | .cancelSaga => (Sagas.cancelSaga sagaId).run
  | .markCompensating => (Sagas.markCompensating sagaId).run
  | .save context => (Sagas.save { context with sagaId := sagaId }).run
  | .updateState state errorMessage => (Sagas.updateState sagaId state errorMessage).run

abbrev SagaSystem := List Client × World

/-- Every interleaving is a list of moves: which call goes on, and how the
environment answers it. -/
def systemStep : SagaSystem → Nat × Env → SagaSystem := stepMove handle

def systemRun (moves : List (Nat × Env)) (system : SagaSystem) : SagaSystem :=
  moves.foldl systemStep system

/-- The persisted state is there and terminal. -/
def IsFinal (state : Option SagaState) : Prop := ∃ terminal, state = some terminal ∧
  terminal.isTerminal = true

/-- If this move writes to the saga row while its state is terminal, it writes
that same state. -/
def RewritesSame (sagaId : SagaId) (system : SagaSystem) (move : Nat × Env) : Prop :=
  ∀ terminal, system.2.store.persistedState sagaId = some terminal →
    terminal.isTerminal = true →
      ∀ op, nextCall system.1 move.1 = some op →
        ∀ written, writtenState move.2 sagaId op = some written → written = terminal

theorem system_step_state (sagaId : SagaId) (system : SagaSystem) (move : Nat × Env)
    {state : SagaState} (stored : system.2.store.persistedState sagaId = some state) :
    (systemStep system move).2.store.persistedState sagaId =
      some (((nextCall system.1 move.1).bind (writtenState move.2 sagaId)).getD state) := by
  unfold systemStep stepMove
  rw [step_client_world]
  cases next : nextCall system.1 move.1 with
  | none => exact stored
  | some op => exact handle_persisted_state move.2 op system.2 stored

theorem keeps_final_iff_rewrites_same (sagaId : SagaId) (system : SagaSystem)
    (move : Nat × Env) :
    (IsFinal (system.2.store.persistedState sagaId) →
      (systemStep system move).2.store.persistedState sagaId =
        system.2.store.persistedState sagaId) ↔
      RewritesSame sagaId system move := by
  constructor
  · intro keeps terminal stored final op next written writes
    have kept := keeps ⟨terminal, stored, final⟩
    rw [system_step_state sagaId system move stored, stored, next, Option.bind_some, writes] at kept
    exact Option.some.inj kept
  · intro same final
    obtain ⟨terminal, stored, isTerminal⟩ := final
    rw [system_step_state sagaId system move stored, stored]
    cases written : (nextCall system.1 move.1).bind (writtenState move.2 sagaId) with
    | none => rfl
    | some state =>
        obtain ⟨op, next, writes⟩ := Option.bind_eq_some_iff.mp written
        rw [same terminal stored isTerminal op next state writes]
        rfl

/-- Once the persisted state is terminal, no later move changes it. -/
def TerminalStays (sagaId : SagaId) (system : SagaSystem) (moves : List (Nat × Env)) : Prop :=
  Settled systemStep (fun current => current.2.store.persistedState sagaId) IsFinal system moves

theorem terminal_stays_iff (sagaId : SagaId) (system : SagaSystem) (moves : List (Nat × Env)) :
    TerminalStays sagaId system moves ↔
      EachMove systemStep (RewritesSame sagaId) system moves := by
  unfold TerminalStays
  rw [settled_iff_each_move]
  exact each_move_congr _ (keeps_final_iff_rewrites_same sagaId) moves system

/-! ## A cancelled saga -/

def cancelStatement (sagaId : SagaId) : Statement :=
  .updateStateWithTx sagaId .cancelled (some "Cancelled by user")

/-- The points at which a `cancel_saga` call can be. -/
inductive CancelStage (sagaId : SagaId) : Client → Prop
  | marking : CancelStage sagaId (cancelSaga sagaId).run
  | beginning : CancelStage sagaId
      (updateState sagaId .cancelled (some "Cancelled by user")).run
  | updating : CancelStage sagaId
      (do
        let tx ← (⟨sagaId, .updateState, []⟩ : PgTransaction).updateStateWithTx sagaId .cancelled
          (some "Cancelled by user")
        tx.commit : SagaM Unit).run
  | committing : CancelStage sagaId
      (PgTransaction.commit ⟨sagaId, .updateState, [cancelStatement sagaId]⟩).run
  | failed (error : DomainError) : CancelStage sagaId (.done (.error error))
  | returned : CancelStage sagaId (.done (.ok ()))

theorem advance_cancel_marking (env : Env) (world : World) (sagaId : SagaId) :
    (advance (handle env) (cancelSaga sagaId).run world).1 =
      match env.markFault sagaId with
      | none => (updateState sagaId .cancelled (some "Cancelled by user")).run
      | some error => .done (.error (.ofSqlx error)) := by
  unfold cancelSaga markCompensating
  rw [LawfulMonad.bind_assoc, advance_request]
  cases fault : env.markFault sagaId <;> simp only [handle, fault] <;> rfl

theorem advance_update_beginning (env : Env) (world : World) (sagaId : SagaId)
    (state : SagaState) (message : Option String) :
    (advance (handle env) (updateState sagaId state message).run world).1 =
      match (env.saga sagaId).fault .updateState .beginTransaction with
      | none =>
          (do
            let tx ← (⟨sagaId, .updateState, []⟩ : PgTransaction).updateStateWithTx sagaId state
              message
            tx.commit : SagaM Unit).run
      | some error =>
          .done (.error (.infrastructureError ("Transaction error: " ++ "Database error: " ++
            error))) := by
  unfold updateState beginTransaction
  rw [LawfulMonad.bind_assoc, advance_request]
  cases fault : (env.saga sagaId).fault .updateState .beginTransaction <;>
    simp only [handle, faultReply, fault] <;> rfl

theorem advance_statement (env : Env) (world : World) (tx : PgTransaction) (call : TxCall)
    (statement : Statement) :
    (advance (handle env) (tx.statement call statement >>= PgTransaction.commit).run world).1 =
      match (env.saga tx.sagaId).fault tx.label call with
      | none =>
          (PgTransaction.commit ⟨tx.sagaId, tx.label, tx.statements ++ [statement]⟩).run
      | some error => .done (.error (.ofSqlx error)) := by
  unfold PgTransaction.statement
  rw [LawfulMonad.bind_assoc, advance_request]
  cases fault : (env.saga tx.sagaId).fault tx.label call <;>
    simp only [handle, faultReply, fault] <;> rfl

theorem advance_commit (env : Env) (world : World) (tx : PgTransaction) :
    advance (handle env) tx.commit.run world =
      match (env.saga tx.sagaId).fault tx.label .commit with
      | none =>
          (.done (.ok ()), { world with store := world.store.commit env.now tx.statements })
      | some error => (.done (.error (.ofSqlx error)), world) := by
  unfold PgTransaction.commit
  rw [advance_request]
  cases fault : (env.saga tx.sagaId).fault tx.label .commit <;>
    simp only [handle, fault] <;> rfl

theorem cancel_stage_advance {sagaId : SagaId} {client : Client} (env : Env) (world : World)
    (stage : CancelStage sagaId client) :
    CancelStage sagaId (advance (handle env) client world).1 := by
  cases stage with
  | marking =>
      rw [advance_cancel_marking]
      cases env.markFault sagaId with
      | none => exact .beginning
      | some error => exact .failed _
  | beginning =>
      rw [advance_update_beginning]
      cases (env.saga sagaId).fault .updateState .beginTransaction with
      | none => exact .updating
      | some error => exact .failed _
  | updating =>
      have moved := advance_statement env world ⟨sagaId, .updateState, []⟩ .updateStateWithTx
        (cancelStatement sagaId)
      unfold PgTransaction.updateStateWithTx
      unfold cancelStatement at moved
      rw [moved]
      cases (env.saga sagaId).fault .updateState .updateStateWithTx with
      | none => exact .committing
      | some error => exact .failed _
  | committing =>
      rw [advance_commit]
      dsimp only
      cases (env.saga sagaId).fault .updateState .commit with
      | none => exact .returned
      | some error => exact .failed _
  | failed error => exact .failed error
  | returned => exact .returned

/-- Only the commit of the update makes `cancel_saga` return `Ok`. -/
theorem cancel_stage_returns {sagaId : SagaId} {client : Client} {env : Env} {world : World}
    (stage : CancelStage sagaId client)
    (returned : (advance (handle env) client world).1 = .done (.ok ())) :
    client = .done (.ok ()) ∨
      (client = (PgTransaction.commit ⟨sagaId, .updateState, [cancelStatement sagaId]⟩).run ∧
        (env.saga sagaId).fault .updateState .commit = none) := by
  cases stage with
  | marking =>
      rw [advance_cancel_marking] at returned
      cases fault : env.markFault sagaId <;> rw [fault] at returned <;> cases returned
  | beginning =>
      rw [advance_update_beginning] at returned
      cases fault : (env.saga sagaId).fault .updateState .beginTransaction <;>
        rw [fault] at returned <;> cases returned
  | updating =>
      have moved := advance_statement env world ⟨sagaId, .updateState, []⟩ .updateStateWithTx
        (cancelStatement sagaId)
      unfold PgTransaction.updateStateWithTx at returned
      unfold cancelStatement at moved
      rw [moved] at returned
      cases fault : (env.saga sagaId).fault .updateState .updateStateWithTx <;>
        simp only [fault] at returned <;> cases returned
  | committing =>
      rw [advance_commit] at returned
      cases fault : (env.saga sagaId).fault .updateState .commit with
      | none => exact .inr ⟨rfl, rfl⟩
      | some error =>
          simp only [fault] at returned
          cases returned
  | failed error => cases returned
  | returned => exact .inl rfl

/-- Every `cancel_saga` call of the pool is at one of its points. -/
def CancelsStaged (sagaId : SagaId) (calls : List SagaCall) (system : SagaSystem) : Prop :=
  ∀ client : Nat, calls[client]? = some .cancelSaga →
    ∃ program, system.1[client]? = some program ∧ CancelStage sagaId program

theorem cancels_staged_start (sagaId : SagaId) (calls : List SagaCall) (world : World) :
    CancelsStaged sagaId calls (calls.map (SagaCall.client sagaId), world) := by
  intro client isCancel
  refine ⟨(cancelSaga sagaId).run, ?_, .marking⟩
  rw [List.getElem?_map, isCancel]
  rfl

theorem cancels_staged_step {sagaId : SagaId} {calls : List SagaCall} {system : SagaSystem}
    (move : Nat × Env) (staged : CancelsStaged sagaId calls system) :
    CancelsStaged sagaId calls (systemStep system move) := by
  intro client isCancel
  obtain ⟨program, found, stage⟩ := staged client isCancel
  by_cases own : move.1 = client
  · subst own
    have moved := (step_client_own (handle move.2) found).1
    exact ⟨_, moved, cancel_stage_advance move.2 system.2 stage⟩
  · have kept := step_client_other (handle move.2) own system
    exact ⟨program, kept.trans found, stage⟩

theorem cancels_staged_run (sagaId : SagaId) (calls : List SagaCall) (moves : List (Nat × Env))
    (system : SagaSystem) (staged : CancelsStaged sagaId calls system) :
    CancelsStaged sagaId calls (systemRun moves system) := by
  induction moves generalizing system with
  | nil => exact staged
  | cons move rest ih => exact ih _ (cancels_staged_step move staged)

/-- If this move is the commit of a `cancel_saga` call and it succeeds, the
saga has a row to update. -/
def CancelFindsRow (sagaId : SagaId) (calls : List SagaCall) (system : SagaSystem)
    (move : Nat × Env) : Prop :=
  calls[move.1]? = some .cancelSaga →
    nextCall system.1 move.1 = some (.commit sagaId .updateState [cancelStatement sagaId]) →
      (move.2.saga sagaId).fault .updateState .commit = none →
        system.2.store.persistedState sagaId ≠ none

/-- The row is there and cancelled, and so is every context read from it. -/
structure ReadsCancelled (store : SagaStore) (sagaId : SagaId) : Prop where
  persisted : store.persistedState sagaId = some .cancelled
  found : ∀ answer, store.findById sagaId = .ok answer →
    ∃ context, answer = some context ∧ context.state = .cancelled

theorem reads_cancelled_of_persisted {store : SagaStore} {sagaId : SagaId}
    (persisted : store.persistedState sagaId = some .cancelled) :
    ReadsCancelled store sagaId := by
  refine ⟨persisted, ?_⟩
  intro answer reads
  obtain ⟨row, found, state⟩ := Option.map_eq_some_iff.mp persisted
  unfold SagaStore.findById at reads
  rw [found] at reads
  cases version : row.readVersion with
  | error error =>
      simp only [version] at reads
      cases reads
  | ok number =>
      simp only [version] at reads
      cases reads
      exact ⟨row.toContext number, rfl, state⟩

/-- After `cancel_saga` has returned `Ok`, the saga reads as cancelled at every
later moment of the run. -/
def CancelledStays (sagaId : SagaId) (calls : List SagaCall) (system : SagaSystem)
    (moves : List (Nat × Env)) : Prop :=
  ∀ (earlier later rest : List (Nat × Env)) (client : Nat), moves = earlier ++ later ++ rest →
    calls[client]? = some .cancelSaga →
      (systemRun earlier system).1[client]? = some (.done (.ok ())) →
        ReadsCancelled (systemRun (earlier ++ later) system).2.store sagaId

theorem cancel_commit_state {system : SagaSystem} {sagaId : SagaId} {move : Nat × Env}
    (commits : system.1[move.1]? =
      some (PgTransaction.commit ⟨sagaId, .updateState, [cancelStatement sagaId]⟩).run)
    (passes : (move.2.saga sagaId).fault .updateState .commit = none) :
    (systemStep system move).1[move.1]? = some (.done (.ok ())) ∧
      (systemStep system move).2.store.persistedState sagaId =
        (system.2.store.persistedState sagaId).map fun _ => .cancelled := by
  obtain ⟨moved, world⟩ := step_client_own (handle move.2) commits
  rw [advance_commit] at moved world
  simp only [passes] at moved world
  refine ⟨moved, ?_⟩
  have update := SagaStore.persisted_state_update_state system.2.store move.2.now sagaId .cancelled
    (some "Cancelled by user") sagaId
  rw [if_pos rfl] at update
  show (stepClient (handle move.2) move.1 system).2.store.persistedState sagaId = _
  rw [world]
  exact update

/-- A `cancel_saga` call that has returned left the row cancelled. -/
def CancelsPersisted (sagaId : SagaId) (calls : List SagaCall) (system : SagaSystem) : Prop :=
  ∀ client : Nat, calls[client]? = some .cancelSaga →
    system.1[client]? = some (.done (.ok ())) →
      system.2.store.persistedState sagaId = some .cancelled

theorem cancels_persisted_step {sagaId : SagaId} {calls : List SagaCall} {system : SagaSystem}
    {move : Nat × Env} (staged : CancelsStaged sagaId calls system)
    (persisted : CancelsPersisted sagaId calls system)
    (same : RewritesSame sagaId system move) (finds : CancelFindsRow sagaId calls system move) :
    CancelsPersisted sagaId calls (systemStep system move) := by
  intro client isCancel returned
  have keeps : system.2.store.persistedState sagaId = some .cancelled →
      (systemStep system move).2.store.persistedState sagaId = some .cancelled := by
    intro stored
    have kept := (keeps_final_iff_rewrites_same sagaId system move).mpr same
      ⟨.cancelled, stored, rfl⟩
    rw [kept, stored]
  by_cases own : move.1 = client
  · subst own
    obtain ⟨program, found, stage⟩ := staged move.1 isCancel
    have moved := (step_client_own (handle move.2) found).1
    have advanced := Option.some.inj (moved.symm.trans returned)
    rcases cancel_stage_returns stage advanced with finished | ⟨commits, passes⟩
    · rw [finished] at found
      exact keeps (persisted move.1 isCancel found)
    · rw [commits] at found
      have next : nextCall system.1 move.1 =
          some (.commit sagaId .updateState [cancelStatement sagaId]) := by
        unfold nextCall
        rw [found]
        rfl
      obtain ⟨state, stored⟩ := Option.ne_none_iff_exists'.mp (finds isCancel next passes)
      have written := (cancel_commit_state found passes).2
      rw [stored] at written
      exact written
  · have kept := step_client_other (handle move.2) own system
    exact keeps (persisted client isCancel (kept.symm.trans returned))

/-- The commit of a `cancel_saga` call is the only point of it that issues this
operation. -/
theorem cancel_stage_commits {sagaId : SagaId} {pool : List Client} {client : Nat}
    {program : Client} (found : pool[client]? = some program) (stage : CancelStage sagaId program)
    (next : nextCall pool client =
      some (.commit sagaId .updateState [cancelStatement sagaId])) :
    program = (PgTransaction.commit ⟨sagaId, .updateState, [cancelStatement sagaId]⟩).run := by
  unfold nextCall at next
  rw [found] at next
  cases stage with
  | marking => cases next
  | beginning => cases next
  | updating => cases next
  | committing => rfl
  | failed error => cases next
  | returned => cases next

theorem cancels_persisted_start (sagaId : SagaId) (calls : List SagaCall) (world : World) :
    CancelsPersisted sagaId calls (calls.map (SagaCall.client sagaId), world) := by
  intro client isCancel returned
  rw [List.getElem?_map, isCancel] at returned
  cases returned

/-- The condition on one move: what it writes to a terminal row is that row's
state, and a cancellation has a row to update. -/
structure MoveKeepsTerminal (sagaId : SagaId) (calls : List SagaCall) (system : SagaSystem)
    (move : Nat × Env) : Prop where
  rewrites : RewritesSame sagaId system move
  finds : CancelFindsRow sagaId calls system move

theorem cancels_persisted_run {sagaId : SagaId} {calls : List SagaCall}
    {earlier rest : List (Nat × Env)} {start : SagaSystem}
    (staged : CancelsStaged sagaId calls start) (persisted : CancelsPersisted sagaId calls start)
    (each : EachMove systemStep (MoveKeepsTerminal sagaId calls) start (earlier ++ rest)) :
    CancelsPersisted sagaId calls (systemRun earlier start) := by
  have tracked := holds_after_initial systemStep
    (fun system => CancelsStaged sagaId calls system ∧ CancelsPersisted sagaId calls system)
    (MoveKeepsTerminal sagaId calls)
    (fun system move both keeps => ⟨cancels_staged_step move both.1,
      cancels_persisted_step both.1 both.2 keeps.rewrites keeps.finds⟩)
    earlier rest start ⟨staged, persisted⟩ each
  exact tracked.2

/-- Over every run, terminal states stay and a saga cancelled with `Ok` reads as
cancelled, exactly when each move that writes to a terminal row writes its
state again and each `cancel_saga` commits on an existing row. -/
theorem terminal_and_cancelled_stay_iff (sagaId : SagaId) (calls : List SagaCall)
    (world : World) (moves : List (Nat × Env)) :
    (TerminalStays sagaId (calls.map (SagaCall.client sagaId), world) moves ∧
      CancelledStays sagaId calls (calls.map (SagaCall.client sagaId), world) moves) ↔
      EachMove systemStep (MoveKeepsTerminal sagaId calls)
        (calls.map (SagaCall.client sagaId), world) moves := by
  have staged := cancels_staged_start sagaId calls world
  have persisted := cancels_persisted_start sagaId calls world
  generalize (calls.map (SagaCall.client sagaId), world) = start at staged persisted ⊢
  rw [terminal_stays_iff]
  constructor
  · intro ⟨rewrites, cancelled⟩
    rw [each_move_iff_initial] at rewrites ⊢
    intro earlier move rest split
    refine ⟨rewrites earlier move rest split, ?_⟩
    intro isCancel next passes missing
    have stagedNow := cancels_staged_run sagaId calls earlier start staged
    obtain ⟨program, found, stage⟩ := stagedNow move.1 isCancel
    rw [cancel_stage_commits found stage next] at found
    obtain ⟨returned, written⟩ := cancel_commit_state found passes
    have reached : systemRun (earlier ++ [move]) start =
        systemStep (systemRun earlier start) move := by
      unfold systemRun
      rw [List.foldl_append]
      rfl
    have reads := cancelled (earlier ++ [move]) [] rest move.1
      (by rw [split, List.append_nil, List.append_assoc]; rfl) isCancel
      (by rw [reached]; exact returned)
    have stored := reads.persisted
    rw [List.append_nil, reached, written] at stored
    obtain ⟨state, present, -⟩ := Option.map_eq_some_iff.mp stored
    cases missing.symm.trans present
  · intro each
    have rewrites := each_move_imp systemStep
      (fun _ _ keeps => MoveKeepsTerminal.rewrites keeps) moves start each
    refine ⟨rewrites, ?_⟩
    intro earlier later rest client split isCancel returned
    rw [split, List.append_assoc] at each
    have stored := cancels_persisted_run staged persisted each client isCancel returned
    have kept := (terminal_stays_iff sagaId start moves).mpr rewrites earlier later rest split
      ⟨.cancelled, stored, rfl⟩
    exact reads_cancelled_of_persisted (kept.trans stored)

/-- A one-step execution and a cancellation of the same saga. -/
def executionAndCancel : List SagaCall :=
  [.executeSaga {} ⟨.execution, [⟨"ExecuteJob", true⟩]⟩ (.new ⟨7⟩ .execution none none 0),
    .cancelSaga]

def movesOf (client count : Nat) : List (Nat × Env) :=
  List.replicate count (client, .quiet .quiet)

/-- The cancellation returns while the step is executing; then the step
commits its context, whose state is `Pending`. -/
theorem running_step_overwrites_cancelled :
    ¬TerminalStays ⟨7⟩ (executionAndCancel.map (SagaCall.client ⟨7⟩), .empty)
        (movesOf 0 12 ++ movesOf 1 4 ++ movesOf 0 3) ∧
      ¬CancelledStays ⟨7⟩ executionAndCancel
        (executionAndCancel.map (SagaCall.client ⟨7⟩), .empty)
        (movesOf 0 12 ++ movesOf 1 4 ++ movesOf 0 3) := by
  constructor
  · intro stays
    have kept := stays (movesOf 0 12 ++ movesOf 1 4) (movesOf 0 3) [] rfl ⟨.cancelled, rfl, rfl⟩
    exact absurd kept (by decide)
  · intro stays
    have reads := stays (movesOf 0 12 ++ movesOf 1 4) (movesOf 0 3) [] 1 rfl rfl rfl
    exact absurd reads.persisted (by decide)

end HodeiJobs.Sagas
