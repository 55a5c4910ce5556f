import HodeiJobs.Library.Runs
import HodeiJobs.Sagas.PostgresOrchestrator

/-!
# Concurrent claims of pending sagas

`claim_pending_sagas` selects rows with `FOR UPDATE SKIP LOCKED` and updates
them one by one, every statement on the pool and none in a transaction. Two
selections may take one row, but the update binds its id as text and is
refused: a call that selects a row fails at its first update, and a call that
returns has nothing to return. Claims of any number run interleaved, one
statement at a time, while third parties rewrite the table at will.
-/

namespace HodeiJobs.Sagas

open HodeiJobs.Library HodeiJobs.Library.Program

/-! ## One claim -/

theorem run_claim_rows (env : Env) (idText : Uuid → String) (rows : List SagaDbRow)
    (world : World) :
    ∃ outcome, runSaga env (claimRows idText rows) world = (outcome, world) ∧
      (outcome = .ok () → rows = []) := by
  cases rows with
  | nil => exact ⟨.ok (), rfl, fun _ => rfl⟩
  | cons row rest =>
      obtain ⟨error, refused⟩ := handle_claim_row env (idText row.id) world
      refine ⟨.error (.infrastructureError
        ("Database error updating claimed saga state: " ++ error)), ?_, nofun⟩
      unfold runSaga claimRows
      rw [exec_bind_ok _ _ _ (run_request env _ world), refused]
      rfl

/-- A claim that runs alone changes nothing, and returns sagas only where it
has selected none. -/
theorem run_claim_pending_sagas (env : Env) (idText : Uuid → String) (limit : Nat)
    (world : World) :
    ∃ outcome, runSaga env (claimPendingSagas idText limit) world = (outcome, world) ∧
      ∀ contexts, outcome = .ok contexts →
        world.store.selectClaimable env.now limit = [] ∧ contexts = [] := by
  cases fault : env.selectFault with
  | some error =>
      refine ⟨.error (.infrastructureError
        ("Database error claiming pending sagas: " ++ error)), ?_,
        fun _ returned => by cases returned⟩
      simp [claimPendingSagas, exec_bind, handle, fault]
  | none =>
      have selected : runSaga env (request (.selectClaimable limit) :
          SagaM (Except String (List SagaDbRow))) world =
          (.ok (.ok (world.store.selectClaimable env.now limit)), world) := by
        simp [handle, fault]
      unfold runSaga claimPendingSagas at *
      rw [exec_bind_ok _ _ _ selected]
      dsimp only
      cases decoded : readVersions (world.store.selectClaimable env.now limit) with
      | error error => exact ⟨_, rfl, fun _ returned => by cases returned⟩
      | ok rows =>
          obtain ⟨outcome, ran, nothing⟩ := run_claim_rows env idText
            (world.store.selectClaimable env.now limit) world
          cases outcome with
          | error failure =>
              exact ⟨_, exec_bind_error _ _ _ ran, fun _ returned => by cases returned⟩
          | ok passed =>
              refine ⟨_, exec_bind_ok _ _ _ ran, ?_⟩
              intro contexts returned
              have empty := nothing rfl
              rw [empty] at decoded
              cases decoded
              exact ⟨empty, (Except.ok.inj returned).symm⟩

/-! ## Claims in progress -/

abbrev ClaimClient := Program SagaOp SagaOp.Reply (Except DomainError (List SagaContext))

abbrev ClaimSystem := List ClaimClient × World

/-- A statement of one of the claims, or a third party that leaves these rows
in the table. -/
inductive ClaimMove where
  | call (client : Nat) (env : Env)
  | thirdParty (rows : List SagaDbRow) (key : (rows.map SagaDbRow.id).Nodup)

def claimStep (system : ClaimSystem) : ClaimMove → ClaimSystem
  | .call client env => stepMove handle system (client, env)
  | .thirdParty rows key =>
      (system.1,
        { system.2 with store := { system.2.store with sagas := rows, sagasKey := key } })

def claimRun (moves : List ClaimMove) (system : ClaimSystem) : ClaimSystem :=
  moves.foldl claimStep system

/-- One claim for each limit. -/
def claimPool (idText : Uuid → String) (limits : List Nat) : List ClaimClient :=
  limits.map fun limit => (claimPendingSagas idText limit).run

def Returns (system : ClaimSystem) (client : Nat) (sagaId : SagaId) : Prop :=
  ∃ contexts, system.1[client]? = some (.done (.ok contexts)) ∧
    sagaId ∈ contexts.map SagaContext.sagaId

/-- No saga is returned by two calls, whoever changed its state in between. -/
def ExclusiveClaims (system : ClaimSystem) : Prop :=
  ∀ first second sagaId, first ≠ second → Returns system first sagaId →
    ¬Returns system second sagaId

/-- The points at which a claim can be: before its selection, before an update
of a selected row, and over. -/
inductive ClaimStage (idText : Uuid → String) : ClaimClient → Prop
  | selecting (limit : Nat) : ClaimStage idText (claimPendingSagas idText limit).run
  | updating (row : SagaDbRow) (rest : List SagaDbRow) (contexts : List SagaContext) :
      ClaimStage idText (do claimRows idText (row :: rest); return contexts : SagaM _).run
  | failed (error : DomainError) : ClaimStage idText (.done (.error error))
  | nothing : ClaimStage idText (.done (.ok []))

section Interleaving

variable {idText : Uuid → String}

theorem select_stage (limit : Nat) (env : Env) (world : World) :
    ClaimStage idText (advance (handle env) (claimPendingSagas idText limit).run world).1 := by
  unfold claimPendingSagas
  rw [advance_request]
  cases fault : env.selectFault with
  | some error =>
      simp only [handle, fault]
      exact .failed _
  | none =>
      simp only [handle, fault]
      cases world.store.selectClaimable env.now limit with
      | nil => exact .nothing
      | cons row rest =>
          cases readVersions (row :: rest) with
          | error error => exact .failed _
          | ok rows => exact .updating row rest _

/-- The update is refused, and `?` returns its error. -/
theorem update_stage (row : SagaDbRow) (rest : List SagaDbRow) (contexts : List SagaContext)
    (env : Env) (world : World) :
    ClaimStage idText (advance (handle env)
      (do claimRows idText (row :: rest); return contexts : SagaM _).run world).1 := by
  obtain ⟨error, refused⟩ := handle_claim_row env (idText row.id) world
  rw [claimRows, LawfulMonad.bind_assoc, advance_request, refused]
  exact .failed _

theorem claim_stage_step {program : ClaimClient} (env : Env) (world : World)
    (stage : ClaimStage idText program) :
    ClaimStage idText (advance (handle env) program world).1 := by
  cases stage with
  | selecting limit => exact select_stage limit env world
  | updating row rest contexts => exact update_stage row rest contexts env world
  | failed error => exact .failed error
  | nothing => exact .nothing

def Staged (idText : Uuid → String) (system : ClaimSystem) : Prop :=
  ∀ (client : Nat) program, system.1[client]? = some program → ClaimStage idText program

theorem staged_start (limits : List Nat) (world : World) :
    Staged idText (claimPool idText limits, world) := by
  intro client program found
  unfold claimPool at found
  rw [List.getElem?_map] at found
  obtain ⟨limit, -, same⟩ := Option.map_eq_some_iff.mp found
  rw [← same]
  exact .selecting limit

theorem staged_step (system : ClaimSystem) (move : ClaimMove) (staged : Staged idText system) :
    Staged idText (claimStep system move) := by
  cases move with
  | thirdParty rows key => exact staged
  | call client env =>
      intro other program found
      cases moved : system.1[client]? with
      | none =>
          apply staged other program
          rw [← found]
          simp [claimStep, stepMove, stepClient, moved]
      | some mover =>
          by_cases own : other = client
          · subst own
            have after := (step_client_own (handle env) moved).1
            cases after.symm.trans found
            exact claim_stage_step env system.2 (staged other mover moved)
          · have untouched := step_client_other (handle env) (Ne.symm own) system
            exact staged other program (untouched.symm.trans found)

theorem staged_run (moves : List ClaimMove) (system : ClaimSystem)
    (staged : Staged idText system) : Staged idText (claimRun moves system) := by
  induction moves generalizing system with
  | nil => exact staged
  | cons move rest ih => exact ih (claimStep system move) (staged_step system move staged)

/-- No claim returns a saga. -/
theorem not_returns_of_staged {system : ClaimSystem} (staged : Staged idText system) (client : Nat)
    (sagaId : SagaId) : ¬Returns system client sagaId := by
  intro returns
  obtain ⟨contexts, found, member⟩ := returns
  generalize ended : (.done (.ok contexts) : ClaimClient) = program at found
  cases staged client program found with
  | selecting limit => cases ended
  | updating row rest later => cases ended
  | failed error => cases ended
  | nothing =>
      cases ended
      cases member

end Interleaving

/-- In every interleaving of claims and of changes by third parties, no saga is
returned by two calls. -/
theorem claims_return_distinct_sagas (idText : Uuid → String) (limits : List Nat) (world : World)
    (moves : List ClaimMove) :
    ExclusiveClaims (claimRun moves (claimPool idText limits, world)) := by
  have staged := staged_run moves _ (staged_start limits world : Staged idText _)
  intro first second sagaId _ returns
  exact absurd returns (not_returns_of_staged staged first sagaId)

/-- A table with one pending saga. -/
def onePending : World :=
  (runSaga (.quiet .quiet) (save (.new ⟨7⟩ .execution none none 0)) .empty).2

/-- Two selections of one row, then both updates: both calls return the error of
the database. -/
example : (claimRun [.call 0 (.quiet .quiet), .call 1 (.quiet .quiet), .call 0 (.quiet .quiet),
      .call 1 (.quiet .quiet)] (claimPool toString [10, 10], onePending)).1 =
    List.replicate 2 (.done (.error (.infrastructureError
      "Database error updating claimed saga state: operator does not exist: uuid = text"))) := by
  rfl

end HodeiJobs.Sagas
