import Mathlib.Data.List.Basic
import Mathlib.Logic.Basic

/-!
# Programs over named calls

A program is a tree of calls to an outside service. Each call names its
operation and continues with whatever reply comes back. One program has two
meanings: `run` answers every call in turn from one world, and `runSchedule`
interleaves a pool of programs at call granularity. The tree itself never
mentions the world, so both meanings are of the same definition.
-/

namespace HodeiJobs.Library

inductive Program (Op : Type) (Reply : Op → Type) (Result : Type) where
  | done (result : Result)
  | call (op : Op) (next : Reply op → Program Op Reply Result)

namespace Program

variable {Op : Type} {Reply : Op → Type} {Result Other Failure World Env : Type}

def bind (program : Program Op Reply Result) (next : Result → Program Op Reply Other) :
    Program Op Reply Other :=
  match program with
  | .done result => next result
  | .call op rest => .call op fun reply => (rest reply).bind next

instance : Monad (Program Op Reply) where
  pure := .done
  bind := .bind

theorem bind_done (program : Program Op Reply Result) : program.bind .done = program := by
  induction program with
  | done result => rfl
  | call op rest ih =>
      unfold bind
      congr 1
      funext reply
      exact ih reply

theorem bind_assoc {Last : Type} (program : Program Op Reply Result)
    (next : Result → Program Op Reply Other) (last : Other → Program Op Reply Last) :
    (program.bind next).bind last = program.bind fun result => (next result).bind last := by
  induction program with
  | done result => rfl
  | call op rest ih =>
      show Program.call op _ = Program.call op _
      congr 1
      funext reply
      exact ih reply

instance : LawfulMonad (Program Op Reply) :=
  .mk' _ bind_done (fun _ _ => rfl) bind_assoc

/-- The program that makes one call and returns its reply. -/
def request (op : Op) : Program Op Reply (Reply op) := .call op .done

/-! ## One program alone -/

/-- Answer every call in order. `handle` is the service: it replies to an
operation and moves the world. -/
def run (handle : (op : Op) → World → Reply op × World) :
    Program Op Reply Result → World → Result × World
  | .done result, world => (result, world)
  | .call op next, world => run handle (next (handle op world).1) (handle op world).2

variable (handle : (op : Op) → World → Reply op × World)

@[simp] theorem run_request (op : Op) (world : World) :
    run handle (request op) world = handle op world := rfl

@[simp] theorem run_bind (program : Program Op Reply Result)
    (next : Result → Program Op Reply Other) (world : World) :
    run handle (program >>= next) world =
      run handle (next (run handle program world).1) (run handle program world).2 := by
  induction program generalizing world with
  | done result => rfl
  | call op rest ih => exact ih (handle op world).1 (handle op world).2

/-- A program that may fail early, answered from one world. The world keeps
whatever was done before the failure. -/
def exec (program : ExceptT Failure (Program Op Reply) Result) (world : World) :
    Except Failure Result × World :=
  run handle program.run world

@[simp] theorem exec_pure (result : Result) (world : World) :
    exec handle (pure result : ExceptT Failure (Program Op Reply) Result) world =
      (.ok result, world) := rfl

@[simp] theorem exec_throw (failure : Failure) (world : World) :
    exec handle (throw failure : ExceptT Failure (Program Op Reply) Result) world =
      (.error failure, world) := rfl

theorem exec_lift (program : Program Op Reply Result) (world : World) :
    exec handle (ExceptT.lift program : ExceptT Failure (Program Op Reply) Result) world =
      (.ok (run handle program world).1, (run handle program world).2) := by
  unfold exec
  rw [ExceptT.run_lift, map_eq_pure_bind, run_bind]
  rfl

theorem exec_bind (program : ExceptT Failure (Program Op Reply) Result)
    (next : Result → ExceptT Failure (Program Op Reply) Other) (world : World) :
    exec handle (program >>= next) world =
      match exec handle program world with
      | (.ok result, after) => exec handle (next result) after
      | (.error failure, after) => (.error failure, after) := by
  unfold exec
  rw [ExceptT.run_bind, run_bind]
  cases run handle program.run world with
  | mk outcome after => cases outcome <;> rfl

theorem exec_bind_ok (program : ExceptT Failure (Program Op Reply) Result)
    (next : Result → ExceptT Failure (Program Op Reply) Other) {world after : World}
    {result : Result} (first : exec handle program world = (.ok result, after)) :
    exec handle (program >>= next) world = exec handle (next result) after := by
  rw [exec_bind, first]

theorem exec_bind_error (program : ExceptT Failure (Program Op Reply) Result)
    (next : Result → ExceptT Failure (Program Op Reply) Other) {world after : World}
    {failure : Failure} (first : exec handle program world = (.error failure, after)) :
    exec handle (program >>= next) world = (.error failure, after) := by
  rw [exec_bind, first]

/-- A program that returned went through each of its parts. -/
theorem exec_bind_returned {program : ExceptT Failure (Program Op Reply) Result}
    {next : Result → ExceptT Failure (Program Op Reply) Other} {world : World} {result : Other}
    (returned : (exec handle (program >>= next) world).1 = .ok result) :
    ∃ middle after, exec handle program world = (.ok middle, after) ∧
      (exec handle (next middle) after).1 = .ok result := by
  rw [exec_bind] at returned
  cases first : exec handle program world with
  | mk outcome after =>
      rw [first] at returned
      cases outcome with
      | ok middle => exact ⟨middle, after, rfl, returned⟩
      | error failure => cases returned

/-- Catching a failure continues in the world the failure left behind. -/
theorem exec_try_catch (program : ExceptT Failure (Program Op Reply) Result)
    (recover : Failure → ExceptT Failure (Program Op Reply) Result) (world : World) :
    exec handle (tryCatchThe Failure program recover) world =
      match exec handle program world with
      | (.ok result, after) => (.ok result, after)
      | (.error failure, after) => exec handle (recover failure) after := by
  unfold exec
  simp only [tryCatchThe, MonadExceptOf.tryCatch, ExceptT.tryCatch, ExceptT.run_mk, run_bind]
  simp only [ExceptT.run]
  cases run handle program world with
  | mk outcome after => cases outcome <;> rfl

/-- Renaming the failures changes nothing else. -/
theorem exec_adapt {Renamed : Type} (rename : Failure → Renamed)
    (program : ExceptT Failure (Program Op Reply) Result) (world : World) :
    exec handle (ExceptT.adapt rename program) world =
      ((exec handle program world).1.mapError rename, (exec handle program world).2) := by
  unfold exec
  rw [ExceptT.run_adapt, map_eq_pure_bind, run_bind]
  rfl

/-- A program that passes exactly when `guard` holds, and that changes nothing
when it does not pass. A transaction is of this kind: its calls may fail, and
only its commit writes. -/
structure Guarded (guard : Prop) (program : ExceptT Failure (Program Op Reply) Result)
    (before : World) (result : Result) (after : World) : Prop where
  passes : guard → exec handle program before = (.ok result, after)
  stops : ¬guard → ∃ failure, exec handle program before = (.error failure, before)

theorem Guarded.bind {handle : (op : Op) → World → Reply op × World} {first second : Prop}
    {program : ExceptT Failure (Program Op Reply) Result}
    {next : Result → ExceptT Failure (Program Op Reply) Other} {before after : World}
    {middle : Result} {result : Other}
    (head : Guarded handle first program before middle before)
    (tail : Guarded handle second (next middle) before result after) :
    Guarded handle (first ∧ second) (program >>= next) before result after := by
  constructor
  · rintro ⟨headHolds, tailHolds⟩
    rw [exec_bind_ok handle program next (head.passes headHolds)]
    exact tail.passes tailHolds
  · intro fails
    by_cases headHolds : first
    · rw [exec_bind_ok handle program next (head.passes headHolds)]
      exact tail.stops fun tailHolds => fails ⟨headHolds, tailHolds⟩
    · obtain ⟨failure, stopped⟩ := head.stops headHolds
      exact ⟨failure, exec_bind_error handle program next stopped⟩

theorem Guarded.iff {handle : (op : Op) → World → Reply op × World} {guard other : Prop}
    {program : ExceptT Failure (Program Op Reply) Result} {before after : World}
    {result : Result} (same : guard ↔ other)
    (guarded : Guarded handle guard program before result after) :
    Guarded handle other program before result after :=
  ⟨fun holds => guarded.passes (same.mpr holds),
    fun fails => guarded.stops fun holds => fails (same.mp holds)⟩

theorem Guarded.pure (handle : (op : Op) → World → Reply op × World) (world : World)
    (result : Result) :
    Guarded handle True (Pure.pure result : ExceptT Failure (Program Op Reply) Result) world
      result world :=
  ⟨fun _ => rfl, fun absurdity => absurd trivial absurdity⟩

/-! ## A pool of programs -/

/-- One call of a program; a finished program stays as it is. -/
def advance (handle : (op : Op) → World → Reply op × World) :
    Program Op Reply Result → World → Program Op Reply Result × World
  | .done result, world => (.done result, world)
  | .call op next, world => (next (handle op world).1, (handle op world).2)

/-- Client `client` makes its next call. -/
def stepClient (handle : (op : Op) → World → Reply op × World) (client : Nat)
    (system : List (Program Op Reply Result) × World) :
    List (Program Op Reply Result) × World :=
  match system.1[client]? with
  | some program =>
      (system.1.set client (advance handle program system.2).1,
        (advance handle program system.2).2)
  | none => system

/-- A move names the client that makes its next call and the environment that
answers it. -/
def stepMove (handle : Env → (op : Op) → World → Reply op × World)
    (system : List (Program Op Reply Result) × World) (move : Nat × Env) :
    List (Program Op Reply Result) × World :=
  stepClient (handle move.2) move.1 system

def headCall : Program Op Reply Result → Option Op
  | .done _ => none
  | .call op _ => some op

/-- The call client `client` is about to make. -/
def nextCall (pool : List (Program Op Reply Result)) (client : Nat) : Option Op :=
  pool[client]?.bind headCall

theorem step_client_world (client : Nat) (system : List (Program Op Reply Result) × World) :
    (stepClient handle client system).2 =
      match nextCall system.1 client with
      | some op => (handle op system.2).2
      | none => system.2 := by
  unfold stepClient nextCall
  cases system.1[client]? with
  | none => rfl
  | some program => cases program <;> rfl

theorem step_client_own {client : Nat} {system : List (Program Op Reply Result) × World}
    {program : Program Op Reply Result} (found : system.1[client]? = some program) :
    (stepClient handle client system).1[client]? = some (advance handle program system.2).1 ∧
      (stepClient handle client system).2 = (advance handle program system.2).2 := by
  unfold stepClient
  rw [found]
  obtain ⟨bound, -⟩ := List.getElem?_eq_some_iff.mp found
  exact ⟨List.getElem?_set_self bound, rfl⟩

theorem step_client_other {client other : Nat} (different : other ≠ client)
    (system : List (Program Op Reply Result) × World) :
    (stepClient handle other system).1[client]? = system.1[client]? := by
  unfold stepClient
  cases system.1[other]? with
  | none => rfl
  | some program => exact List.getElem?_set_ne different

end Program

end HodeiJobs.Library
