import Mathlib.Data.List.Basic

/-!
# Methods that change their receiver

A method on `&mut self` with a `Result<()>`: what it assigned before it failed stays
assigned. A method that writes nothing before its last check is a function.
-/

namespace HodeiJobs.Library

abbrev Method (Error State : Type) : Type → Type := ExceptT Error (StateM State)

namespace Method

variable {Error State : Type} {state : State}

def assign (change : State → State) : Method Error State Unit := modify change

/-- A guard: the method returns here unless the receiver is as it should be. -/
def require (allowed : State → Bool) (problem : State → Error) : Method Error State Unit := do
  let state ← get
  if allowed state = false then throw (problem state)

def call (method : Method Error State Unit) (state : State) : Except Error Unit × State :=
  method.run.run state

theorem call_get (next : State → Method Error State Unit) :
    (get >>= next).call state = (next state).call state := rfl

theorem call_require (allowed : State → Bool) (problem : State → Error)
    (rest : Method Error State Unit) :
    (require allowed problem >>= fun _ => rest).call state =
      if allowed state then rest.call state else (.error (problem state), state) := by
  show ((if allowed state = false then throw (problem state) else pure () :
    Method Error State Unit) >>= fun _ => rest).call state = _
  cases allowed state with
  | true => rfl
  | false => rfl

/-! ## Methods as functions -/

/-- The outcome of a method that writes only when it succeeds. -/
def outcome (state : State) : Except Error State → Except Error Unit × State
  | .ok next => (.ok (), next)
  | .error problem => (.error problem, state)

theorem call_bind_ok {first rest : Method Error State Unit} {next : State}
    (done : first.call state = (.ok (), next)) :
    (first >>= fun _ => rest).call state = rest.call next := by
  have run : first.run.run state = (.ok (), next) := done
  simp [call, ExceptT.run_bind, StateT.run_bind, run]
  rfl

theorem call_bind_error {first rest : Method Error State Unit} {problem : Error} {next : State}
    (failed : first.call state = (.error problem, next)) :
    (first >>= fun _ => rest).call state = (.error problem, next) := by
  have run : first.run.run state = (.error problem, next) := failed
  simp [call, ExceptT.run_bind, StateT.run_bind, run]
  rfl

/-- After a method that may refuse, the assignments are made to what it returned. -/
theorem call_then {first rest : Method Error State Unit} {result : Except Error State}
    {change : State → State} (same : first.call state = outcome state result)
    (writes : ∀ next, rest.call next = (.ok (), change next)) :
    (first >>= fun _ => rest).call state = outcome state (result.map change) := by
  cases result with
  | ok next => exact (call_bind_ok same).trans (writes next)
  | error problem => exact call_bind_error same

/-- A refusal leaves the receiver as it was. -/
def RefusalKeeps (method : Method Error State Unit) (state : State) : Prop :=
  ∀ problem, (method.call state).1 = .error problem → (method.call state).2 = state

theorem refusal_keeps_of_outcome {method : Method Error State Unit} {result : Except Error State}
    (same : method.call state = outcome state result) : method.RefusalKeeps state := by
  intro problem refused
  rw [same] at refused ⊢
  cases result with
  | ok next => cases refused
  | error _ => rfl

end Method

end HodeiJobs.Library
