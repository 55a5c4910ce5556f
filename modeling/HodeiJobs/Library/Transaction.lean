import Mathlib.Data.List.Basic

/-!
# Statements and transactions

A statement is executed on its own or in a transaction. Once a statement of a transaction
has been refused the others are refused too, and a commit leaves what was there at the start.
-/

namespace HodeiJobs.Library

variable {State Value : Type}

/-- What a statement returns and leaves, or why it is refused. -/
abbrev SqlStatement (State Value : Type) := State → Except String (Value × State)

/-- A statement that is a transaction of its own. -/
def autocommit (statement : SqlStatement State Value) (state : State) :
    Except String Value × State :=
  match statement state with
  | .ok (value, next) => (.ok value, next)
  | .error problem => (.error problem, state)

structure Transaction (State : Type) where
  start : State
  current : State
  aborted : Bool

namespace Transaction

def abortedText : String :=
  "current transaction is aborted, commands ignored until end of transaction block"

def begin (state : State) : Transaction State := ⟨state, state, false⟩

def execute (statement : SqlStatement State Value) (tx : Transaction State) :
    Except String Value × Transaction State :=
  if tx.aborted then (.error abortedText, tx)
  else
    match statement tx.current with
    | .ok (value, next) => (.ok value, { tx with current := next })
    | .error problem => (.error problem, { tx with aborted := true })

def commit (tx : Transaction State) : State := if tx.aborted then tx.start else tx.current

@[simp] theorem commit_begin (state : State) : (begin state).commit = state := rfl

/-- A transaction of one statement answers and leaves what the statement does on its own. -/
theorem execute_begin (statement : SqlStatement State Value) (state : State) :
    ((begin state).execute statement).1 = (autocommit statement state).1 ∧
      ((begin state).execute statement).2.commit = (autocommit statement state).2 := by
  unfold execute autocommit begin
  cases statement state with
  | error problem => simp [commit]
  | ok answer => simp [commit]

/-- An aborted transaction stays so. -/
theorem running_of_execute (statement : SqlStatement State Value) {tx : Transaction State}
    (running : (tx.execute statement).2.aborted = false) : tx.aborted = false := by
  unfold execute at running
  by_cases aborted : tx.aborted = true
  · rw [if_pos aborted] at running
    exact running
  · exact Bool.eq_false_iff.mpr aborted

end Transaction

end HodeiJobs.Library
