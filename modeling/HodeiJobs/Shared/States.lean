import Mathlib.Data.List.Basic

/-!
# Job and worker states

The two state machines of `shared/src/states.rs`.
-/

namespace HodeiJobs.Shared

inductive JobState where
  | pending
  | assigned
  | scheduled
  | running
  | succeeded
  | failed
  | cancelled
  | timeout
  | manualInterventionRequired
  deriving DecidableEq, Repr

namespace JobState

def canTransitionTo : JobState → JobState → Bool
  | .pending, .assigned | .pending, .scheduled | .pending, .failed | .pending, .cancelled
  | .pending, .timeout | .pending, .manualInterventionRequired => true
  | .assigned, .running | .assigned, .failed | .assigned, .timeout | .assigned, .cancelled
  | .assigned, .manualInterventionRequired => true
  | .scheduled, .running | .scheduled, .failed | .scheduled, .timeout | .scheduled, .cancelled
  | .scheduled, .manualInterventionRequired => true
  | .running, .succeeded | .running, .failed | .running, .cancelled | .running, .timeout
  | .running, .manualInterventionRequired => true
  | .manualInterventionRequired, .pending | .manualInterventionRequired, .failed
  | .manualInterventionRequired, .cancelled => true
  | _, _ => false

def isTerminal : JobState → Bool
  | .succeeded | .failed | .cancelled | .timeout => true
  | _ => false

def display : JobState → String
  | .pending => "PENDING"
  | .assigned => "ASSIGNED"
  | .scheduled => "SCHEDULED"
  | .running => "RUNNING"
  | .succeeded => "SUCCEEDED"
  | .failed => "FAILED"
  | .cancelled => "CANCELLED"
  | .timeout => "TIMEOUT"
  | .manualInterventionRequired => "MANUAL_INTERVENTION_REQUIRED"

/-- The `{:?}` text. -/
def debug : JobState → String
  | .pending => "Pending"
  | .assigned => "Assigned"
  | .scheduled => "Scheduled"
  | .running => "Running"
  | .succeeded => "Succeeded"
  | .failed => "Failed"
  | .cancelled => "Cancelled"
  | .timeout => "Timeout"
  | .manualInterventionRequired => "ManualInterventionRequired"

theorem not_transition_of_terminal {state : JobState} (terminal : state.isTerminal = true)
    (next : JobState) : state.canTransitionTo next = false := by
  cases state with
  | succeeded | failed | cancelled | timeout => cases next <;> rfl
  | pending | assigned | scheduled | running | manualInterventionRequired => cases terminal

/-- Only a pending job can be assigned. -/
theorem can_transition_to_assigned_iff (state : JobState) :
    state.canTransitionTo .assigned = true ↔ state = .pending := by
  cases state <;> decide

end JobState

inductive JobResult where
  | success (exitCode : Int) (output errorOutput : String)
  | failed (exitCode : Int) (errorMessage errorOutput : String)
  | cancelled
  | timeout
  deriving DecidableEq, Repr

/-- The state that `Job::complete` gives a job with this result. -/
def JobResult.state : JobResult → JobState
  | .success _ _ _ => .succeeded
  | .failed _ _ _ => .failed
  | .cancelled => .cancelled
  | .timeout => .timeout

inductive WorkerState where
  | creating
  | ready
  | busy
  | terminated
  deriving DecidableEq, Repr

def WorkerState.canTransitionTo : WorkerState → WorkerState → Bool
  | .creating, .ready | .creating, .terminated => true
  | .ready, .busy | .ready, .terminated => true
  | .busy, .terminated => true
  | _, _ => false

/-- The `{:?}` text. -/
def WorkerState.debug : WorkerState → String
  | .creating => "Creating"
  | .ready => "Ready"
  | .busy => "Busy"
  | .terminated => "Terminated"

end HodeiJobs.Shared
