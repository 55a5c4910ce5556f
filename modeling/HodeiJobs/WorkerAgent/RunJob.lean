import HodeiJobs.Jobs.JobSpec
import HodeiJobs.Library.Casts
import HodeiJobs.Sagas.Types

/-!
# The command that runs a job

`build_run_job_command` of the server, and what the worker makes of the message. The timeout goes
from milliseconds in a `u64` to an `i64`, back to a `u64` and then to whole seconds.
-/

namespace HodeiJobs.WorkerAgent

open HodeiJobs.Jobs (ArtifactDest ArtifactSource Floats JobSpec)
open HodeiJobs.Library
open HodeiJobs.Sagas (Duration)
open HodeiJobs.WorkerAgent.Secrets

/-! ## The server -/

structure RunJobCommand where
  jobId : String
  command : Option CommandType
  env : StringMap
  inputs : List ArtifactSource
  outputs : List ArtifactDest
  timeoutMs : Int
  workingDir : String
  stdin : Option String
  secretsJson : Option String

def i64Max : Nat := 2 ^ 63 - 1

def clampTimeoutMs (timeoutMs : UInt64) : Int :=
  if i64Max < timeoutMs.toNat then i64Max else asI64 timeoutMs.toNat

def commandSpec : Jobs.CommandType → CommandType
  | .shell cmd args => .shell cmd args
  | .script interpreter content => .script interpreter content

def buildRunJobCommand {floats : Floats} (jobId : String) (spec : JobSpec floats) :
    RunJobCommand where
  jobId := jobId
  command := some (commandSpec spec.command)
  env := spec.env
  inputs := spec.inputs
  outputs := spec.outputs
  timeoutMs := clampTimeoutMs spec.timeoutMs
  workingDir := spec.workingDir.getD ""
  stdin := spec.stdin
  secretsJson := none

/-! ## The worker -/

/-- `run_job.timeout_ms as u64`, divided by 1000. -/
def timeoutSecs (command : RunJobCommand) : UInt64 := UInt64.ofInt command.timeoutMs / 1000

/-- What the worker does with the message. -/
def runJob (text : Text) (host : Host) (files : Files) (command : RunJobCommand) : Run :=
  executeFromCommand text host files command.jobId command.command command.env
    (some command.workingDir) (some (timeoutSecs command).toNat) command.secretsJson .tmpfsFile

/-- The timeout around the output of a command, of `execute_shell_with_timeout`. -/
def killAfter (timeoutSecs : Option UInt64) : Duration :=
  .fromSecs (timeoutSecs.getD 3600).toNat

/-! ## The timeout of a job -/

section

variable {floats : Floats}

/-- The command of a job has at least the time that the job asks for, as far as the message can
carry it. -/
def KeepsTimeout (jobId : String) (spec : JobSpec floats) : Prop :=
  min spec.timeoutMs.toNat i64Max * 1000000 ≤
    (killAfter (some (timeoutSecs (buildRunJobCommand jobId spec)))).nanos

theorem clamp_timeout_ms_eq (timeoutMs : UInt64) :
    clampTimeoutMs timeoutMs = min timeoutMs.toNat i64Max := by
  unfold clampTimeoutMs
  split_ifs with large
  · rw [Nat.min_eq_right (Nat.le_of_lt large)]
  · have small : timeoutMs.toNat ≤ i64Max := Nat.le_of_not_lt large
    rw [Nat.min_eq_left small]
    unfold i64Max at small
    rw [asI64, BitVec.toInt_ofNat']
    exact Int.bmod_eq_of_le (by omega) (by omega)

theorem timeout_secs_eq (jobId : String) (spec : JobSpec floats) :
    (timeoutSecs (buildRunJobCommand jobId spec)).toNat =
      min spec.timeoutMs.toNat i64Max / 1000 := by
  have message : (buildRunJobCommand jobId spec).timeoutMs =
      (min spec.timeoutMs.toNat i64Max : Nat) := clamp_timeout_ms_eq spec.timeoutMs
  have small : min spec.timeoutMs.toNat i64Max ≤ i64Max := Nat.min_le_right _ _
  have kept := of_int_to_nat (Int.natCast_nonneg (min spec.timeoutMs.toNat i64Max))
    (by unfold i64Max at small ⊢; omega)
  rw [timeoutSecs, message, UInt64.toNat_div]
  have same : (UInt64.ofInt (min spec.timeoutMs.toNat i64Max : Nat)).toNat =
      min spec.timeoutMs.toNat i64Max := Int.ofNat.inj kept
  rw [same]
  rfl

/-- The division drops what is no whole second, and the largest number that the message carries
is none. -/
theorem keeps_timeout_iff_whole_seconds (jobId : String) (spec : JobSpec floats) :
    KeepsTimeout jobId spec ↔ 1000 ∣ spec.timeoutMs.toNat ∧ spec.timeoutMs.toNat ≤ i64Max := by
  have nanos : (killAfter (some (timeoutSecs (buildRunJobCommand jobId spec)))).nanos =
      min spec.timeoutMs.toNat i64Max / 1000 * 1000000000 :=
    congrArg (· * 1000000000) (timeout_secs_eq jobId spec)
  unfold KeepsTimeout
  rw [nanos]
  have whole := Nat.div_add_mod (min spec.timeoutMs.toNat i64Max) 1000
  constructor
  · intro kept
    have divides : min spec.timeoutMs.toNat i64Max % 1000 = 0 := by omega
    have below : spec.timeoutMs.toNat ≤ i64Max := by
      by_contra above
      rw [Nat.min_eq_right (Nat.le_of_not_le above)] at divides
      exact absurd divides (by decide)
    rw [Nat.min_eq_left below] at divides
    exact ⟨Nat.dvd_of_mod_eq_zero divides, below⟩
  · intro ⟨divides, below⟩
    have rest := Nat.mod_eq_zero_of_dvd divides
    rw [Nat.min_eq_left below] at whole ⊢
    omega

/-- A command that asks for half a second. -/
def halfASecond : JobSpec ⟨Unit, Unit, (), fun _ => false, fun _ => true, id⟩ :=
  { JobSpec.withCommand _ (.shell "true" []) with timeoutMs := 500 }

/-- It is killed at once. -/
theorem half_a_second_is_not_kept : ¬KeepsTimeout "job-1" halfASecond := by
  intro kept
  unfold KeepsTimeout at kept
  exact absurd kept (by decide)

end

end HodeiJobs.WorkerAgent
