import HodeiJobs.Execution.Repositories
import HodeiJobs.Jobs.JobSpec
import HodeiJobs.Library.Casts

/-!
# Job templates and their executions

`JobTemplate`, the jobs and the executions that are made of it, and the statements of
`PostgresJobTemplateRepository` and `PostgresJobExecutionRepository` that a triggered run needs.
A table holds what its rows decode to.
-/

namespace HodeiJobs.Templates

open HodeiJobs.Execution (JobId UuidText)
open HodeiJobs.Jobs (Floats JobSpec)
open HodeiJobs.Library
open HodeiJobs.Sagas (DateTime Uuid)
open HodeiJobs.WorkerAgent.Secrets (StringMap)

structure JobTemplateId where
  uuid : Uuid
  deriving DecidableEq

inductive JobTemplateStatus where
  | active
  | disabled
  | archived
  deriving DecidableEq

def JobTemplateStatus.display : JobTemplateStatus → String
  | .active => "Active"
  | .disabled => "Disabled"
  | .archived => "Archived"

inductive TriggerType where
  | manual
  | scheduled
  | api
  | webhook
  | retry
  deriving DecidableEq

def TriggerType.display : TriggerType → String
  | .manual => "Manual"
  | .scheduled => "Scheduled"
  | .api => "Api"
  | .webhook => "Webhook"
  | .retry => "Retry"

inductive DomainError where
  | infrastructureError (message : String)
  | invalidProviderConfig (message : String)
  | templateParameterValidationError (message : String)
  deriving DecidableEq

def DomainError.display : DomainError → String
  | .infrastructureError message => "Infrastructure error: " ++ message
  | .invalidProviderConfig message => "Invalid provider configuration: " ++ message
  | .templateParameterValidationError message =>
      "Template parameter validation error: " ++ message

variable {floats : Floats}

/-! ## Templates and jobs -/

structure JobTemplate (floats : Floats) where
  id : JobTemplateId
  name : String
  spec : JobSpec floats
  status : JobTemplateStatus
  version : UInt32
  updatedAt : DateTime
  runCount : UInt64

/-- The fields of a job that a template gives it. -/
structure Job (floats : Floats) where
  id : JobId
  name : String
  spec : JobSpec floats
  metadata : StringMap

namespace JobTemplate

variable (template : JobTemplate floats)

def canCreateRun : Bool := template.status = .active

def linkToTemplate (uuids : UuidText) (job : Job floats) : Job floats :=
  { job with
    metadata := ((job.metadata.insert "template_id" (uuids.display template.id.uuid)).insert
      "template_name" template.name).insert "template_version" (toString template.version) }

/-- The job and the template afterwards. -/
def createRun (uuids : UuidText) (jobId : JobId) (now : DateTime) :
    Except DomainError (Job floats × JobTemplate floats) :=
  if template.canCreateRun then
    let job := ⟨jobId, template.name, template.spec, ⟨[], List.nodup_nil⟩⟩
    .ok (template.linkToTemplate uuids job,
      { template with runCount := template.runCount + 1, updatedAt := now })
  else
    .error (.invalidProviderConfig
      ("Template " ++ uuids.display template.id.uuid ++ " is not active"))

end JobTemplate

/-! ## Executions -/

inductive JobExecutionStatus where
  | queued
  | running
  | succeeded
  | failed
  | error
  deriving DecidableEq

structure ExecutionResult where
  exitCode : Int32
  outputSummary : String
  errorOutput : String
  durationMs : UInt64

structure ResourceUsageSnapshot (floats : Floats) where
  peakCpuPercent : floats.F64
  peakMemoryMb : UInt64
  avgCpuPercent : floats.F64
  avgMemoryMb : UInt64
  diskIoBytes : UInt64
  networkIoBytes : UInt64

structure JobExecution (floats : Floats) where
  id : Uuid
  executionNumber : UInt64
  templateId : JobTemplateId
  templateVersion : UInt32
  jobId : Option JobId
  jobName : String
  jobSpec : JobSpec floats
  state : JobExecutionStatus
  result : Option ExecutionResult
  queuedAt : DateTime
  startedAt : Option DateTime
  completedAt : Option DateTime
  triggeredBy : TriggerType
  scheduledJobId : Option Uuid
  triggeredByUser : Option String
  parameters : StringMap
  resourceUsage : Option (ResourceUsageSnapshot floats)
  metadata : StringMap
  createdAt : DateTime

namespace JobExecution

def new (id : Uuid) (template : JobTemplate floats) (executionNumber : UInt64) (jobName : String)
    (triggeredBy : TriggerType) (now : DateTime) : JobExecution floats where
  id := id
  executionNumber := executionNumber
  templateId := template.id
  templateVersion := template.version
  jobId := none
  jobName := jobName
  jobSpec := template.spec
  state := .queued
  result := none
  queuedAt := now
  startedAt := none
  completedAt := none
  triggeredBy := triggeredBy
  scheduledJobId := none
  triggeredByUser := none
  parameters := ⟨[], List.nodup_nil⟩
  resourceUsage := none
  metadata := ⟨[], List.nodup_nil⟩
  createdAt := now

/-- `DO UPDATE SET` -/
def overwrite (excluded row : JobExecution floats) : JobExecution floats :=
  { row with
    jobId := excluded.jobId
    state := excluded.state
    result := excluded.result
    startedAt := excluded.startedAt
    completedAt := excluded.completedAt
    triggeredByUser := excluded.triggeredByUser
    resourceUsage := excluded.resourceUsage }

/-- The column `execution_number`, a `BIGINT`. -/
def numberColumn (execution : JobExecution floats) : Int := asI64 execution.executionNumber.toNat

end JobExecution

/-! ## The repositories -/

abbrev JobTemplates (floats : Floats) := @Table (JobTemplate floats) JobTemplateId JobTemplate.id

def JobTemplates.findById (templates : JobTemplates floats) (id : JobTemplateId)
    (fault : Option String) : Except DomainError (Option (JobTemplate floats)) :=
  match fault with
  | some problem => .error (.infrastructureError ("Failed to find job template: " ++ problem))
  | none => .ok (templates.find id)

abbrev JobExecutions (floats : Floats) := @Table (JobExecution floats) Uuid JobExecution.id

namespace JobExecutions

variable (executions : JobExecutions floats)

/-- `INSERT … ON CONFLICT (id) DO UPDATE` -/
def insert (execution : JobExecution floats) : JobExecutions floats :=
  match executions.find execution.id with
  | some _ => executions.update execution.id execution.overwrite fun _ => rfl
  | none => executions.upsert execution

/-- `update` does the same. -/
def save (execution : JobExecution floats) (fault : Option String) :
    Except DomainError Unit × JobExecutions floats :=
  match fault with
  | some problem =>
      (.error (.infrastructureError ("Failed to save job execution: " ++ problem)), executions)
  | none => (.ok (), executions.insert execution)

/-- `COALESCE(MAX(execution_number), 0) + 1` -/
def nextNumber (templateId : JobTemplateId) : Int :=
  ((executions.rows.filter fun row => row.templateId = templateId).map
    JobExecution.numberColumn).max?.getD 0 + 1

def getNextExecutionNumber (templateId : JobTemplateId) (fault : Option String) :
    Except DomainError UInt64 :=
  let failed (problem : String) : Except DomainError UInt64 :=
    .error (.infrastructureError ("Failed to get next execution number: " ++ problem))
  match fault with
  | some problem => failed problem
  | none =>
      if executions.nextNumber templateId < 2 ^ 63 then
        .ok (UInt64.ofInt (executions.nextNumber templateId))
      else failed "error returned from database: bigint out of range"

end JobExecutions

namespace JobExecutions

variable {executions : JobExecutions floats}

theorem find_insert_of_absent {execution : JobExecution floats}
    (absent : executions.find execution.id = none) :
    (executions.insert execution).find execution.id = some execution := by
  unfold insert
  rw [absent]
  exact Table.find_upsert_self executions execution

theorem find_insert_of_stored {execution row : JobExecution floats}
    (stored : executions.find execution.id = some row) :
    (executions.insert execution).find execution.id = some (execution.overwrite row) := by
  have updated := Table.find_update executions execution.id execution.overwrite (fun _ => rfl)
    execution.id
  rw [if_pos rfl, stored] at updated
  unfold insert
  rw [stored]
  exact updated

theorem find_insert_other (execution : JobExecution floats) {id : Uuid}
    (other : execution.id ≠ id) :
    (executions.insert execution).find id = executions.find id := by
  unfold insert
  cases executions.find execution.id with
  | none => exact Table.find_upsert_other executions execution other
  | some row =>
      have updated := Table.find_update executions execution.id execution.overwrite
        (fun _ => rfl) id
      rw [if_neg other.symm] at updated
      exact updated

theorem number_column_lt_next (executions : JobExecutions floats) {row : JobExecution floats}
    (stored : row ∈ executions.rows) :
    row.numberColumn < executions.nextNumber row.templateId := by
  let columns := (executions.rows.filter fun other => other.templateId = row.templateId).map
    JobExecution.numberColumn
  have member : row.numberColumn ∈ columns := by
    refine List.mem_map_of_mem (List.mem_filter.mpr ⟨stored, ?_⟩)
    exact decide_eq_true rfl
  have greatest : row.numberColumn ≤ columns.max?.getD 0 := by
    cases largest : columns.max? with
    | none =>
        rw [List.max?_eq_none_iff] at largest
        rw [largest] at member
        cases member
    | some most => exact (List.max?_eq_some_iff.mp largest).2 _ member
  exact Int.lt_add_one_of_le greatest

/-- The next number is that of no execution of the template. -/
theorem number_ne_next {templateId : JobTemplateId} {number : UInt64}
    (next : executions.getNextExecutionNumber templateId none = .ok number)
    {row : JobExecution floats} (stored : row ∈ executions.rows)
    (same : row.templateId = templateId) : row.executionNumber ≠ number := by
  intro taken
  subst same
  simp only [getNextExecutionNumber] at next
  split at next
  · have below := number_column_lt_next executions stored
    have above : -2 ^ 63 ≤ row.numberColumn := le_as_i64 _
    have column : row.numberColumn = executions.nextNumber row.templateId := by
      rw [JobExecution.numberColumn, taken, ← Except.ok.inj next]
      exact as_i64_of_int (by omega) (by assumption)
    omega
  · cases next

end JobExecutions

end HodeiJobs.Templates
