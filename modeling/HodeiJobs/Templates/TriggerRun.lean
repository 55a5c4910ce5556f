import HodeiJobs.Outbox.Emitters
import HodeiJobs.Templates.JobTemplate

/-!
# Triggering runs

`TriggerRunHandler::handle`, one step up to each call of a repository or of the event bus, and
the runs in which such calls interleave. The read models are left out.
-/

namespace HodeiJobs.Templates

open HodeiJobs.Execution (JobId UuidText)
open HodeiJobs.Jobs (Floats)
open HodeiJobs.Library
open HodeiJobs.Outbox (DomainEvent FieldTypes)
open HodeiJobs.Sagas (DateTime Uuid UuidSource)
open HodeiJobs.WorkerAgent.Secrets (StringMap)

variable {types : FieldTypes} {floats : Floats}

/-! ## The stores -/

/-- The two tables, and what the event bus has taken. -/
structure Stores (types : FieldTypes) (floats : Floats) where
  templates : JobTemplates floats
  executions : JobExecutions floats
  published : List (DomainEvent (types.withSpecs floats))

namespace Stores

variable (stores : Stores types floats)

/-- The text of a fault is that of the `EventBusError`. -/
def publish (event : DomainEvent (types.withSpecs floats)) (fault : Option String) :
    Except String Unit × Stores types floats :=
  match fault with
  | some problem => (.error problem, stores)
  | none => (.ok (), { stores with published := stores.published ++ [event] })

end Stores

/-! ## The handler -/

structure TriggerRunCommand where
  templateId : JobTemplateId
  jobName : Option String
  triggeredByUser : String
  parameters : StringMap
  triggeredBy : TriggerType

/-- The `ExecutionResult` of the commands. -/
structure TriggerResult where
  executionId : Uuid
  jobId : Option JobId
  jobName : String
  state : JobExecutionStatus
  templateId : JobTemplateId
  templateVersion : UInt32
  triggeredBy : TriggerType
  queuedAt : DateTime

/-- What a call of `handle` does next, with the variables that it needs for it. -/
inductive Stage (floats : Floats) where
  | finding
  | numbering (template : JobTemplate floats)
  | saving (template : JobTemplate floats) (execution : JobExecution floats)
  | linking (template : JobTemplate floats) (execution : JobExecution floats) (job : Job floats)
  | announcing (template : JobTemplate floats) (execution : JobExecution floats) (job : Job floats)
  | creating (template : JobTemplate floats) (execution : JobExecution floats) (job : Job floats)
  | succeeded (template : JobTemplate floats) (execution : JobExecution floats) (job : Job floats)
  | failed (error : DomainError)

/-- The two ids are those that the call draws for its execution and for its job. -/
structure Call (floats : Floats) where
  command : TriggerRunCommand
  executionId : Uuid
  jobId : JobId
  stage : Stage floats

namespace Call

variable (uuids : UuidText) (call : Call floats) (template : JobTemplate floats)

def jobName (number : UInt64) : String :=
  call.command.jobName.getD (template.name ++ "-run-" ++ toString number)

def execution (number : UInt64) (now : DateTime) : JobExecution floats :=
  { JobExecution.new call.executionId template number (call.jobName template number)
      call.command.triggeredBy now with
    triggeredByUser := some call.command.triggeredByUser
    parameters := call.command.parameters }

def templateRunCreated (execution : JobExecution floats) (job : Job floats) :
    DomainEvent (types.withSpecs floats) where
  details := .templateRunCreated (uuids.display template.id.uuid) template.name
    (uuids.display execution.id) (some job.id) execution.jobName template.version
    execution.executionNumber call.command.triggeredBy.display
    (some call.command.triggeredByUser)
  occurredAt := execution.queuedAt
  correlationId := none
  actor := none
  agentless _ := rfl

def jobCreated (execution : JobExecution floats) (job : Job floats) :
    DomainEvent (types.withSpecs floats) where
  details := .jobCreated job.id job.spec
  occurredAt := execution.queuedAt
  correlationId := some (uuids.display execution.id)
  actor := execution.triggeredByUser
  agentless saga := nomatch saga

/-- The next step of `handle`. -/
def handle (now : DateTime) (fault : Option String) (stores : Stores types floats) :
    Stage floats × Stores types floats :=
  match call.stage with
  | .finding =>
      match stores.templates.findById call.command.templateId fault with
      | .error error => (.failed error, stores)
      | .ok none =>
          (.failed (.infrastructureError
            ("Template not found: " ++ uuids.display call.command.templateId.uuid)), stores)
      | .ok (some template) =>
          if template.canCreateRun then (.numbering template, stores)
          else
            (.failed (.templateParameterValidationError
              ("Template is not active: status is " ++ template.status.display)), stores)
  | .numbering template =>
      match stores.executions.getNextExecutionNumber call.command.templateId fault with
      | .error error => (.failed error, stores)
      | .ok number => (.saving template (call.execution template number now), stores)
  | .saving template execution =>
      match stores.executions.save execution fault with
      | (.error error, executions) => (.failed error, { stores with executions })
      | (.ok (), executions) =>
          match template.createRun uuids call.jobId now with
          | .error error =>
              (.failed (.infrastructureError
                ("Failed to create job from template: " ++ error.display)),
                { stores with executions })
          | .ok (job, template) =>
              (.linking template { execution with jobId := some job.id } job,
                { stores with executions })
  | .linking template execution job =>
      match stores.executions.save execution fault with
      | (.error error, executions) => (.failed error, { stores with executions })
      | (.ok (), executions) => (.announcing template execution job, { stores with executions })
  | .announcing template execution job =>
      match stores.publish (call.templateRunCreated uuids template execution job) fault with
      | (.error error, stores) => (.failed (.infrastructureError error), stores)
      | (.ok (), stores) => (.creating template execution job, stores)
  | .creating template execution job =>
      match stores.publish (jobCreated uuids execution job) fault with
      | (.error error, stores) =>
          (.failed (.infrastructureError ("Failed to publish JobCreated event: " ++ error)), stores)
      | (.ok (), stores) => (.succeeded template execution job, stores)
  | .succeeded template execution job => (.succeeded template execution job, stores)
  | .failed error => (.failed error, stores)

/-- What the call returns. -/
def result : Option (Except DomainError TriggerResult) :=
  match call.stage with
  | .succeeded template execution job =>
      some (.ok {
        executionId := execution.id
        jobId := some job.id
        jobName := execution.jobName
        state := execution.state
        templateId := template.id
        templateVersion := template.version
        triggeredBy := call.command.triggeredBy
        queuedAt := execution.queuedAt })
  | .failed error => some (.error error)
  | _ => none

end Call

/-! ## Interleavings -/

inductive TriggerMove where
  | call (command : TriggerRunCommand)
  | handle (position : Nat) (now : DateTime) (fault : Option String)

/-- Calls stay with what they have returned. -/
structure TriggerState (types : FieldTypes) (floats : Floats) where
  stores : Stores types floats
  calls : List (Call floats)
  drawn : List Uuid

namespace TriggerState

variable (uuids : UuidText) (ids : UuidSource) (state : TriggerState types floats)

def start (types : FieldTypes) (templates : JobTemplates floats)
    (executions : JobExecutions floats) : TriggerState types floats where
  stores := ⟨templates, executions, []⟩
  calls := []
  drawn := executions.rows.map JobExecution.id

def call (command : TriggerRunCommand) : TriggerState types floats :=
  let executionId := ids.newV4 state.drawn
  let jobId := ids.newV4 (executionId :: state.drawn)
  { state with
    calls := state.calls ++ [⟨command, executionId, ⟨jobId⟩, .finding⟩]
    drawn := jobId :: executionId :: state.drawn }

def handle (position : Nat) (now : DateTime) (fault : Option String) :
    TriggerState types floats :=
  match state.calls[position]? with
  | none => state
  | some call =>
      let next := call.handle uuids now fault state.stores
      { state with
        stores := next.2
        calls := state.calls.set position { call with stage := next.1 } }

def step (state : TriggerState types floats) : TriggerMove → TriggerState types floats
  | .call command => state.call ids command
  | .handle position now fault => state.handle uuids position now fault

end TriggerState

end HodeiJobs.Templates
