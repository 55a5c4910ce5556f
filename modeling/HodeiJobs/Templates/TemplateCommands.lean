import HodeiJobs.Templates.TriggerRun

/-!
# Template commands and the read model

The command handlers of `jobs/template/handlers`, handled one after the other: each reads and
writes the template repository, publishes, and patches `TemplateReadModel`. Two clock readings in
one handler are one where nothing lies between them. What a repository or the event bus answers is
given with the command.
-/

namespace HodeiJobs.Templates

open HodeiJobs.Execution (JobId UuidText)
open HodeiJobs.Jobs (Floats JobSpec)
open HodeiJobs.Library
open HodeiJobs.Outbox (DomainEvent FieldTypes)
open HodeiJobs.Sagas (DateTime Json Uuid)
open HodeiJobs.WorkerAgent.Secrets (StringMap)

variable {types : FieldTypes} {floats : Floats}

/-! ## Whole templates -/

/-- All of the fields of `JobTemplate`. -/
structure TemplateRecord (floats : Floats) extends JobTemplate floats where
  description : Option String
  labels : StringMap
  createdAt : DateTime
  createdBy : Option String
  successCount : UInt64
  failureCount : UInt64

/-- The `f64` operations of `success_rate`. -/
structure Rates (floats : Floats) where
  zero : floats.F64
  hundred : floats.F64
  ofU64 : UInt64 → floats.F64
  div : floats.F64 → floats.F64 → floats.F64
  mul : floats.F64 → floats.F64 → floats.F64

namespace TemplateRecord

variable (template : TemplateRecord floats)

def new (id : JobTemplateId) (name : String) (spec : JobSpec floats) (now : DateTime) :
    TemplateRecord floats where
  id := id
  name := name
  spec := spec
  status := .active
  version := 1
  updatedAt := now
  runCount := 0
  description := none
  labels := ⟨[], List.nodup_nil⟩
  createdAt := now
  createdBy := none
  successCount := 0
  failureCount := 0

def withDescription (description : String) : TemplateRecord floats :=
  { template with description := some description }

def withLabel (label : String × String) : TemplateRecord floats :=
  { template with labels := template.labels.insert label.1 label.2 }

def withCreatedBy (user : String) : TemplateRecord floats := { template with createdBy := some user }

def disable (now : DateTime) : TemplateRecord floats :=
  { template with status := .disabled, updatedAt := now }

def enable (now : DateTime) : TemplateRecord floats :=
  { template with status := .active, updatedAt := now }

def updateSpec (spec : JobSpec floats) (now : DateTime) : TemplateRecord floats :=
  { template with spec := spec, version := template.version + 1, updatedAt := now }

def successRate (rates : Rates floats) : floats.F64 :=
  let total := template.successCount + template.failureCount
  if total = 0 then rates.zero
  else
    rates.mul (rates.div (rates.ofU64 template.successCount) (rates.ofU64 total)) rates.hundred

end TemplateRecord

/-! ## The repository -/

/-- The stored templates, which are those last saved. -/
abbrev TemplateRecords (floats : Floats) :=
  @Table (TemplateRecord floats) JobTemplateId fun template => template.id

namespace TemplateRecords

variable (records : TemplateRecords floats) (fault : Option String)

/-- What a call answers that fails with this text. -/
def answered (action : String) {Answer : Type} (answer : Answer) : Except DomainError Answer :=
  match fault with
  | some problem => .error (.infrastructureError (action ++ ": " ++ problem))
  | none => .ok answer

def findById (id : JobTemplateId) : Except DomainError (Option (TemplateRecord floats)) :=
  answered fault "Failed to find job template" (records.find id)

def findByName (name : String) : Except DomainError (Option (TemplateRecord floats)) :=
  answered fault "Failed to find job template by name"
    (records.findWhere fun template => template.name = name)

/-- `update` is the same. -/
def save (template : TemplateRecord floats) : Except DomainError (TemplateRecords floats) :=
  answered fault "Failed to save job template" (records.upsert template)

def remove (id : JobTemplateId) : Except DomainError (TemplateRecords floats) :=
  answered fault "Failed to delete job template" (records.delete id)

/-- The templates as a run of them needs them. -/
def templates : JobTemplates floats := records.view TemplateRecord.toJobTemplate fun _ => rfl

end TemplateRecords

/-! ## The read model -/

structure TemplateSummary (floats : Floats) where
  id : JobTemplateId
  name : String
  description : Option String
  status : String
  version : UInt32
  runCount : UInt64
  successCount : UInt64
  failureCount : UInt64
  successRate : floats.F64
  labels : StringMap
  createdAt : DateTime
  updatedAt : DateTime
  createdBy : Option String

def TemplateSummary.from (rates : Rates floats) (template : TemplateRecord floats) :
    TemplateSummary floats where
  id := template.id
  name := template.name
  description := template.description
  status := template.status.display
  version := template.version
  runCount := template.runCount
  successCount := template.successCount
  failureCount := template.failureCount
  successRate := template.successRate rates
  labels := template.labels
  createdAt := template.createdAt
  updatedAt := template.updatedAt
  createdBy := template.createdBy

abbrev TemplateReadModel (floats : Floats) :=
  @Table (TemplateSummary floats) JobTemplateId TemplateSummary.id

namespace TemplateReadModel

variable (rates : Rates floats) (readModel : TemplateReadModel floats)

def create (template : TemplateRecord floats) : TemplateReadModel floats :=
  readModel.upsert (.from rates template)

/-- Only a template that is there is updated. -/
def update (template : TemplateRecord floats) : TemplateReadModel floats :=
  match readModel.find template.id with
  | some _ => readModel.upsert (.from rates template)
  | none => readModel

def getById (id : JobTemplateId) : Option (TemplateSummary floats) := readModel.find id

def incrementRunCount (id : JobTemplateId) : TemplateReadModel floats :=
  Table.update readModel id (fun summary => { summary with runCount := summary.runCount + 1 })
    fun _ => rfl

end TemplateReadModel

/-! ## The commands -/

structure CreateTemplateCommand where
  name : String
  description : Option String
  spec : Json
  labels : StringMap
  createdBy : String

structure UpdateTemplateCommand where
  templateId : JobTemplateId
  description : Option String
  spec : Option Json
  labels : Option StringMap
  updatedBy : String

structure DeleteTemplateCommand where
  templateId : JobTemplateId
  force : Bool
  deletedBy : String

structure DisableTemplateCommand where
  templateId : JobTemplateId
  disabledBy : String

structure EnableTemplateCommand where
  templateId : JobTemplateId
  enabledBy : String

structure TemplateResult where
  templateId : JobTemplateId
  name : String
  version : UInt32
  status : String
  createdAt : DateTime

def TemplateResult.of (template : TemplateRecord floats) : TemplateResult where
  templateId := template.id
  name := template.name
  version := template.version
  status := template.status.display
  createdAt := template.createdAt

/-- The texts with which the calls of a handler fail: to read a template, to write it, and to
publish. -/
structure Faults where
  read : Option String
  write : Option String
  publish : Option String

/-! ## The handlers -/

/-- What the handlers share. -/
structure TemplateStores (types : FieldTypes) (floats : Floats) where
  records : TemplateRecords floats
  executions : JobExecutions floats
  published : List (DomainEvent (types.withSpecs floats))
  readModel : TemplateReadModel floats

/-- `serde_json::from_value`, with the text of its error. -/
abbrev SpecReader (floats : Floats) := Json → Except String (JobSpec floats)

namespace TemplateStores

variable (uuids : UuidText) (rates : Rates floats) (fromValue : SpecReader floats)
  (now : DateTime) (faults : Faults) (stores : TemplateStores types floats)

def load (id : JobTemplateId) : Except DomainError (TemplateRecord floats) :=
  match stores.records.findById faults.read id with
  | .error error => .error error
  | .ok none => .error (.infrastructureError ("Template not found: " ++ uuids.display id.uuid))
  | .ok (some template) => .ok template

/-- The repository is written, then the event is published, and then the read model is patched.
The first failure ends it. -/
def commit (written : Except DomainError (TemplateRecords floats))
    (event : DomainEvent (types.withSpecs floats))
    (patch : TemplateReadModel floats → TemplateReadModel floats) :
    Except DomainError Unit × TemplateStores types floats :=
  match written with
  | .error error => (.error error, stores)
  | .ok records =>
      match faults.publish with
      | some problem => (.error (.infrastructureError problem), { stores with records })
      | none =>
          (.ok (),
            { stores with
              records
              published := stores.published ++ [event]
              readModel := patch stores.readModel })

def templateCreated (template : TemplateRecord floats) (createdBy : Option String)
    (specSummary : String) (occurredAt : DateTime) (actor : String) :
    DomainEvent (types.withSpecs floats) where
  details := .templateCreated (uuids.display template.id.uuid) template.name template.version
    createdBy specSummary
  occurredAt := occurredAt
  correlationId := none
  actor := some actor
  agentless saga := nomatch saga

def templateUpdated (template : TemplateRecord floats) (oldVersion : UInt32) (actor : String) :
    DomainEvent (types.withSpecs floats) where
  details := .templateUpdated (uuids.display template.id.uuid) template.name oldVersion
    template.version (some "spec/description/labels updated")
  occurredAt := template.updatedAt
  correlationId := none
  actor := some actor
  agentless saga := nomatch saga

def templateDisabled (template : TemplateRecord floats) (occurredAt : DateTime) (actor : String) :
    DomainEvent (types.withSpecs floats) where
  details := .templateDisabled (uuids.display template.id.uuid) template.name template.version
  occurredAt := occurredAt
  correlationId := none
  actor := some actor
  agentless saga := nomatch saga

/-- The template that `CreateTemplateHandler` makes. -/
def created (command : CreateTemplateCommand) (id : JobTemplateId) (spec : JobSpec floats) :
    TemplateRecord floats :=
  command.labels.rows.foldl TemplateRecord.withLabel
    (((TemplateRecord.new id command.name spec now).withDescription
      (command.description.getD "")).withCreatedBy command.createdBy)

def createTemplate (command : CreateTemplateCommand) (id : JobTemplateId) :
    Except DomainError TemplateResult × TemplateStores types floats :=
  match stores.records.findByName faults.read command.name with
  | .error error => (.error error, stores)
  | .ok (some _) =>
      (.error (.infrastructureError ("Template with name '" ++ command.name ++ "' already exists")),
        stores)
  | .ok none =>
      match fromValue command.spec with
      | .error problem =>
          (.error (.templateParameterValidationError ("Invalid job spec: " ++ problem)), stores)
      | .ok spec =>
          let template := created now command id spec
          let event := templateCreated uuids template template.createdBy "Template created"
            template.createdAt command.createdBy
          let committed := stores.commit faults (stores.records.save faults.write template) event
            (·.create rates template)
          (committed.1.map fun _ => .of template, committed.2)

/-- The template as `UpdateTemplateHandler` changes it. -/
def updated (command : UpdateTemplateCommand) (template : TemplateRecord floats) :
    Except DomainError (TemplateRecord floats) :=
  let described : TemplateRecord floats :=
    { template with description := command.description.or template.description }
  let specified : Except DomainError (TemplateRecord floats) :=
    match command.spec with
    | none => .ok described
    | some value =>
        match fromValue value with
        | .error problem =>
            .error (.templateParameterValidationError ("Invalid job spec: " ++ problem))
        | .ok spec => .ok (described.updateSpec spec now)
  specified.map fun template => { template with labels := command.labels.getD template.labels }

def updateTemplate (command : UpdateTemplateCommand) :
    Except DomainError TemplateResult × TemplateStores types floats :=
  match stores.load uuids faults command.templateId with
  | .error error => (.error error, stores)
  | .ok old =>
      match updated fromValue now command old with
      | .error error => (.error error, stores)
      | .ok template =>
          let committed := stores.commit faults (stores.records.save faults.write template)
            (templateUpdated uuids template old.version command.updatedBy)
            (TemplateReadModel.update rates · template)
          (committed.1.map fun _ => .of template, committed.2)

/-- `scheduledJobs` is what the lookup of the scheduled jobs answers, with the number of those it
finds. -/
def deleteTemplate (scheduledJobs : Except DomainError Nat) (command : DeleteTemplateCommand) :
    Except DomainError Bool × TemplateStores types floats :=
  match stores.load uuids faults command.templateId with
  | .error error => (.error error, stores)
  | .ok template =>
      let delete : Except DomainError Bool × TemplateStores types floats :=
        let committed := stores.commit faults
          (stores.records.remove faults.write command.templateId)
          (templateDisabled uuids template now command.deletedBy) (·.delete command.templateId)
        (committed.1.map fun _ => true, committed.2)
      if command.force then delete
      else
        match scheduledJobs with
        | .error error => (.error error, stores)
        | .ok 0 => delete
        | .ok number =>
            (.error (.infrastructureError
              ("Cannot delete template: " ++ toString number ++ " scheduled jobs still exist")),
              stores)

def disableTemplate (command : DisableTemplateCommand) :
    Except DomainError TemplateResult × TemplateStores types floats :=
  match stores.load uuids faults command.templateId with
  | .error error => (.error error, stores)
  | .ok old =>
      let template := old.disable now
      let committed := stores.commit faults (stores.records.save faults.write template)
        (templateDisabled uuids template template.updatedAt command.disabledBy)
        (TemplateReadModel.update rates · template)
      (committed.1.map fun _ => .of template, committed.2)

def enableTemplate (command : EnableTemplateCommand) :
    Except DomainError TemplateResult × TemplateStores types floats :=
  match stores.load uuids faults command.templateId with
  | .error error => (.error error, stores)
  | .ok old =>
      let template := old.enable now
      let event := templateCreated uuids template (some command.enabledBy)
        ("Re-enabled v" ++ toString template.version) template.updatedAt command.enabledBy
      let committed := stores.commit faults (stores.records.save faults.write template) event
        (TemplateReadModel.update rates · template)
      (committed.1.map fun _ => .of template, committed.2)

end TemplateStores

/-! ## A whole call of `TriggerRunHandler` -/

/-- The clock and the fault of each step. -/
abbrev Answers := Fin 6 → DateTime × Option String

namespace Call

variable (uuids : UuidText)

/-- One step after the other. -/
def run (call : Call floats) (answers : List (DateTime × Option String))
    (stores : Stores types floats) : Stage floats × Stores types floats :=
  answers.foldl
    (fun current answer =>
      { call with stage := current.1 }.handle uuids answer.1 answer.2 current.2)
    (call.stage, stores)

end Call

def Stage.isSucceeded : Stage floats → Bool
  | .succeeded _ _ _ => true
  | _ => false

namespace TemplateStores

variable (uuids : UuidText) (stores : TemplateStores types floats)

/-- The read model of the templates alone is patched afterwards. -/
def triggerRun (command : TriggerRunCommand) (executionId : Uuid) (jobId : JobId)
    (answers : Answers) : Option (Except DomainError TriggerResult) × TemplateStores types floats :=
  let call : Call floats := ⟨command, executionId, jobId, .finding⟩
  let ended := call.run uuids (List.ofFn answers)
    ⟨stores.records.templates, stores.executions, stores.published⟩
  (Call.result { call with stage := ended.1 },
    { stores with
      executions := ended.2.executions
      published := ended.2.published
      readModel :=
        if ended.1.isSucceeded then stores.readModel.incrementRunCount command.templateId
        else stores.readModel })

end TemplateStores

/-! ## Sequences of commands -/

inductive TemplateMove where
  | create (command : CreateTemplateCommand) (id : JobTemplateId) (now : DateTime) (faults : Faults)
  | update (command : UpdateTemplateCommand) (now : DateTime) (faults : Faults)
  | delete (command : DeleteTemplateCommand) (scheduledJobs : Except DomainError Nat)
      (now : DateTime) (faults : Faults)
  | disable (command : DisableTemplateCommand) (now : DateTime) (faults : Faults)
  | enable (command : EnableTemplateCommand) (now : DateTime) (faults : Faults)
  | triggerRun (command : TriggerRunCommand) (executionId : Uuid) (jobId : JobId)
      (answers : Answers)

namespace TemplateStores

variable (uuids : UuidText) (rates : Rates floats) (fromValue : SpecReader floats)

/-- Any templates are stored, and the read model has their summaries. -/
def start (types : FieldTypes) (records : TemplateRecords floats)
    (executions : JobExecutions floats) : TemplateStores types floats where
  records := records
  executions := executions
  published := []
  readModel := records.view (.from rates) fun _ => rfl

def step (stores : TemplateStores types floats) : TemplateMove → TemplateStores types floats
  | .create command id now faults =>
      (stores.createTemplate uuids rates fromValue now faults command id).2
  | .update command now faults => (stores.updateTemplate uuids rates fromValue now faults command).2
  | .delete command scheduledJobs now faults =>
      (stores.deleteTemplate uuids now faults scheduledJobs command).2
  | .disable command now faults => (stores.disableTemplate uuids rates now faults command).2
  | .enable command now faults => (stores.enableTemplate uuids rates now faults command).2
  | .triggerRun command executionId jobId answers =>
      (stores.triggerRun uuids command executionId jobId answers).2

end TemplateStores

end HodeiJobs.Templates
