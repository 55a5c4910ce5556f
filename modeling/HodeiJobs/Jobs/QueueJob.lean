import HodeiJobs.Outbox.Emission
import HodeiJobs.Outbox.JobSpecSerde

/-!
# Requests to queue a job

The request of `QueueJobUseCase` and `CreateJobUseCase`, the specification that both make of
it, and the row that the first one writes to the outbox.
-/

namespace HodeiJobs.Jobs

open HodeiJobs.Execution (JobId)
open HodeiJobs.Outbox (OutboxEventInsert RowTexts Serde)
open HodeiJobs.Sagas (DateTime Json)
open HodeiJobs.WorkerAgent.Secrets (StringMap)

structure JobSpecRequest (floats : Floats) where
  command : List String
  image : Option String
  env : Option StringMap
  timeoutMs : Option UInt64
  workingDir : Option String
  cpuCores : Option floats.F64
  memoryBytes : Option Int64
  diskBytes : Option Int64
  preferredProvider : Option String
  preferredRegion : Option String
  requiredLabels : Option StringMap
  requiredAnnotations : Option StringMap

structure QueueJobRequest (floats : Floats) where
  spec : JobSpecRequest floats
  correlationId : Option String
  actor : Option String
  jobId : Option String

variable {floats : Floats}

/-! ## The specification of a request -/

/-- A number of bytes, if it is positive, in mebibytes. -/
def mebibytes (bytes : Option Int64) (otherwise : UInt64) : UInt64 :=
  match bytes with
  | some bytes => if 0 < bytes then (bytes / (1024 * 1024)).toUInt64 else otherwise
  | none => otherwise

/-- A text, if it is not empty. -/
def nonEmpty (text : Option String) (otherwise : Option String) : Option String :=
  match text with
  | some text => if text.isEmpty then otherwise else some text
  | none => otherwise

/-- A map, if it is not empty. -/
def nonEmptyMap (map : Option StringMap) (otherwise : StringMap) : StringMap :=
  match map with
  | some map => if map.rows.isEmpty then otherwise else map
  | none => otherwise

def convertToJobSpec (request : JobSpecRequest floats) : JobSpec floats :=
  let spec := JobSpec.new floats request.command
  { spec with
    image := request.image.or spec.image
    env := request.env.getD spec.env
    timeoutMs := request.timeoutMs.getD spec.timeoutMs
    workingDir := request.workingDir.or spec.workingDir
    resources := { spec.resources with
      cpuCores :=
        match request.cpuCores with
        | some cores => if floats.isPositive cores then floats.narrow cores
            else spec.resources.cpuCores
        | none => spec.resources.cpuCores
      memoryMb := mebibytes request.memoryBytes spec.resources.memoryMb
      storageMb := mebibytes request.diskBytes spec.resources.storageMb }
    preferences := { spec.preferences with
      preferredProvider := nonEmpty request.preferredProvider spec.preferences.preferredProvider
      preferredRegion := nonEmpty request.preferredRegion spec.preferences.preferredRegion
      requiredLabels := nonEmptyMap request.requiredLabels spec.preferences.requiredLabels
      requiredAnnotations :=
        nonEmptyMap request.requiredAnnotations spec.preferences.requiredAnnotations } }

/-! ## The row of a queued job -/

section

variable (texts : RowTexts) (jobId : JobId)

/-- The part of a specification that the row carries. -/
def queuedSpec (spec : JobSpec floats) : Json :=
  .object
    [("command", Serde.text.list spec.commandVec),
      ("timeout_ms", Serde.u64.toValue spec.timeoutMs),
      ("preferred_provider", Serde.text.optional spec.preferences.preferredProvider),
      ("preferred_region", Serde.text.optional spec.preferences.preferredRegion),
      ("required_labels", Serde.stringMap spec.preferences.requiredLabels),
      ("required_annotations", Serde.stringMap spec.preferences.requiredAnnotations)]

def jobQueuedRow (spec : JobSpec floats) (correlationId actor : Option String)
    (now : DateTime) : OutboxEventInsert :=
  .forJob jobId.uuid "JobQueued"
    [("job_id", texts.uuid jobId.uuid), ("spec", queuedSpec spec), ("queued_at", texts.time now)]
    [("source", .string "QueueJobUseCase"),
      ("correlation_id", .string (correlationId.getD (texts.uuids.display jobId.uuid))),
      ("actor", .string (actor.getD "system"))]
    ("job-queued-" ++ texts.uuids.display jobId.uuid)

end

end HodeiJobs.Jobs
